import EventLedger.Time.Instant

/-!
# Written instants

All forms are in UTC. A leap second is written as second 60.

* `Fraction`: how many digits stand behind the second;
* `Instant.wireText`: `2024-01-31T12:00:00.250Z`, with the fewest digits of 0, 3, 6 and 9;
* `Instant.sealText`: the same with exactly six digits;
* `Instant.displayText`: `2024-01-31 12:00:00.250 UTC`.
-/

namespace EventLedger

/-- The digits behind a second. -/
inductive Fraction where
  /-- None, three, six or nine: the fewest that are exact. -/
  | fewest
  /-- Six, the rest cut off. -/
  | microseconds

namespace Instant

/-- The nanoseconds within the second that is written. -/
def writtenNanos (t : Instant) : Nat := t.nanos % 1000000000

/-- The second of the minute; 60 for a leap second. -/
def writtenSecond (t : Instant) : Nat := t.secondOfDay % 60 + t.nanos / 1000000000

/-- The digits behind the second, with their point. -/
def fractionText (f : Fraction) (t : Instant) : String :=
  let n := t.writtenNanos
  match f with
  | .microseconds => "." ++ Text.padded 6 (n / 1000)
  | .fewest =>
    if n = 0 then ""
    else if n % 1000000 = 0 then "." ++ Text.padded 3 (n / 1000000)
    else if n % 1000 = 0 then "." ++ Text.padded 6 (n / 1000)
    else "." ++ Text.padded 9 n

/-- The time of day. -/
def timeText (f : Fraction) (t : Instant) : String :=
  Text.padded 2 (t.secondOfDay / 3600) ++ ":" ++ Text.padded 2 (t.secondOfDay / 60 % 60) ++ ":" ++
    Text.padded 2 t.writtenSecond ++ fractionText f t

/-- Date and time with `between` in the middle and `zone` behind. -/
def textWith (f : Fraction) (between zone : String) (t : Instant) : String :=
  t.date.text ++ between ++ timeText f t ++ zone

/-- The form in JSON documents. -/
def wireText (t : Instant) : String := t.textWith .fewest "T" "Z"

/-- The form that is hashed. -/
def sealText (t : Instant) : String := t.textWith .microseconds "T" "Z"

/-- The form in messages. -/
def displayText (t : Instant) : String := t.textWith .fewest " " " UTC"

end Instant

end EventLedger
