import EventLedger.Time.Date

/-!
# Instants

An instant is a second counted from 1970-01-01T00:00:00Z and a part of it. A leap second is not
counted: it prolongs the last second of its minute, whose part then reaches up to two seconds.

* `Instant`: second and nanoseconds;
* `Instant.before`, `Instant.notAfter`: the order in time;
* `Instant.toMicroseconds`: an instant cut to whole microseconds;
* `Instant.addDays?`, `Instant.daysSince`: arithmetic in whole days;
* `Instant.linearMicroseconds`, `Instant.ofLinearMicroseconds`: an instant as one count, which knows
  no leap second.
-/

namespace EventLedger

/-- A point in time; only the last second of a minute may be prolonged by a leap second. -/
structure Instant where
  seconds : Int
  nanos : Nat
  inSecond : nanos < 1000000000 ∨ (nanos < 2000000000 ∧ seconds % 60 = 59)
  deriving DecidableEq, Repr

namespace Instant

/-- The full second `n`. -/
def ofSeconds (n : Int) : Instant := ⟨n, 0, Or.inl (by decide)⟩

/-- Midnight of 1970-01-01. -/
def epoch : Instant := ofSeconds 0

/-- One instant lies before the other. -/
def before (a b : Instant) : Bool :=
  a.seconds < b.seconds || (a.seconds == b.seconds && a.nanos < b.nanos)

/-- One instant lies before the other or is the same. -/
def notAfter (a b : Instant) : Bool := !b.before a

/-- How two instants are ordered. -/
def compare (a b : Instant) : Ordering :=
  if a.before b then .lt else if b.before a then .gt else .eq

/-- The day of an instant, counted from 1970-01-01. -/
def dayNumber (t : Instant) : Int := t.seconds / 86400

/-- The day of an instant. -/
def date (t : Instant) : Date := .ofDayNumber t.dayNumber

/-- The second of its day. -/
def secondOfDay (t : Instant) : Nat := (t.seconds % 86400).toNat

/-- The instant lies in a year of the calendar. -/
def inCalendar (t : Instant) : Bool := t.date.inCalendar

/-- The instant cut to whole microseconds. -/
def toMicroseconds (t : Instant) : Instant :=
  ⟨t.seconds, t.nanos - t.nanos % 1000, by have := t.inSecond; omega⟩

/-- The instant `days` whole days later or, for a negative count, earlier. Leaving a leap second
forward drops it, leaving it backward counts it as the second after. -/
def shiftDays (t : Instant) (days : Int) : Instant :=
  if h : t.nanos < 1000000000 then ⟨t.seconds + days * 86400, t.nanos, Or.inl h⟩
  else if 0 < days then
    ⟨t.seconds + days * 86400, t.nanos - 1000000000, by have := t.inSecond; omega⟩
  else if days < 0 then
    ⟨t.seconds + days * 86400 + 1, t.nanos - 1000000000, by have := t.inSecond; omega⟩
  else t

/-- The instant `days` whole days later; nothing if that leaves the calendar. -/
def addDays? (t : Instant) (days : Int) : Option Instant :=
  let shifted := t.shiftDays days
  if shifted.inCalendar then some shifted else none

/-- Nanoseconds from `b` to `a`. A leap second between two times of day counts. -/
def nanosSince (a b : Instant) : Int :=
  let leap : Int :=
    if b.secondOfDay < a.secondOfDay then (if 1000000000 ≤ b.nanos then 1 else 0)
    else if a.secondOfDay < b.secondOfDay then (if 1000000000 ≤ a.nanos then -1 else 0)
    else 0
  (a.seconds - b.seconds + leap) * 1000000000 + ((a.nanos : Int) - (b.nanos : Int))

/-- Whole days from `b` to `a`, without the part of a day that remains. -/
def daysSince (a b : Instant) : Int := (a.nanosSince b).tdiv (86400 * 1000000000)

/-- The second of 2000-01-01T00:00:00Z. -/
def linearOrigin : Int := 946684800

/-- Microseconds since 2000-01-01T00:00:00Z, cut toward that instant. -/
def linearMicroseconds (t : Instant) : Int :=
  ((t.seconds - linearOrigin) * 1000000000 + (t.nanos : Int)).tdiv 1000

/-- The instant so many microseconds after 2000-01-01T00:00:00Z. -/
def ofLinearMicroseconds (n : Int) : Instant :=
  ⟨n / 1000000 + linearOrigin, (n % 1000000).toNat * 1000, by omega⟩

end Instant

end EventLedger
