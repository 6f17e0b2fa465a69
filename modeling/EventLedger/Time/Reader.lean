import EventLedger.Text.Blank
import EventLedger.Time.Instant

/-!
# Reading instants

A date, one of `T`, `t` and a blank, a time of day and an offset. White space is allowed in front of
each number, of the separators `-` and `:` and of the offset, and at the end. Numbers may be shorter
than usual; a year with a sign may be longer. Digits behind the ninth of a fraction are dropped.
Second 60 is a leap second. The offset is `Z`, `UTC` or a sign with hours and minutes. The text is
read from the left and the first fault counts.

* `TimestampError`, `TimestampError.message`: why a text is no instant;
* `Instant.read`: the instant of a text.
-/

namespace EventLedger

/-- Why a text denotes no instant. -/
inductive TimestampError where
  /-- A character stands where another one is needed. -/
  | invalid
  /-- The text ends too early. -/
  | tooShort
  /-- A number or the date does not exist. -/
  | outOfRange
  /-- Something follows the offset. -/
  | tooLong
  /-- The offset leads out of the calendar. -/
  | impossible
  deriving DecidableEq, Repr

/-- The wording of a timestamp error. -/
def TimestampError.message : TimestampError → String
  | .invalid => "input contains invalid characters"
  | .tooShort => "premature end of input"
  | .outOfRange => "input is out of range"
  | .tooLong => "trailing input"
  | .impossible => "no possible date and time matching input"

namespace Instant

/-- A reader takes characters from the front of a text. -/
abbrev Reader := StateT (List Char) (Except TimestampError)

/-- Nothing is read; the fault `e` is reported. -/
def fault {α : Type} (e : TimestampError) : Reader α := fun _ => .error e

/-- White space is skipped. -/
def skipBlank : Reader Unit := fun cs => .ok ((), Text.trimStart cs)

/-- Up to `width` digits, the value so far being `acc`. -/
def moreDigits : (width acc : Nat) → List Char → Nat × List Char
  | 0, acc, cs => (acc, cs)
  | _ + 1, acc, [] => (acc, [])
  | width + 1, acc, c :: cs =>
    match Text.digit? c with
    | none => (acc, c :: cs)
    | some d => moreDigits width (acc * 10 + d) cs

/-- A number of one digit to `width` digits. -/
def digits (width : Nat) : Reader Nat := fun cs =>
  match cs with
  | [] => .error .tooShort
  | c :: cs =>
    match Text.digit? c with
    | none => .error .invalid
    | some d => .ok (moreDigits (width - 1) d cs)

/-- A number of as many digits as there are. -/
def allDigits : Reader Nat := fun cs => digits cs.length cs

/-- A number of one or two digits between `least` and `most`. -/
def field (least most : Nat) : Reader Nat := do
  skipBlank
  let n ← digits 2
  if least ≤ n ∧ n ≤ most then pure n else fault .outOfRange

/-- A year: four digits at most, or a sign and any number of digits. -/
def unboundedYear : Reader Int := fun cs =>
  match cs with
  | '-' :: cs => (allDigits cs).map fun r => (-(r.1 : Int), r.2)
  | '+' :: cs => (allDigits cs).map fun r => ((r.1 : Int), r.2)
  | cs => (digits 4 cs).map fun r => ((r.1 : Int), r.2)

/-- A year that is a number of 32 bits. -/
def year : Reader Int := do
  skipBlank
  let y ← unboundedYear
  if Text.i32.holds y then pure y else fault .outOfRange

/-- A character that has to stand in front. -/
def literal (c : Char) : Reader Unit := fun cs =>
  match cs with
  | [] => .error .tooShort
  | d :: rest => if d = c then .ok ((), rest) else .error .invalid

/-- A separator, white space in front of it being skipped. -/
def separator (c : Char) : Reader Unit := do
  skipBlank
  literal c

/-- The nanoseconds of a fraction, if there is one. -/
def fraction : Reader Nat := fun cs =>
  match cs with
  | '.' :: cs => do
    let (n, rest) ← digits 9 cs
    let width := cs.length - rest.length
    .ok (n * Nat.pow 10 (9 - width), rest.dropWhile fun c => (Text.digit? c).isSome)
  | cs => .ok (0, cs)

/-- Two digits, of which the first is below `tens`; a greater first digit is out of range. -/
def twoDigits (tens : Nat) : Reader Nat := fun cs =>
  match cs with
  | [] => .error .tooShort
  | [c] => if c.utf8Size = 1 then .error .tooShort else .error .invalid
  | a :: b :: rest =>
    match Text.digit? a, Text.digit? b with
    | some m, some n => if m < tens then .ok (m * 10 + n, rest) else .error .outOfRange
    | _, _ => .error .invalid

/-- Colons and white space are skipped. -/
def skipColons : Reader Unit := fun cs =>
  .ok ((), cs.dropWhile fun c => c == ':' || Text.isBlank c)

/-- The hours and minutes behind the sign of an offset, in seconds. -/
def offsetSize : Reader Nat := do
  let hours ← twoDigits 10
  skipColons
  let minutes ← twoDigits 6
  pure (hours * 3600 + minutes * 60)

/-- The character is a letter, given in upper case, in either case. -/
def isLetter (upper c : Char) : Bool := c == upper || c.toNat == upper.toNat + 0x20

/-- The word `UTC` in any case. -/
def utcWord : Reader Int := fun cs =>
  match cs with
  | u :: t :: c :: rest =>
    if isLetter 'U' u && isLetter 'T' t && isLetter 'C' c then .ok (0, rest) else .error .invalid
  | _ => .error .invalid

/-- An offset from UTC in seconds. -/
def offset : Reader Int := fun cs =>
  match cs with
  | [] => .error .tooShort
  | c :: rest =>
    if isLetter 'Z' c then .ok (0, rest)
    else if c = '+' then (offsetSize rest).map fun r => ((r.1 : Int), r.2)
    else if c = '-' ∨ c = '−' then (offsetSize rest).map fun r => (-(r.1 : Int), r.2)
    else utcWord (c :: rest)

/-- The date in front. -/
def dateInFront : Reader Date := do
  let y ← year
  separator '-'
  let m ← field 1 12
  separator '-'
  let d ← field 1 31
  pure ⟨y, m, d⟩

/-- A time of day: minute of the day, second of the minute, nanoseconds. -/
structure TimeOfDay where
  minute : Nat
  second : Nat
  nanos : Nat

/-- The time of day in front. -/
def timeInFront : Reader TimeOfDay := do
  let h ← field 0 23
  separator ':'
  let m ← field 0 59
  separator ':'
  let s ← field 0 60
  let n ← fraction
  pure ⟨h * 60 + m, s, n⟩

/-- What stands between date and time. -/
def between : Reader Unit := fun cs =>
  match cs with
  | [] => .error .tooShort
  | c :: cs => if c = 'T' ∨ c = 't' ∨ c = ' ' then .ok ((), cs) else .error .invalid

/-- Nothing but white space is left. -/
def atEnd : Reader Unit := fun cs =>
  if (Text.trimStart cs).isEmpty then .ok ((), []) else .error .tooLong

/-- The instant of a minute, a second from 0 to 60 and a fraction of it. -/
def ofParts (minute : Int) (second nanos : Nat) : Option Instant :=
  if h : second < 60 ∧ nanos < 1000000000 then some ⟨minute * 60 + second, nanos, Or.inl h.2⟩
  else if h : second = 60 ∧ nanos < 1000000000 then
    some ⟨minute * 60 + 59, nanos + 1000000000, by omega⟩
  else none

/-- The instant of a date and a time of day at an offset. -/
def ofLocal (date : Date) (time : TimeOfDay) (offset : Int) : Except TimestampError Instant :=
  if date.valid ∧ date.inCalendar ∧ offset.natAbs < 86400 then
    match ofParts (date.dayNumber * 1440 + time.minute - offset / 60) time.second time.nanos with
    | some t => if t.inCalendar then .ok t else .error .impossible
    | none => .error .outOfRange
  else .error .outOfRange

/-- Date, time of day and offset of a whole text. -/
def parts : Reader (Date × TimeOfDay × Int) := do
  let date ← dateInFront
  between
  let time ← timeInFront
  skipBlank
  let shift ← offset
  atEnd
  pure (date, time, shift)

/-- The instant that a text denotes. -/
def read (s : String) : Except TimestampError Instant := do
  let ((date, time, shift), _) ← parts s.toList
  ofLocal date time shift

end Instant

end EventLedger
