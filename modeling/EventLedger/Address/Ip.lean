import EventLedger.Text.Integer
import EventLedger.Text.Segments

/-!
# Numeric addresses

* `Ip.isDotted`: four numbers with points between them;
* `Ip.isGrouped`: eight groups of hexadecimal digits with colons between them;
* `Ip.number?`, `Ip.endsInNumber`, `Ip.loose?`: the looser spelling of numbers in host names;
* `Ip.needsNoLookup`: a name that is an address.
-/

namespace EventLedger.Ip

/-- A number up to 255 in decimal, without needless zeros. -/
def isOctet (cs : List Char) : Bool :=
  cs.length ≤ 3 && (cs.length == 1 || cs.head? != some '0') &&
    match Text.readDigits 255 .tooLarge 0 cs with
    | .ok _ => !cs.isEmpty
    | .error _ => false

/-- Four numbers up to 255 with points between them. -/
def isDotted (cs : List Char) : Bool :=
  let parts := Text.segments '.' cs
  parts.length == 4 && parts.all isOctet

/-- One to four hexadecimal digits. -/
def isGroup (cs : List Char) : Bool :=
  !cs.isEmpty && cs.length ≤ 4 && cs.all fun c => (Text.hexDigit? c).isSome

/-- The number of groups that parts stand for. The last part may be dotted; it stands for two. -/
def groups? : List (List Char) → Option Nat
  | [] => some 0
  | [part] => if isGroup part then some 1 else if isDotted part then some 2 else none
  | part :: rest => if isGroup part then (groups? rest).map (· + 1) else none

/-- A text in front of the first two colons in a row, and behind them. -/
def splitGap : List Char → Option (List Char × List Char)
  | [] => none
  | ':' :: ':' :: rest => some ([], rest)
  | c :: rest => (splitGap rest).map fun (left, right) => (c :: left, right)

/-- The parts of one side of a gap. -/
def sideParts (cs : List Char) : List (List Char) :=
  if cs.isEmpty then [] else Text.segments ':' cs

/-- Eight groups with colons between them; two colons in a row stand, once, for one or more. -/
def isGrouped (cs : List Char) : Bool :=
  match splitGap cs with
  | none => groups? (Text.segments ':' cs) == some 8
  | some (left, right) =>
    let front := sideParts left
    front.all isGroup && (groups? (sideParts right)).any fun n => front.length + n ≤ 7

/-- An address in either form. -/
def isAddress (cs : List Char) : Bool := isDotted cs || isGrouped cs

/-! ## The looser spelling -/

/-- The value of digits, all of which have to be known. -/
def valueOf (base : Nat) (digit? : Char → Option Nat) (cs : List Char) : Option Nat :=
  cs.foldl (fun value c => do pure (base * (← value) + (← digit? c))) (some 0)

/-- The value of an octal digit. -/
def octalDigit? (c : Char) : Option Nat := (Text.digit? c).filter (· < 8)

/-- A number in a host name: hexadecimal behind `0x`, octal behind `0`, or else decimal. -/
def number? : List Char → Option Nat
  | [] => none
  | '0' :: 'x' :: cs => valueOf 16 Text.hexDigit? cs
  | '0' :: 'X' :: cs => valueOf 16 Text.hexDigit? cs
  | '0' :: c :: cs => valueOf 8 octalDigit? (c :: cs)
  | cs => valueOf 10 Text.digit? cs

/-- The parts of a host name; a point at its end does not count. -/
def nameParts (cs : List Char) : List (List Char) :=
  let parts := Text.segments '.' cs
  if 2 ≤ parts.length ∧ parts.getLast? = some [] then parts.dropLast else parts

/-- The last part of a host name is a number, so that the whole name has to be an address. -/
def endsInNumber (cs : List Char) : Bool :=
  (nameParts cs).getLast?.any fun last =>
    !last.isEmpty && last.all (fun c => (Text.digit? c).isSome) || (number? last).isSome

/-- The value of numbers of which the last takes all the bytes that the others leave. -/
def looseValue? : (bytes : Nat) → List Nat → Option Nat
  | bytes, [last] => if last < Nat.pow 256 bytes then some last else none
  | bytes + 1, n :: rest =>
    if n ≤ 255 then (looseValue? bytes rest).map (n * Nat.pow 256 bytes + ·) else none
  | _, _ => none

/-- The address that a host name stands for: one to four numbers with points between them. -/
def loose? (cs : List Char) : Option Nat := do
  let numbers ← (nameParts cs).mapM number?
  if numbers.length ≤ 4 then looseValue? 4 numbers else none

/-- A name that has to be looked up nowhere: an address in either form, or numbers with points
between them, each of which has digits. -/
def needsNoLookup (cs : List Char) : Bool :=
  isAddress cs || ((loose? cs).isSome &&
    (Text.segments '.' cs).all fun part => part.getLast?.any fun c => (Text.hexDigit? c).isSome)

/-- An address of four bytes in decimal, with points between them. -/
def dotted (address : Nat) : String :=
  ".".intercalate ([3, 2, 1, 0].map fun i => toString (address / Nat.pow 256 i % 256))

end EventLedger.Ip
