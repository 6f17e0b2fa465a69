import EventLedger.Decimal.Shortest
import EventLedger.Json.Basic

/-!
# JSON text

* `Json.quoted`: a text in quotes, with its escapes;
* `Json.floatText`: a number with fraction or exponent, in the fewest digits that read back;
* `Json.compact`: a value without any white space;
* `Json.pretty`: a value over several lines, each level indented by two spaces.
-/

namespace EventLedger.Json

open Decimal (Binary64)

/-- The escape of a control character by its code. -/
def controlEscape (n : Nat) : List Char :=
  ['\\', 'u', '0', '0', Nat.digitChar (n / 16), Nat.digitChar (n % 16)]

/-- One character inside quotes. -/
def escapeChar (c : Char) : List Char :=
  if c = '"' then ['\\', '"']
  else if c = '\\' then ['\\', '\\']
  else if c.toNat = 8 then ['\\', 'b']
  else if c.toNat = 9 then ['\\', 't']
  else if c.toNat = 10 then ['\\', 'n']
  else if c.toNat = 12 then ['\\', 'f']
  else if c.toNat = 13 then ['\\', 'r']
  else if c.toNat < 0x20 then controlEscape c.toNat
  else [c]

/-- A text in quotes, as characters. -/
def quote (cs : List Char) : List Char := '"' :: cs.flatMap escapeChar ++ ['"']

/-- A text in quotes. -/
def quoted (s : String) : String := String.ofList (quote s.toList)

/-- The powers of ten of the first digit that are written without an exponent. -/
structure PlainRange where
  least : Int
  most : Int

/-- Numbers from `0.00001` to below `1e16` are written without an exponent. -/
def plainRange : PlainRange := ⟨-5, 15⟩

/-- An exponent with its sign. -/
def exponentText (n : Int) : List Char :=
  'e' :: (if n < 0 then '-' else '+') :: Nat.toDigits 10 n.natAbs

/-- The magnitude `digits · 10 ^ power`: at least one digit stands on each side of the point, and a
number outside the plain range has an exponent instead. -/
def decimalText (digits : Nat) (power : Int) : List Char :=
  let ds := Nat.toDigits 10 digits
  let point : Int := (ds.length : Int) + power
  if 0 ≤ power ∧ point ≤ plainRange.most + 1 then
    ds ++ List.replicate power.toNat '0' ++ ['.', '0']
  else if 0 < point ∧ point ≤ plainRange.most + 1 then
    ds.take point.toNat ++ '.' :: ds.drop point.toNat
  else if plainRange.least < point ∧ point ≤ 0 then
    '0' :: '.' :: List.replicate (-point).toNat '0' ++ ds
  else
    let fraction := if ds.length = 1 then [] else '.' :: ds.drop 1
    ds.take 1 ++ fraction ++ exponentText (point - 1)

/-- A number with fraction or exponent. -/
def floatText (x : Binary64) : String :=
  let magnitude :=
    if x.isZero then ['0', '.', '0']
    else
      let (digits, power) := x.shortest
      decimalText digits power
  String.ofList (if x.negative then '-' :: magnitude else magnitude)

/-- A truth value. -/
def boolText (b : Bool) : String := if b then "true" else "false"

mutual

/-- A value without any white space. -/
def compact : Json → String
  | .arr items => "[" ++ compactItems items ++ "]"
  | .obj members => "\x7b" ++ compactMembers members ++ "\x7d"
  | .null => "null"
  | .bool b => boolText b
  | .int n => toString n
  | .float x => floatText x
  | .str s => quoted s

/-- The items of an array with commas between them. -/
def compactItems : List Json → String
  | [] => ""
  | [x] => compact x
  | x :: y :: rest => compact x ++ "," ++ compactItems (y :: rest)

/-- The members of an object with commas between them. -/
def compactMembers : List (String × Json) → String
  | [] => ""
  | [(k, x)] => quoted k ++ ":" ++ compact x
  | (k, x) :: m :: rest => quoted k ++ ":" ++ compact x ++ "," ++ compactMembers (m :: rest)

end

/-- A line break and the indentation of a level. -/
def lineBreak (level : Nat) : String := "\n" ++ String.ofList (List.replicate (2 * level) ' ')

mutual

/-- A value over several lines, its first line standing at `level`. -/
def prettyAt (level : Nat) : Json → String
  | .arr [] => "[]"
  | .arr (x :: xs) => "[" ++ prettyItems (level + 1) (x :: xs) ++ lineBreak level ++ "]"
  | .obj [] => "\x7b\x7d"
  | .obj (m :: ms) => "\x7b" ++ prettyMembers (level + 1) (m :: ms) ++ lineBreak level ++ "\x7d"
  | .null => "null"
  | .bool b => boolText b
  | .int n => toString n
  | .float x => floatText x
  | .str s => quoted s

/-- The items of an array, each on lines of its own. -/
def prettyItems (level : Nat) : List Json → String
  | [] => ""
  | [x] => lineBreak level ++ prettyAt level x
  | x :: y :: rest => lineBreak level ++ prettyAt level x ++ "," ++ prettyItems level (y :: rest)

/-- The members of an object, each on lines of its own. -/
def prettyMembers (level : Nat) : List (String × Json) → String
  | [] => ""
  | [(k, x)] => lineBreak level ++ quoted k ++ ": " ++ prettyAt level x
  | (k, x) :: m :: rest =>
    lineBreak level ++ quoted k ++ ": " ++ prettyAt level x ++ "," ++
      prettyMembers level (m :: rest)

end

/-- A value over several lines, each level indented by two spaces. -/
def pretty (j : Json) : String := prettyAt 0 j

end EventLedger.Json
