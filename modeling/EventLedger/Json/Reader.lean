import EventLedger.Json.Basic
import EventLedger.Text.Integer

/-!
# Reading JSON text

A whole number between `-2 ^ 63` and `2 ^ 64 - 1` stays whole. Any other number becomes a binary
floating-point number in three steps, each of which rounds: its leading digits that fit into 64 bits
are taken, rounded to a float, and multiplied or divided by a rounded power of ten. Of two members
of one name the later counts. Values nest at most 127 deep.

* `NumberText`, `NumberText.value?`: the parts of a number and what it denotes;
* `readNumber`, `readString`, `readValue`: readers that return what is left behind;
* `Json.read?`: the value a text denotes.
-/

namespace EventLedger.Json

open Decimal (Binary64)

/-! ## Numbers -/

/-- The parts of a written number. -/
structure NumberText where
  negative : Bool
  whole : List Nat
  fraction : Option (List Nat)
  exponent : Option Int

/-- Leading digits gathered into a number of 64 bits: the number, and the digits that did not fit.
-/
def gather : Nat → List Nat → Nat × List Nat
  | acc, [] => (acc, [])
  | acc, d :: ds =>
    if Nat.pow 2 64 ≤ acc * 10 + d then (acc, d :: ds) else gather (acc * 10 + d) ds

/-- The greatest power of ten that a float holds. -/
def greatestPower : Nat := 308

/-- The float nearest to a power of ten. -/
def powerOfTen (n : Nat) : Option Binary64 := Binary64.ofRatio false (Nat.pow 10 n) 1

/-- A float times a power of ten, in rounded steps of at most `10 ^ 308`; `fuel` bounds the steps
downwards, of which the third reaches zero at the latest. -/
def scaleByTen (x : Binary64) (exponent : Int) : (fuel : Nat) → Option Binary64
  | 0 => some (.zero x.negative)
  | fuel + 1 =>
    if exponent.natAbs ≤ greatestPower then do
      let p ← powerOfTen exponent.natAbs
      if 0 ≤ exponent then x.mul p else x.div p
    else if x.isZero then some x
    else if 0 ≤ exponent then none
    else do
      let p ← powerOfTen greatestPower
      let y ← x.div p
      scaleByTen y (exponent + greatestPower) fuel

/-- The value of a written number; nothing if it is beyond the largest float. -/
def NumberText.value? (t : NumberText) : Option Json :=
  let (whole, dropped) := gather 0 t.whole
  let plain := t.fraction.isNone && t.exponent.isNone && dropped.isEmpty
  if plain && !t.negative then some (.int whole)
  else if plain && 0 < whole && whole ≤ Nat.pow 2 63 then some (.int (-(whole : Int)))
  else do
    let fraction := t.fraction.getD []
    let (significand, unread) := gather whole fraction
    let kept := fraction.length - unread.length
    let power : Int := (dropped.length : Int) - kept + t.exponent.getD 0
    let x ← Binary64.ofRatio false significand 1
    let y ← scaleByTen x power 4
    some (.float (if t.negative then y.neg else y))

/-- The digits in front. -/
def leadingDigits : List Char → List Nat × List Char
  | [] => ([], [])
  | c :: cs =>
    match Text.digit? c with
    | some d =>
      let (ds, rest) := leadingDigits cs
      (d :: ds, rest)
    | none => ([], c :: cs)

/-- The value of decimal digits. -/
def digitsValue (ds : List Nat) : Nat := ds.foldl (fun acc d => acc * 10 + d) 0

/-- The whole part of a number: `0` alone, or digits that do not start with `0`. -/
def readWhole (cs : List Char) : Option (List Nat × List Char) :=
  match leadingDigits cs with
  | ([], _) => none
  | (0 :: _ :: _, _) => none
  | (ds, rest) => some (ds, rest)

/-- The fraction of a number, if there is one. -/
def readFraction : List Char → Option (Option (List Nat) × List Char)
  | '.' :: cs =>
    match leadingDigits cs with
    | ([], _) => none
    | (ds, rest) => some (some ds, rest)
  | cs => some (none, cs)

/-- The digits of an exponent. -/
def readExponentDigits (negative : Bool) (cs : List Char) : Option (Option Int × List Char) :=
  match leadingDigits cs with
  | ([], _) => none
  | (ds, rest) =>
    let n : Int := digitsValue ds
    some (some (if negative then -n else n), rest)

/-- The exponent of a number, if there is one. -/
def readExponent : List Char → Option (Option Int × List Char)
  | [] => some (none, [])
  | c :: cs =>
    if c = 'e' ∨ c = 'E' then
      match cs with
      | '+' :: ds => readExponentDigits false ds
      | '-' :: ds => readExponentDigits true ds
      | ds => readExponentDigits false ds
    else some (none, c :: cs)

/-- A number in front. -/
def readNumber (cs : List Char) : Option (Json × List Char) := do
  let (negative, cs) := match cs with
    | '-' :: rest => (true, rest)
    | rest => (false, rest)
  let (whole, cs) ← readWhole cs
  let (fraction, cs) ← readFraction cs
  let (exponent, cs) ← readExponent cs
  let value ← NumberText.value? ⟨negative, whole, fraction, exponent⟩
  some (value, cs)

/-! ## Texts -/

/-- Four hexadecimal digits in front. -/
def readUnit : List Char → Option (Nat × List Char)
  | a :: b :: c :: d :: rest => do
    let a ← Text.hexDigit? a
    let b ← Text.hexDigit? b
    let c ← Text.hexDigit? c
    let d ← Text.hexDigit? d
    some (((a * 16 + b) * 16 + c) * 16 + d, rest)
  | _ => none

/-- The character behind `\u`: one unit, or the two units of a surrogate pair. -/
def readCodePoint (cs : List Char) : Option (Char × List Char) := do
  let (unit, rest) ← readUnit cs
  if 0xD800 ≤ unit ∧ unit < 0xDC00 then
    match rest with
    | '\\' :: 'u' :: rest => do
      let (low, rest) ← readUnit rest
      if 0xDC00 ≤ low ∧ low < 0xE000 then
        some (Char.ofNat (0x10000 + (unit - 0xD800) * 0x400 + (low - 0xDC00)), rest)
      else none
    | _ => none
  else if 0xDC00 ≤ unit ∧ unit < 0xE000 then none
  else some (Char.ofNat unit, rest)

/-- The character of an escape of one letter. -/
def simpleEscape? (c : Char) : Option Char :=
  if c = '"' ∨ c = '\\' ∨ c = '/' then some c
  else if c = 'b' then some (Char.ofNat 8)
  else if c = 'f' then some (Char.ofNat 12)
  else if c = 'n' then some (Char.ofNat 10)
  else if c = 'r' then some (Char.ofNat 13)
  else if c = 't' then some (Char.ofNat 9)
  else none

/-- The characters up to the closing quote; `fuel` is at least the number of characters. -/
def readCharacters : (fuel : Nat) → List Char → Option (List Char × List Char)
  | 0, _ => none
  | _ + 1, [] => none
  | fuel + 1, c :: cs =>
    if c = '"' then some ([], cs)
    else if c.toNat < 0x20 then none
    else do
      let (char, rest) ← if c ≠ '\\' then some (c, cs) else
        match cs with
        | [] => none
        | 'u' :: rest => readCodePoint rest
        | e :: rest => (simpleEscape? e).map (·, rest)
      let (chars, rest) ← readCharacters fuel rest
      some (char :: chars, rest)

/-- A text, behind its opening quote. -/
def readString (cs : List Char) : Option (String × List Char) :=
  (readCharacters (cs.length + 1) cs).map fun r => (String.ofList r.1, r.2)

/-! ## Values -/

/-- White space between the parts of a JSON text. -/
def isGap (c : Char) : Bool := c == ' ' || c == '\n' || c == '\t' || c == '\r'

/-- Characters without the white space in front. -/
def skipGap (cs : List Char) : List Char := cs.dropWhile isGap

/-- What is behind a given text in front. -/
def behind (word : List Char) (cs : List Char) : Option (List Char) :=
  if word.isPrefixOf cs then some (cs.drop word.length) else none

mutual

/-- A value in front, with at most `depth` arrays and objects inside each other; `fuel` is twice the
number of characters or more. -/
def readValue (depth : Nat) : (fuel : Nat) → List Char → Option (Json × List Char)
  | 0, _ => none
  | fuel + 1, cs =>
    match skipGap cs with
    | [] => none
    | c :: cs =>
      if c = '"' then (readString cs).map fun r => (.str r.1, r.2)
      else if c = '[' then
        if depth = 0 then none
        else match skipGap cs with
          | ']' :: rest => some (.arr [], rest)
          | cs => (readItems (depth - 1) fuel cs).map fun r => (.arr r.1, r.2)
      else if c = '\x7b' then
        if depth = 0 then none
        else match skipGap cs with
          | '\x7d' :: rest => some (.obj [], rest)
          | cs => (readMembers (depth - 1) fuel cs).map fun r => (ofMembers r.1, r.2)
      else if c = 'n' then (behind "ull".toList cs).map (.null, ·)
      else if c = 't' then (behind "rue".toList cs).map (.bool true, ·)
      else if c = 'f' then (behind "alse".toList cs).map (.bool false, ·)
      else readNumber (c :: cs)

/-- One item or more, up to the closing bracket. -/
def readItems (depth : Nat) : (fuel : Nat) → List Char → Option (List Json × List Char)
  | 0, _ => none
  | fuel + 1, cs => do
    let (value, cs) ← readValue depth fuel cs
    match skipGap cs with
    | ']' :: rest => some ([value], rest)
    | ',' :: rest => do
      let (values, rest) ← readItems depth fuel rest
      some (value :: values, rest)
    | _ => none

/-- One member or more, up to the closing brace. -/
def readMembers (depth : Nat) : (fuel : Nat) → List Char → Option (List (String × Json) × List Char)
  | 0, _ => none
  | fuel + 1, cs =>
    match skipGap cs with
    | '"' :: cs => do
      let (name, cs) ← readString cs
      match skipGap cs with
      | ':' :: cs => do
        let (value, cs) ← readValue depth fuel cs
        match skipGap cs with
        | '\x7d' :: rest => some ([(name, value)], rest)
        | ',' :: rest => do
          let (members, rest) ← readMembers depth fuel rest
          some ((name, value) :: members, rest)
        | _ => none
      | _ => none
    | _ => none

end

/-- How deep values may nest. -/
def greatestDepth : Nat := 127

/-- The value that a text denotes. -/
def read? (s : String) : Option Json :=
  let cs := s.toList
  match readValue greatestDepth (2 * cs.length + 2) cs with
  | some (value, rest) => if (skipGap rest).isEmpty then some value else none
  | none => none

end EventLedger.Json
