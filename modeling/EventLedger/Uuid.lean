import EventLedger.Text.Integer

/-!
# Universally unique identifiers

An identifier is a number of 128 bits, written in 32 hexadecimal digits.

* `Uuid.text`: the digits in groups of 8, 4, 4, 4 and 12, in lower case;
* `Uuid.read?`: the written forms that are accepted, in any letter case: grouped, without hyphens,
  grouped in braces, grouped behind `urn:uuid:`;
* `Uuid.random`: 128 random bits made into an identifier of version 4.
-/

namespace EventLedger

/-- An identifier of 128 bits. -/
structure Uuid where
  bits : BitVec 128
  deriving DecidableEq

namespace Uuid

instance : Inhabited Uuid := ⟨⟨0⟩⟩

/-- The `count` lowest hexadecimal digits of a number, the highest of them first. -/
def hexDigits : (count : Nat) → Nat → List Char
  | 0, _ => []
  | n + 1, x => Nat.digitChar (x / Nat.pow 16 n % 16) :: hexDigits n x

/-- The number of digits in each group. -/
def groupSizes : List Nat := [8, 4, 4, 4, 12]

/-- Digits in groups of the given sizes with hyphens between them. -/
def grouped : List Nat → List Char → List Char
  | [], ds => ds
  | [n], ds => ds.take n
  | n :: sizes, ds => ds.take n ++ '-' :: grouped sizes (ds.drop n)

/-- The written form. -/
def text (u : Uuid) : String := String.ofList (grouped groupSizes (hexDigits 32 u.bits.toNat))

/-- Digits of the given groups, their hyphens taken out. -/
def ungrouped : List Nat → List Char → Option (List Char)
  | [], cs => if cs.isEmpty then some [] else none
  | [n], cs => if cs.length = n then some cs else none
  | n :: sizes, cs =>
    match cs.drop n with
    | '-' :: rest => (ungrouped sizes rest).map (cs.take n ++ ·)
    | _ => none

/-- The identifier of 32 hexadecimal digits. -/
def ofHex? (cs : List Char) : Option Uuid :=
  if cs.length = 32 then do
    let ds ← cs.mapM Text.hexDigit?
    some ⟨BitVec.ofNat 128 (ds.foldl (fun acc d => acc * 16 + d) 0)⟩
  else none

/-- The identifier in its grouped form. -/
def ofGrouped? (cs : List Char) : Option Uuid := (ungrouped groupSizes cs).bind ofHex?

/-- The identifier that a list of characters denotes. -/
def ofChars? (cs : List Char) : Option Uuid :=
  if cs.length = 32 then ofHex? cs
  else if cs.length = 36 then ofGrouped? cs
  else if cs.length = 38 ∧ cs.head? = some '\x7b' ∧ cs.getLast? = some '\x7d' then
    ofGrouped? (cs.drop 1).dropLast
  else if cs.length = 45 ∧ (cs.take 9).map Char.toLower = "urn:uuid:".toList then
    ofGrouped? (cs.drop 9)
  else none

/-- The identifier that a text denotes. -/
def read? (s : String) : Option Uuid := ofChars? s.toList

/-- Random bits as an identifier of version 4: the version and the variant replace six of them. -/
def random (bits : BitVec 128) : Uuid :=
  let withVersion := (bits &&& ~~~(0xF000#128 <<< 64)) ||| (0x4000#128 <<< 64)
  ⟨(withVersion &&& ~~~(0xC000#128 <<< 48)) ||| (0x8000#128 <<< 48)⟩

/-- The identifier is of version 4. -/
def isVersion4 (u : Uuid) : Bool :=
  (u.bits >>> 76) &&& 0xF#128 == 4#128 && (u.bits >>> 62) &&& 3#128 == 2#128

end Uuid

end EventLedger
