import EventLedger.Text.Blank
import EventLedger.Text.Mark
import EventLedger.Text.Unassigned

/-!
# Quoted text

A text that a message quotes stands between quotation marks. In it, quotation marks, backslashes and
what cannot be seen by itself are escaped.

* `isVisible`: the characters that stand for themselves;
* `quotedChar`, `quoted`: one character and a text as they are quoted.
-/

namespace EventLedger.Text

/-- Controls, signs that arrange text, fillers and private characters: the general categories `Cc`,
`Cf` and `Co`, and the property `Default_Ignorable_Code_Point`. -/
def unseenRanges : List (Nat × Nat) := [
  (0x0, 0x1F), (0x7F, 0x9F), (0xAD, 0xAD), (0x600, 0x605), (0x61C, 0x61C), (0x6DD, 0x6DD),
  (0x70F, 0x70F), (0x890, 0x891), (0x8E2, 0x8E2), (0x115F, 0x1160), (0x180E, 0x180E),
  (0x200B, 0x200F), (0x202A, 0x202E), (0x2060, 0x2064), (0x2066, 0x206F), (0x3164, 0x3164),
  (0xE000, 0xF8FF), (0xFEFF, 0xFEFF), (0xFFA0, 0xFFA0), (0xFFF9, 0xFFFB), (0x110BD, 0x110BD),
  (0x110CD, 0x110CD), (0x13430, 0x1343F), (0x1BCA0, 0x1BCA3), (0x1D173, 0x1D17A),
  (0xE0001, 0xE0001), (0xE0020, 0xE007F), (0xF0000, 0xFFFFD), (0x100000, 0x10FFFD)]

/-- A character that can be seen by itself; of white space, the plain blank alone. -/
def isVisible (c : Char) : Bool :=
  c == ' ' ||
    !(isBlank c || inRanges unseenRanges c.toNat || isExtending c || !isAssigned c)

/-- A character inside quotation marks. -/
def quotedChar (c : Char) : List Char :=
  if c = '\x00' then ['\\', '0']
  else if c = '\t' then ['\\', 't']
  else if c = '\n' then ['\\', 'n']
  else if c = '\r' then ['\\', 'r']
  else if c = '"' ∨ c = '\\' then ['\\', c]
  else if isVisible c then [c]
  else ['\\', 'u', '\x7b'] ++ Nat.toDigits 16 c.toNat ++ ['\x7d']

/-- A text between quotation marks. -/
def quoted (s : String) : String := String.ofList ('"' :: s.toList.flatMap quotedChar ++ ['"'])

end EventLedger.Text
