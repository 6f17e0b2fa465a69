import EventLedger.Address.DomainTable
import EventLedger.Address.Punycode
import EventLedger.Text.Composed
import EventLedger.Text.Direction
import EventLedger.Text.Joining

/-!
# Names of the web

A name is a row of labels with points between them. It can be spelt in many ways: with capital
letters, with characters that stand for others, with encoded labels. The reader tells whether a text
spells a name, and which one.

* `Domain.spelt`: a text with every character replaced by what it stands for;
* `Domain.decodedLabel`: a label as it is, or decoded;
* `Domain.labelFits`, `Domain.directionFits`: what labels have to keep to;
* `Domain.read`: the reader.
-/

namespace EventLedger.Domain

/-- Characters among the first 128 that no name may have. -/
def isForbidden (c : Char) : Bool :=
  c.toNat ≤ 0x20 || c.toNat == 0x7F || "%#/:<>?@[\\]^|".toList.contains c

/-- A text in the spelling that all spellings of a name have in common. -/
def spelt (cs : List Char) : Option (List Char) :=
  (cs.mapM DomainTable.meaning?).map fun meanings => Text.composed meanings.flatten

/-! ## Encoded labels -/

/-- What encoded labels begin with. -/
def encodedMark : List Char := ['x', 'n', '-', '-']

/-- The greatest length of what stands behind the mark of an encoded label. -/
def encodedLimit : Nat := 2000

/-- A label; if it is encoded, the characters that it stands for. They have to be in their common
spelling, and some have to be beyond the first 128. -/
def decodedLabel (label : List Char) : Option (List Char) :=
  if encodedMark.isPrefixOf label then do
    let code := label.drop encodedMark.length
    if code.getLast?.all (· == '-') || encodedLimit < code.length then none
    else if code.any fun c => 0x80 ≤ c.toNat then none
    else
      let decoded ← Punycode.decode code
      if spelt decoded = some decoded then pure decoded else none
  else some label

/-! ## Rules for labels -/

/-- The two signs that join letters, or keep them apart, and cannot be seen. -/
def isJoiner (c : Char) : Bool := c.toNat == 0x200C || c.toNat == 0x200D

/-- The first letter that counts is of some kind. -/
def reaches (isKind : Char → Bool) (cs : List Char) : Bool :=
  (cs.dropWhile Text.isPassedOver).head?.any isKind

/-- A joiner stands behind a mark that takes away a vowel, or, if it keeps apart, between letters
that would be joined; `before` is reversed. -/
def joinerFits (c : Char) (before after : List Char) : Bool :=
  before.head?.any Text.isVirama ||
    (c.toNat == 0x200C && reaches Text.joinsOnward before && reaches Text.joinsBack after)

/-- All joiners of a label stand where they may; `before`, reversed, is in front of it. -/
def joinersFit (before : List Char) : List Char → Bool
  | [] => true
  | c :: rest => (!isJoiner c || joinerFits c before rest) && joinersFit (c :: before) rest

/-- The greatest length of a label that has to be encoded. -/
def labelLimit : Nat := 1000

/-- A label may stand in a name: no mark begins it, its joiners have a place, and it is short enough
to be encoded if it has to be. -/
def labelFits (label : List Char) : Bool :=
  !label.head?.any Text.isMark && joinersFit [] label &&
    (label.length ≤ labelLimit || label.all fun c => c.toNat < 0x80)

/-! ## Direction -/

/-- The name is written from right to left in some place. -/
def turnsLeft (name : List Char) : Bool :=
  name.any fun c => [.toLeft, .arabicNumber].contains (Text.direction c)

/-- A label in such a name has one direction, that of its first letter, and ends with a letter of
this direction or with a number; to the left, its numbers are of one kind. -/
def directionFits (label : List Char) : Bool :=
  match label.map Text.direction with
  | [] => true
  | first :: rest =>
    let inner := (rest.reverse.dropWhile (· == .mark)).reverse
    let endsWith (kinds : List Text.Direction) : Bool := inner.getLast?.all kinds.contains
    match first with
    | .toRight =>
      !inner.any [.toLeft, .arabicNumber].contains && endsWith [.toRight, .europeanNumber]
    | .toLeft =>
      !inner.contains .toRight && endsWith [.toLeft, .europeanNumber, .arabicNumber] &&
        !(inner.contains .europeanNumber && inner.contains .arabicNumber)
    | _ => false

/-! ## The reader -/

/-- The name that a text spells, with its labels decoded; nothing if it spells none. -/
def read (cs : List Char) : Option (List Char) := do
  let name ← spelt cs
  if name.any isForbidden then none
  else
    let labels ← (Text.segments '.' name).mapM decodedLabel
    if labels.all labelFits && (!labels.any turnsLeft || labels.all directionFits) then
      pure (['.'].intercalate labels)
    else none

end EventLedger.Domain
