import EventLedger.Text.CombiningClass
import EventLedger.Text.Composite

/-!
# Text in composed form

The same text can be spelt with composed characters or with marks, and with its marks in different
orders. Its composed form is one of these spellings: composed characters as far as there are any,
and the marks of each character in the order of their classes.

* `takenApart`, `inOrder`: characters without composed ones, and with their marks in order;
* `joined`: characters composed as far as possible;
* `composed`: the composed form.
-/

namespace EventLedger.Text

/-- A character taken apart again and again; `depth` marks are enough. -/
def takenApart : (depth : Nat) → Char → List Char
  | 0, c => [c]
  | depth + 1, c =>
    match parts? c with
    | some (base, mark) => takenApart depth base ++ [mark]
    | none => [c]

/-- No composed character has more marks. -/
def greatestDepth : Nat := 3

/-- A character put in front of others: behind the marks of lower classes, if it is a mark. -/
def insertMark (c : Char) : List Char → List Char
  | [] => [c]
  | d :: rest =>
    if combiningClass d ≠ 0 ∧ combiningClass d < combiningClass c then d :: insertMark c rest
    else c :: d :: rest

/-- Characters with the marks of each one in the order of their classes. -/
def inOrder (cs : List Char) : List Char := cs.foldr insertMark []

/-- No mark between a character and `c` keeps them apart; `between` are the marks. -/
def touches (between : List Char) (c : Char) : Bool :=
  between.getLast?.all fun d => combiningClass d < combiningClass c

/-- Characters composed with the one in front of them, `base`, and the marks between. -/
def joinedFrom (base : Char) (between : List Char) : List Char → List Char
  | [] => base :: between
  | c :: rest =>
    match if touches between c then compose? base c else none with
    | some whole => joinedFrom whole between rest
    | none =>
      if combiningClass c = 0 then base :: between ++ joinedFrom c [] rest
      else joinedFrom base (between ++ [c]) rest

/-- Characters composed as far as possible. -/
def joined : List Char → List Char
  | [] => []
  | c :: rest => if combiningClass c = 0 then joinedFrom c [] rest else c :: joined rest

/-- The composed form of a text. -/
def composed (cs : List Char) : List Char :=
  joined (inOrder (cs.flatMap (takenApart greatestDepth)))

end EventLedger.Text
