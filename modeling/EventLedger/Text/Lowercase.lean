import EventLedger.Text.CaseTable
import EventLedger.Text.Ranges
import EventLedger.Text.Segments

/-!
# Lower case

Full lower-casing of Unicode text: one character may become two (`İ`), and a capital sigma becomes
`ς` at the end of a word and `σ` elsewhere.

* `lowerChar`: the lower-case form of a character, apart from sigma;
* `wordFinal`: a sigma between these characters ends a word;
* `lower`, `lowerText`: lower-cased text;
* `foundIn`: search that ignores letter case.
-/

namespace EventLedger.Text

/-- The run holds code point `n`. -/
def CaseRun.holds (r : CaseRun) (n : Nat) : Bool :=
  r.first ≤ n && n ≤ r.last && (n - r.first) % r.stride == 0

/-- The lower-case form of a character, a sigma being inside a word. -/
def lowerChar (c : Char) : List Char :=
  let n := c.toNat
  if n < 0x80 then [if 'A' ≤ c ∧ c ≤ 'Z' then Char.ofNat (n + 0x20) else c]
  else if n == 0x130 then ['i', Char.ofNat 0x307]
  else
    match lowerRuns.find? (·.holds n) with
    | some r => [Char.ofNat (n + r.shift).toNat]
    | none => [c]

/-- After marks and signs comes a letter with case. -/
def reachesCased : List Char → Bool
  | [] => false
  | c :: cs =>
    if inRanges caseIgnorableRanges c.toNat then reachesCased cs else inRanges casedRanges c.toNat

/-- A sigma ends a word: a letter with case stands before it (`before` is reversed), none after. -/
def wordFinal (before after : List Char) : Bool := reachesCased before && !reachesCased after

/-- The lower-case form of `cs`, the characters of `before`, reversed, standing in front. -/
def lowerFrom (before : List Char) : List Char → List Char
  | [] => []
  | c :: cs =>
    (if c = 'Σ' then [if wordFinal before cs then 'ς' else 'σ'] else lowerChar c) ++
      lowerFrom (c :: before) cs

/-- The lower-case form of a list of characters. -/
def lower (cs : List Char) : List Char := lowerFrom [] cs

/-- Lower-cased text. -/
def lowerText (s : String) : String := String.ofList (lower s.toList)

/-- Letters `A` to `Z` made lower case, all other characters kept. -/
def lowerAscii (s : String) : String := String.ofList (s.toList.map Char.toLower)

/-- The lower-cased `text` holds `needle` as a part. -/
def foundIn (needle : List Char) (text : String) : Bool := occursIn needle (lower text.toList)

end EventLedger.Text
