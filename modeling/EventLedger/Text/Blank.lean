/-!
# Blank text

White space is Unicode's `White_Space` property, everywhere in this library: in trimming, in the
test for blank text and in the reader of timestamps.

* `isBlank`: the characters that count as white space;
* `trimStart`, `trim`: text without the white space around it;
* `blank`: text that is empty or all white space.
-/

namespace EventLedger.Text

/-- The characters with Unicode's `White_Space` property. -/
def isBlank (c : Char) : Bool :=
  let n := c.toNat
  (9 ≤ n && n ≤ 13) || n == 0x20 || n == 0x85 || n == 0xA0 || n == 0x1680 ||
    (0x2000 ≤ n && n ≤ 0x200A) || n == 0x2028 || n == 0x2029 || n == 0x202F || n == 0x205F ||
    n == 0x3000

/-- Characters without the white space in front. -/
def trimStart (cs : List Char) : List Char := cs.dropWhile isBlank

/-- Characters without the white space behind. -/
def trimEnd (cs : List Char) : List Char := (cs.reverse.dropWhile isBlank).reverse

/-- Text without the white space on either side. -/
def trim (s : String) : String := String.ofList (trimEnd (trimStart s.toList))

/-- Text that is empty or all white space. -/
def blank (s : String) : Bool := s.toList.all isBlank

/-- Trimmed text, or nothing where only white space would be left. -/
def nonBlank? (s : String) : Option String :=
  let t := trim s
  if t.toList.isEmpty then none else some t

end EventLedger.Text
