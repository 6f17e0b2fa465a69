/-!
# Ranges of code points

Tables of characters are lists of ranges, each with its first and its last code point. What they say
about characters is Unicode's, version 17.

* `inRanges`: a code point is in some range.
-/

namespace EventLedger.Text

/-- Some range holds `n`. -/
def inRanges (ranges : List (Nat × Nat)) (n : Nat) : Bool := ranges.any fun r => r.1 ≤ n && n ≤ r.2

end EventLedger.Text
