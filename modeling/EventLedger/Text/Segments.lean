/-!
# Segments and parts of a text

* `segments`: the pieces of a text between the occurrences of one character;
* `firstSegment`, `lastSegment`: the outermost pieces;
* `occursIn`: one list of characters is a contiguous part of another.
-/

namespace EventLedger.Text

/-- The pieces of `cs` between the occurrences of `sep`; there is always at least one. -/
def segments (sep : Char) : List Char → List (List Char)
  | [] => [[]]
  | c :: cs =>
    if c = sep then [] :: segments sep cs
    else
      match segments sep cs with
      | [] => [[c]]
      | piece :: rest => (c :: piece) :: rest

/-- The piece in front of the first `sep`, or all of `cs`. -/
def firstSegment (sep : Char) (cs : List Char) : List Char := cs.takeWhile (· ≠ sep)

/-- The piece behind the last `sep`, or all of `cs`. -/
def lastSegment (sep : Char) (cs : List Char) : List Char :=
  (cs.reverse.takeWhile (· ≠ sep)).reverse

/-- `needle` is a contiguous part of `cs`. -/
def occursIn (needle : List Char) : List Char → Bool
  | [] => needle.isEmpty
  | c :: cs => needle.isPrefixOf (c :: cs) || occursIn needle cs

/-- There is always a first piece. -/
theorem segments_ne_nil (sep : Char) (cs : List Char) : segments sep cs ≠ [] := by
  cases cs with
  | nil => simp [segments]
  | cons c cs =>
    rw [segments]
    split
    · simp
    · split <;> simp

end EventLedger.Text
