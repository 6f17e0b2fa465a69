import EventLedger.Audit.Filter
import EventLedger.Time.Date

/-!
# Statistics

Counts over the records of a range of time.

* `tally`: how often each value occurs;
* `ranking`: values by their count, the most frequent first, equal counts in the order of values;
* `recentDays`: the latest days with their counts, in the order of days;
* `Statistics`: the report.
-/

namespace EventLedger

/-! ## Counting -/

/-- One more occurrence of a value. -/
def bump {κ : Type} [BEq κ] (k : κ) : List (κ × Nat) → List (κ × Nat)
  | [] => [(k, 1)]
  | (l, n) :: rest => if l == k then (l, n + 1) :: rest else (l, n) :: bump k rest

/-- Every value that occurs, with the number of its occurrences. -/
def tally {κ : Type} [BEq κ] (values : List κ) : List (κ × Nat) := values.foldr bump []

/-- The order of a ranking: greater counts first, then smaller keys. -/
def ranksBefore {κ : Type} (compareKeys : κ → κ → Ordering) (a b : κ × Nat) : Bool :=
  ((compareOfLessAndEq b.2 a.2).then (compareKeys a.1 b.1)) != .gt

/-- All values that occur, ranked by their counts. -/
def ranking {κ : Type} [BEq κ] (compareKeys : κ → κ → Ordering) (values : List κ) :
    List (κ × Nat) :=
  (tally values).mergeSort (ranksBefore compareKeys)

/-- The `limit` latest days that occur, in the order of days, with their counts. -/
def recentDays (limit : Nat) (days : List Int) : List (Int × Nat) :=
  (((tally days).mergeSort fun a b => b.1 ≤ a.1).take limit).reverse

/-- The order of texts. -/
def compareTexts (a b : String) : Ordering := compareOfLessAndEq a b

/-- Actors ordered by their id and then by their kind. -/
def compareActors (a b : Actor) : Ordering :=
  (compareTexts a.id b.id).then (compareOfLessAndEq a.kind.rank b.kind.rank)

/-! ## The report -/

/-- The number of days in the report. -/
def dailyLimit : Nat := 30

/-- The number of entries of a ranking in the report. -/
def topLimit : Nat := 10

/-- Counts over the records of a range of time. -/
structure Statistics where
  range : DateRange
  totalEvents : Int
  /-- Most frequent category first. -/
  byCategory : List (String × Int)
  /-- Latest days with records, in the order of days. -/
  daily : List (Date × Int)
  topEventTypes : List (String × Int)
  topActors : List (Actor × Int)

/-- Counts as whole numbers with a sign. -/
def signedCounts {κ : Type} (counts : List (κ × Nat)) : List (κ × Int) :=
  counts.map fun (k, n) => (k, (n : Int))

end EventLedger
