import EventLedger.Verification.Report

/-!
# What a report tells

A report is a fold over the records that are checked. It tells how many there are, the outermost
numbers, where numbers are missing between neighbours, and which records were altered. The fold breaks
off at a record behind the greatest number there is, and only there.

* `gaps`, `Continuable`: gaps between neighbours, and records between which they can be counted;
* `Stepwise`, `Stepwise.continuable`: the same without regard to an order;
* `gapsBehind?`, **`VerificationReport.foldlM_check?`**: all fields of the fold at once;
* `VerificationReport.ofRecords`, **`VerificationReport.foldlM_check?_start`**: the report on some
  records, and when there is one;
* `VerificationReport.Tells`, **`VerificationReport.tells_ofRecords`**: what it tells if the records come
  by their numbers.
-/

namespace EventLedger

/-! ## Gaps between neighbours -/

/-- Numbers are missing between two records. -/
def Apart (p : Record × Record) : Prop := p.1.sequenceNumber + 1 < p.2.sequenceNumber

instance : DecidablePred Apart := fun _ => Int.decLt _ _

/-- Records that stand side by side. -/
def neighbours (rs : List Record) : List (Record × Record) := rs.zip rs.tail

/-- How often numbers are missing. -/
def gaps (rs : List Record) : Nat := (neighbours rs).countP (Apart ·)

/-- Each record in front of another has a number with a next one. -/
def Continuable (rs : List Record) : Prop :=
  ∀ r ∈ rs.dropLast, Text.i64.holds (r.sequenceNumber + 1) = true

instance : DecidablePred Continuable := fun rs => List.decidableBAll _ rs.dropLast

theorem gaps_cons_cons (a b : Record) (rs : List Record) :
    gaps (a :: b :: rs) = (if Apart (a, b) then 1 else 0) + gaps (b :: rs) := by
  rw [gaps, neighbours, List.tail_cons, List.zip_cons_cons, List.countP_cons, Nat.add_comm]
  simp only [decide_eq_true_eq]
  rfl

theorem continuable_cons_cons (a b : Record) (rs : List Record) :
    Continuable (a :: b :: rs) ↔
      Text.i64.holds (a.sequenceNumber + 1) = true ∧ Continuable (b :: rs) := by
  rw [Continuable, List.dropLast_cons_cons, List.forall_mem_cons]
  rfl

theorem continuable_singleton (a : Record) : Continuable [a] := fun _ h => absurd h List.not_mem_nil

/-- Of any two records, the one with the smaller number has a next number. -/
def Stepwise (rs : List Record) : Prop :=
  rs.Pairwise fun a b => Text.i64.holds (min a.sequenceNumber b.sequenceNumber + 1) = true

theorem Stepwise.perm {rs others : List Record} (h : Stepwise rs) (hp : rs.Perm others) :
    Stepwise others :=
  (hp.pairwise_iff fun {_ _} hab => by rwa [Int.min_comm]).mp h

/-- In the order of the numbers, only the last one may have no next number. -/
theorem Stepwise.continuable {rs : List Record} (h : Stepwise rs)
    (hs : rs.Pairwise fun a b => a.sequenceNumber ≤ b.sequenceNumber) : Continuable rs := by
  rcases List.eq_nil_or_concat rs with rfl | ⟨front, z, rfl⟩
  · exact fun _ h => absurd h List.not_mem_nil
  · rw [List.concat_eq_append] at h hs ⊢
    intro r hr
    rw [List.dropLast_concat] at hr
    have hle := (List.pairwise_append.mp hs).2.2 r hr z List.mem_cons_self
    have hnext := (List.pairwise_append.mp h).2.2 r hr z List.mem_cons_self
    rwa [Int.min_eq_left hle] at hnext

/-- The gaps in front of the records, if `last` is the number in front of them all. Nothing if one of
the numbers has no next one. -/
def gapsBehind? : (last : Option Int) → List Record → Option Nat
  | _, [] => some 0
  | last, r :: rest => do
    let gap ← gapBefore? last r.sequenceNumber
    let more ← gapsBehind? (some r.sequenceNumber) rest
    pure ((if gap then 1 else 0) + more)

theorem gapBefore?_some (n k : Int) :
    gapBefore? (some n) k =
      if Text.i64.holds (n + 1) = true then some (decide (n + 1 < k)) else none := by
  rw [gapBefore?, nextSequence?, Text.IntegerType.ofInt?]
  split <;> rfl

theorem gapsBehind?_some (a : Record) (rs : List Record) :
    gapsBehind? (some a.sequenceNumber) rs =
      if Continuable (a :: rs) then some (gaps (a :: rs)) else none := by
  induction rs generalizing a with
  | nil => rw [if_pos (continuable_singleton a)]; rfl
  | cons b rest ih =>
    rw [gapsBehind?, gapBefore?_some, ih b, gaps_cons_cons]
    by_cases hnext : Text.i64.holds (a.sequenceNumber + 1) = true
    · by_cases hrest : Continuable (b :: rest)
      · rw [if_pos hnext, if_pos hrest, if_pos ((continuable_cons_cons a b rest).mpr ⟨hnext, hrest⟩)]
        simp [Apart]
      · rw [if_neg hrest, if_neg fun h => hrest ((continuable_cons_cons a b rest).mp h).2]
        simp
    · rw [if_neg hnext, if_neg fun h => hnext ((continuable_cons_cons a b rest).mp h).1]
      rfl

theorem gapsBehind?_none (rs : List Record) :
    gapsBehind? none rs = if Continuable rs then some (gaps rs) else none := by
  cases rs with
  | nil => rfl
  | cons a rest =>
    have hfirst : gapBefore? none a.sequenceNumber = some false := rfl
    rw [gapsBehind?, hfirst, gapsBehind?_some]
    split <;> simp

namespace VerificationReport

/-! ## The fold -/

theorem check?_eq (report : VerificationReport) (r : Record) :
    report.check? r = (gapBefore? report.lastSequence r.sequenceNumber).map fun gap =>
      { report with
        recordsChecked := report.recordsChecked + 1
        firstSequence := report.firstSequence.or (some r.sequenceNumber)
        lastSequence := some r.sequenceNumber
        sequenceGaps := report.sequenceGaps + (if gap then 1 else 0)
        mismatches := report.mismatches ++ ([r].filter fun r => !r.intact).map Record.mismatch } := by
  cases hr : r.intact <;> cases h : gapBefore? report.lastSequence r.sequenceNumber <;>
    simp [check?, hr, h]

/-- **All fields of a report behind some records**, unless their numbers do not go on. -/
theorem foldlM_check? (report : VerificationReport) (rs : List Record) :
    rs.foldlM check? report = (gapsBehind? report.lastSequence rs).map fun found => { report with
      recordsChecked := report.recordsChecked + rs.length
      firstSequence := report.firstSequence.or (rs.head?.map (·.sequenceNumber))
      lastSequence := (rs.getLast?.map (·.sequenceNumber)).or report.lastSequence
      sequenceGaps := report.sequenceGaps + found
      mismatches := report.mismatches ++ (rs.filter fun r => !r.intact).map Record.mismatch } := by
  induction rs generalizing report with
  | nil => simp [gapsBehind?]
  | cons r rest ih =>
    have hlast : ((r :: rest).getLast?.map (·.sequenceNumber)).or report.lastSequence =
        (rest.getLast?.map (·.sequenceNumber)).or (some r.sequenceNumber) := by
      rw [List.getLast?_cons]
      cases rest.getLast? <;> rfl
    have hfilter : (r :: rest).filter (fun r => !r.intact) =
      [r].filter (fun r => !r.intact) ++ rest.filter fun r => !r.intact := List.filter_append [r] rest
    rw [List.foldlM_cons, check?_eq, hlast, hfilter, List.map_append, gapsBehind?]
    cases gapBefore? report.lastSequence r.sequenceNumber with
    | none => rfl
    | some gap =>
      simp only [Option.map_some, Option.bind_eq_bind, Option.bind_some, ih]
      cases gapsBehind? (some r.sequenceNumber) rest with
      | none => rfl
      | some more => simp [Nat.add_assoc, Nat.add_comm 1, List.append_assoc]

/-- The report on some records. -/
def ofRecords (startedAt : Instant) (rs : List Record) : VerificationReport where
  startedAt
  finishedAt := none
  recordsChecked := rs.length
  firstSequence := rs.head?.map (·.sequenceNumber)
  lastSequence := rs.getLast?.map (·.sequenceNumber)
  sequenceGaps := gaps rs
  mismatches := (rs.filter fun r => !r.intact).map Record.mismatch

/-- **There is a report** exactly if every number in front of another has a next one. -/
theorem foldlM_check?_start (startedAt : Instant) (rs : List Record) :
    rs.foldlM check? (start startedAt) =
      if Continuable rs then some (ofRecords startedAt rs) else none := by
  have hlast : (start startedAt).lastSequence = none := rfl
  rw [foldlM_check?, hlast, gapsBehind?_none]
  by_cases h : Continuable rs
  · rw [if_pos h, if_pos h]
    simp [start, ofRecords]
  · rw [if_neg h, if_neg h]
    rfl

/-- The finished report on some records, unless checking them breaks off. -/
def ofRecords? (startedAt finishedAt : Instant) (rs : List Record) : Option VerificationReport :=
  if Continuable rs then some { ofRecords startedAt rs with finishedAt := some finishedAt } else none

theorem ofRecords?_of_continuable {rs : List Record} (h : Continuable rs)
    (startedAt finishedAt : Instant) :
    ofRecords? startedAt finishedAt rs =
      some { ofRecords startedAt rs with finishedAt := some finishedAt } := if_pos h

theorem recordsChecked_of_ofRecords? {startedAt finishedAt : Instant} {rs : List Record}
    {report : VerificationReport} (h : ofRecords? startedAt finishedAt rs = some report) :
    report.recordsChecked = rs.length := by
  rw [ofRecords?] at h
  split at h
  · rw [← Option.some.inj h]
    rfl
  · cases h

theorem clean_of_mismatches {report : VerificationReport} {rs : List Record}
    (h : report.mismatches = (rs.filter fun r => !r.intact).map Record.mismatch) :
    report.clean = rs.all (·.intact) := by
  rw [clean, h, List.isEmpty_map, Bool.eq_iff_iff, List.isEmpty_iff, List.filter_eq_nil_iff,
    List.all_eq_true]
  simp

/-! ## What it tells -/

/-- What a report tells of the records that were checked. -/
structure Tells (report : VerificationReport) (rs : List Record) : Prop where
  checked : report.recordsChecked = rs.length
  /-- The first number is the smallest one; there is none if no record was checked. -/
  first : ∀ n, report.firstSequence = some n ↔
    n ∈ rs.map (·.sequenceNumber) ∧ ∀ r ∈ rs, n ≤ r.sequenceNumber
  last : ∀ n, report.lastSequence = some n ↔
    n ∈ rs.map (·.sequenceNumber) ∧ ∀ r ∈ rs, r.sequenceNumber ≤ n
  mismatches : report.mismatches = (rs.filter fun r => !r.intact).map Record.mismatch
  /-- There is a gap between neighbours that differ by more than one. -/
  gaps : report.sequenceGaps =
    (rs.zip rs.tail).countP fun p => p.1.sequenceNumber + 1 < p.2.sequenceNumber

variable {rs : List Record}

theorem Tells.clean {report : VerificationReport} (h : report.Tells rs) :
    report.clean = rs.all (·.intact) := clean_of_mismatches h.mismatches

theorem head_eq_some_iff (hs : rs.Pairwise fun a b => a.sequenceNumber ≤ b.sequenceNumber)
    (n : Int) :
    rs.head?.map (·.sequenceNumber) = some n ↔
      n ∈ rs.map (·.sequenceNumber) ∧ ∀ r ∈ rs, n ≤ r.sequenceNumber := by
  cases rs with
  | nil => simp
  | cons a rest =>
    rw [List.pairwise_cons] at hs
    simp only [List.head?_cons, Option.map_some, Option.some.injEq, List.mem_map,
      List.forall_mem_cons]
    constructor
    · rintro rfl
      exact ⟨⟨a, List.mem_cons_self, rfl⟩, Int.le_refl _, hs.1⟩
    · rintro ⟨⟨r, hr, rfl⟩, hle, -⟩
      rcases List.mem_cons.mp hr with rfl | hr
      · rfl
      · exact Int.le_antisymm (hs.1 r hr) hle

theorem getLast_eq_some_iff (hs : rs.Pairwise fun a b => a.sequenceNumber ≤ b.sequenceNumber)
    (n : Int) :
    rs.getLast?.map (·.sequenceNumber) = some n ↔
      n ∈ rs.map (·.sequenceNumber) ∧ ∀ r ∈ rs, r.sequenceNumber ≤ n := by
  rcases List.eq_nil_or_concat rs with rfl | ⟨front, z, rfl⟩
  · simp
  · rw [List.concat_eq_append] at hs ⊢
    have hle : ∀ r ∈ front, r.sequenceNumber ≤ z.sequenceNumber := fun r hr =>
      (List.pairwise_append.mp hs).2.2 r hr z List.mem_cons_self
    simp only [List.getLast?_concat, Option.map_some, Option.some.injEq, List.mem_map,
      List.mem_append, List.mem_singleton]
    constructor
    · rintro rfl
      refine ⟨⟨z, Or.inr rfl, rfl⟩, fun r hr => ?_⟩
      rcases hr with hr | rfl
      · exact hle r hr
      · exact Int.le_refl _
    · rintro ⟨⟨r, hr, rfl⟩, hall⟩
      have h1 := hall z (Or.inr rfl)
      rcases hr with hr | rfl
      · exact Int.le_antisymm h1 (hle r hr)
      · rfl

/-- **A report tells of the records that it was made from**, if these come by their sequence
numbers. -/
theorem tells_ofRecords (hs : rs.Pairwise fun a b => a.sequenceNumber ≤ b.sequenceNumber)
    (startedAt : Instant) (finishedAt : Option Instant) :
    Tells { ofRecords startedAt rs with finishedAt } rs where
  checked := rfl
  first := head_eq_some_iff hs
  last := getLast_eq_some_iff hs
  mismatches := rfl
  gaps := rfl

end VerificationReport

end EventLedger
