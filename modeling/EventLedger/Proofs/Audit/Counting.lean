import EventLedger.Audit.Statistics
import Mathlib.Algebra.Ring.Nat
import Mathlib.Data.List.Count
import Mathlib.Data.List.Nodup
import Mathlib.Data.List.Perm.Basic
import Mathlib.Order.Compare
import Mathlib.Data.String.Basic

/-!
# Counting and ranking

A table of counts has one row for every value that occurs. Two tables for the same values differ in
the order of their rows only, and sorting by a strict order of the rows leaves no choice at all. So
it does not matter in which order the values came, nor in which order a table gives its rows away.

* `Counts`, `Enumerates`: a table of counts, and one whose rows are in order;
* **`counts_tally`**, `Counts.perm_rows`, `Counts.sum`: tables as sets of rows;
* **`Counts.enumerates_sort`**, `Enumerates.unique`: a sorted table;
* `Above`, **`Counts.enumerates_rank`**: by count and then by value;
* **`Counts.enumerates_days`**: the latest days.
-/

namespace EventLedger

variable {κ : Type} [DecidableEq κ] {k : κ} {values others : List κ} {counts rows : List (κ × Nat)}

/-! ## Tables -/

/-- One row for every value that occurs, with the number of its occurrences. -/
structure Counts (values : List κ) (counts : List (κ × Nat)) : Prop where
  exact : ∀ k n, (k, n) ∈ counts ↔ k ∈ values ∧ values.count k = n
  once : (counts.map Prod.fst).Nodup

/-- A table of counts whose rows are in order. -/
structure Enumerates (before : κ × Nat → κ × Nat → Prop) (values : List κ)
    (counts : List (κ × Nat)) : Prop extends Counts values counts where
  ordered : counts.Pairwise before

theorem mem_keys_bump {j : κ} :
    j ∈ (bump k counts).map Prod.fst ↔ j = k ∨ j ∈ counts.map Prod.fst := by
  induction counts with
  | nil => simp [bump]
  | cons row counts ih =>
    by_cases h : row.1 = k
    · simp [bump, h]
    · simp only [bump, beq_iff_eq, if_neg h, List.map_cons, List.mem_cons, ih]
      tauto

theorem nodup_keys_bump (h : (counts.map Prod.fst).Nodup) :
    ((bump k counts).map Prod.fst).Nodup := by
  induction counts with
  | nil => simp [bump]
  | cons row counts ih =>
    rw [List.map_cons, List.nodup_cons] at h
    by_cases hk : row.1 = k
    · simpa only [bump, beq_iff_eq, if_pos hk, List.map_cons, List.nodup_cons] using h
    · simp only [bump, beq_iff_eq, if_neg hk, List.map_cons, List.nodup_cons, mem_keys_bump]
      exact ⟨by tauto, ih h.2⟩

theorem mem_bump_of_ne {j : κ} {n : Nat} (h : j ≠ k) :
    (j, n) ∈ bump k counts ↔ (j, n) ∈ counts := by
  induction counts with
  | nil => simp [bump, h]
  | cons row counts ih =>
    obtain ⟨l, m⟩ := row
    by_cases hk : l = k
    · simp [bump, hk, h]
    · simp [bump, hk, ih]

theorem mem_bump_self {c n : Nat} (hnodup : (counts.map Prod.fst).Nodup)
    (hrow : ∀ m, (k, m) ∈ counts → m = c) (hnone : k ∉ counts.map Prod.fst → c = 0) :
    (k, n) ∈ bump k counts ↔ n = c + 1 := by
  induction counts with
  | nil => simp [bump, hnone]
  | cons row counts ih =>
    obtain ⟨l, m⟩ := row
    rw [List.map_cons, List.nodup_cons] at hnodup
    by_cases hk : l = k
    · subst hk
      have hm : m = c := hrow m (by simp)
      have hrest : (l, n) ∉ counts := fun h => hnodup.1 (List.mem_map.mpr ⟨_, h, rfl⟩)
      simp [bump, hm, hrest]
    · have hne : (k, n) ≠ (l, m) := fun h => hk (by cases h; rfl)
      simp only [bump, beq_iff_eq, if_neg hk, List.mem_cons, hne, false_or]
      refine ih hnodup.2 (fun m hm => hrow m (List.mem_cons_of_mem _ hm)) fun h => hnone ?_
      simpa [Ne.symm hk] using h

theorem Counts.mem_keys (h : Counts values counts) : k ∈ counts.map Prod.fst ↔ k ∈ values := by
  rw [List.mem_map]
  refine ⟨?_, fun hk => ⟨(k, values.count k), (h.exact _ _).mpr ⟨hk, rfl⟩, rfl⟩⟩
  rintro ⟨⟨l, n⟩, hrow, rfl⟩
  exact ((h.exact l n).mp hrow).1

theorem Counts.bump (h : Counts values counts) : Counts (k :: values) (bump k counts) := by
  refine ⟨fun j n => ?_, nodup_keys_bump h.once⟩
  by_cases hj : j = k
  · subst hj
    rw [mem_bump_self h.once (fun m hm => ((h.exact j m).mp hm).2.symm)
      fun hnone => List.count_eq_zero.mpr (h.mem_keys.not.mp hnone)]
    simp [eq_comm]
  · rw [mem_bump_of_ne hj, h.exact j n]
    simp [hj, List.count_cons_of_ne (Ne.symm hj)]

/-- **The tally is a table of counts.** -/
theorem counts_tally (values : List κ) : Counts values (tally values) := by
  induction values with
  | nil => exact ⟨by simp [tally], by simp [tally]⟩
  | cons k values ih => exact ih.bump

theorem Counts.perm_rows (h : Counts values counts) (ho : Counts others rows)
    (hperm : values.Perm others) : counts.Perm rows := by
  refine (List.perm_ext_iff_of_nodup h.once.of_map ho.once.of_map).mpr fun ⟨k, n⟩ => ?_
  rw [h.exact, ho.exact, hperm.mem_iff, hperm.count_eq]

theorem Counts.of_perm (h : Counts values counts) (hperm : rows.Perm counts) :
    Counts values rows := by
  refine ⟨fun k n => ?_, ?_⟩
  · rw [hperm.mem_iff, h.exact]
  · exact (hperm.map _).nodup_iff.mpr h.once

theorem sum_bump : ((bump k counts).map Prod.snd).sum = (counts.map Prod.snd).sum + 1 := by
  induction counts with
  | nil => simp [bump]
  | cons row counts ih =>
    by_cases h : row.1 = k
    · simp only [bump, beq_iff_eq, if_pos h, List.map_cons, List.sum_cons]
      omega
    · simp only [bump, beq_iff_eq, if_neg h, List.map_cons, List.sum_cons, ih]
      omega

theorem sum_tally (values : List κ) : ((tally values).map Prod.snd).sum = values.length := by
  induction values with
  | nil => simp [tally]
  | cons k values ih =>
    have hcons : tally (k :: values) = EventLedger.bump k (tally values) := rfl
    rw [hcons, sum_bump, ih, List.length_cons]

theorem Counts.sum (h : Counts values counts) : (counts.map Prod.snd).sum = values.length := by
  rw [← sum_tally values]
  exact ((h.perm_rows (counts_tally values) (.refl _)).map _).sum_nat

theorem Counts.rename {ν : Type} [DecidableEq ν] (h : Counts values counts) {f : κ → ν}
    (hf : Function.Injective f) :
    Counts (values.map f) (counts.map fun row => (f row.1, row.2)) := by
  refine ⟨fun j n => ?_, ?_⟩
  · simp only [List.mem_map, Prod.exists, Prod.mk.injEq, h.exact]
    constructor
    · rintro ⟨k, m, ⟨hk, rfl⟩, rfl, rfl⟩
      exact ⟨⟨k, hk, rfl⟩, List.count_map_of_injective _ _ hf _⟩
    · rintro ⟨⟨k, hk, rfl⟩, rfl⟩
      exact ⟨k, _, ⟨hk, rfl⟩, rfl, (List.count_map_of_injective _ _ hf _).symm⟩
  · rw [List.map_map]
    have hkeys : counts.map (Prod.fst ∘ fun row => (f row.1, row.2)) =
      (counts.map Prod.fst).map f := by simp [Function.comp_def]
    rw [hkeys]
    exact h.once.map hf

/-! ## Sorted tables -/

variable {before : κ × Nat → κ × Nat → Prop} {le : κ × Nat → κ × Nat → Bool}

/-- **A strict order of the rows leaves no choice.** -/
theorem Enumerates.unique (h : Enumerates before values counts) (ho : Enumerates before others rows)
    (hperm : values.Perm others) (hstrict : ∀ a b, before a b → ¬ before b a) : counts = rows :=
  (h.perm_rows ho.toCounts hperm).eq_of_pairwise
    (fun a b _ _ hab hba => absurd hba (hstrict a b hab)) h.ordered ho.ordered

theorem Counts.enumerates_sort (h : Counts values counts)
    (htrans : ∀ a b c, le a b = true → le b c = true → le a c = true)
    (htotal : ∀ a b, (le a b || le b a) = true)
    (hbefore : ∀ a b, a.1 ≠ b.1 → le a b = true → before a b) :
    Enumerates before values (counts.mergeSort le) := by
  have hrows := h.of_perm (List.mergeSort_perm counts le)
  have hkeys : (counts.mergeSort le).Pairwise fun a b => a.1 ≠ b.1 :=
    List.pairwise_map.mp hrows.once
  exact ⟨hrows, hkeys.imp₂ hbefore (List.pairwise_mergeSort htrans htotal counts)⟩

/-! ## By count and then by value -/

/-- The row above another: greater counts first, equal counts in the order of values. -/
def Above (precedes : κ → κ → Prop) (a b : κ × Nat) : Prop :=
  b.2 < a.2 ∨ b.2 = a.2 ∧ precedes a.1 b.1

omit [DecidableEq κ] in
theorem Above.asymm {precedes : κ → κ → Prop} (h : ∀ j k, precedes j k → ¬ precedes k j)
    (a b : κ × Nat) : Above precedes a b → ¬ Above precedes b a := by
  rintro (hab | ⟨hab, hkeys⟩) (hba | ⟨hba, hback⟩)
  · omega
  · omega
  · omega
  · exact h _ _ hkeys hback

variable {compareKeys : κ → κ → Ordering}

omit [DecidableEq κ] in
theorem ranksBefore_iff (a b : κ × Nat) :
    ranksBefore compareKeys a b = true ↔
      b.2 < a.2 ∨ b.2 = a.2 ∧ (compareKeys a.1 b.1).isLE = true := by
  unfold ranksBefore compareOfLessAndEq
  rcases Nat.lt_trichotomy b.2 a.2 with h | h | h
  · simp [h]
  · simp [h, Ordering.isLE_iff_ne_gt]
  · have h1 : ¬ b.2 < a.2 := by omega
    have h2 : b.2 ≠ a.2 := by omega
    simp [h1, h2]

/-- **A table sorted by count and then by value.** -/
theorem Counts.enumerates_rank [Std.TransCmp compareKeys] [Std.LawfulEqCmp compareKeys]
    {precedes : κ → κ → Prop} (h : Counts values counts)
    (hprecedes : ∀ j k, compareKeys j k = .lt → precedes j k) :
    Enumerates (Above precedes) values (counts.mergeSort (ranksBefore compareKeys)) := by
  -- the order is transitive and total; rows of different values are never equal in it
  refine h.enumerates_sort (fun a b c hab hbc => ?_) (fun a b => ?_) fun a b hne hab => ?_
  · rw [ranksBefore_iff] at *
    rcases hab with hab | ⟨hab, hkeys⟩ <;> rcases hbc with hbc | ⟨hbc, hmore⟩
    · exact .inl (by omega)
    · exact .inl (by omega)
    · exact .inl (by omega)
    · exact .inr ⟨by omega, Std.TransCmp.isLE_trans hkeys hmore⟩
  · rw [Bool.or_eq_true, ranksBefore_iff, ranksBefore_iff]
    rcases Nat.lt_trichotomy b.2 a.2 with hlt | heq | hgt
    · exact .inl (.inl hlt)
    · by_cases hle : (compareKeys a.1 b.1).isLE = true
      · exact .inl (.inr ⟨heq, hle⟩)
      · rw [Bool.not_eq_true, Ordering.isLE_eq_false, Std.OrientedCmp.gt_iff_lt] at hle
        exact .inr (.inr ⟨heq.symm, by rw [hle]; rfl⟩)
    · exact .inr (.inl hgt)
  · rw [ranksBefore_iff] at hab
    refine hab.imp id fun ⟨heq, hle⟩ => ⟨heq, hprecedes _ _ ?_⟩
    cases hcompare : compareKeys a.1 b.1 with
    | lt => rfl
    | eq => exact absurd (Std.LawfulEqCmp.eq_of_compare hcompare) hne
    | gt => rw [hcompare] at hle; cases hle

/-! ## The latest days -/

/-- The row of an earlier day. -/
def Earlier (a b : Int × Nat) : Prop := a.1 < b.1

variable {days : List Int} {table : List (Int × Nat)}

theorem Counts.enumerates_days (h : Counts days table) :
    Enumerates Earlier days (table.mergeSort fun a b => b.1 ≤ a.1).reverse := by
  have hsorted : Enumerates (fun a b => Earlier b a) days
      (table.mergeSort fun a b => b.1 ≤ a.1) := by
    refine h.enumerates_sort (fun a b c hab hbc => ?_) (fun a b => ?_) fun a b hne hab => ?_
    · simp only [decide_eq_true_eq] at *
      omega
    · simp only [Bool.or_eq_true, decide_eq_true_eq]
      omega
    · simp only [decide_eq_true_eq] at hab
      exact lt_of_le_of_ne hab (Ne.symm hne)
  exact ⟨hsorted.of_perm (List.reverse_perm _), List.pairwise_reverse.mpr hsorted.ordered⟩

end EventLedger
