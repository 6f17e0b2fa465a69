import EventLedger.Proofs.Event.Tags
import EventLedger.Text.Blank
import Mathlib.Data.List.DropRight
import Mathlib.Data.List.TakeWhile

/-!
# Trimmed texts

Trimming takes away the white space around a text and nothing else, and a text is cut at a separator
into the pieces that were joined by it.

* `Surrounds`, `Neat`: white space around a text, and texts with none around them;
* **`trim_of_surrounds`**, `surrounds_trim`: what trimming takes away;
* **`nonBlank?_eq_some_iff`**, `nonBlank?_eq_none_iff`: texts that count as absent, and all others;
* `neat_of_visible`: texts without any white space;
* **`segments_eq_iff`**: the pieces of joined texts.
-/

namespace EventLedger.Text

/-- A text with white space around it, or none. -/
def Surrounds (raw t : String) : Prop :=
  ∃ before behind : List Char, before.all isBlank = true ∧ behind.all isBlank = true ∧
    raw.toList = before ++ t.toList ++ behind

/-- A text that is not empty and has no white space around it. -/
structure Neat (t : String) : Prop where
  trimmed : trim t = t
  ne_empty : t ≠ ""

instance (t : String) : Decidable (Neat t) :=
  decidable_of_iff (trim t = t ∧ t ≠ "") ⟨fun h => ⟨h.1, h.2⟩, fun h => ⟨h.1, h.2⟩⟩

variable {raw s t : String}

theorem Surrounds.refl (t : String) : Surrounds t t := ⟨[], [], rfl, rfl, by simp⟩

/-! ## Trimming -/

theorem trimEnd_eq (cs : List Char) : trimEnd cs = cs.rdropWhile isBlank := rfl

theorem toList_trim (s : String) : (trim s).toList = trimEnd (trimStart s.toList) :=
  String.toList_ofList

theorem trimStart_append {before cs : List Char} (h : before.all isBlank = true) :
    trimStart (before ++ cs) = trimStart cs :=
  List.dropWhile_append_of_pos (List.all_eq_true.mp h)

theorem trimEnd_append {cs behind : List Char} (h : behind.all isBlank = true) :
    trimEnd (cs ++ behind) = trimEnd cs := by
  rw [trimEnd, List.reverse_append, List.dropWhile_append_of_pos, ← trimEnd]
  exact fun c hc => List.all_eq_true.mp h c (List.mem_reverse.mp hc)

theorem trimEnd_trimStart_append {cs behind : List Char} (h : behind.all isBlank = true) :
    trimEnd (trimStart (cs ++ behind)) = trimEnd (trimStart cs) := by
  unfold trimStart
  rw [List.dropWhile_append]
  by_cases hcs : (cs.dropWhile isBlank).isEmpty = true
  · have hrest : (behind.dropWhile isBlank) = [] :=
      List.dropWhile_eq_nil_iff.mpr (List.all_eq_true.mp h)
    rw [if_pos hcs, hrest, List.isEmpty_iff.mp hcs]
  · rw [if_neg hcs, trimEnd_append h]

/-- **White space around a trimmed text is trimmed away.** -/
theorem trim_of_surrounds (ht : trim t = t) (h : Surrounds raw t) : trim raw = t := by
  obtain ⟨before, behind, hbefore, hbehind, hraw⟩ := h
  rw [← String.toList_inj, toList_trim, hraw, List.append_assoc, trimStart_append hbefore,
    trimEnd_trimStart_append hbehind, ← toList_trim, ht]

/-- **Nothing else is trimmed away.** -/
theorem surrounds_trim (s : String) : Surrounds s (trim s) := by
  refine ⟨s.toList.takeWhile isBlank, (trimStart s.toList).rtakeWhile isBlank, List.all_takeWhile,
    List.all_eq_true.mpr fun c hc => List.mem_rtakeWhile_imp hc, ?_⟩
  rw [toList_trim, trimEnd_eq, List.append_assoc, List.rdropWhile_append_rtakeWhile, trimStart,
    List.takeWhile_append_dropWhile]

theorem trim_trim (s : String) : trim (trim s) = trim s := by
  have hhead : trimStart (trimEnd (trimStart s.toList)) = trimEnd (trimStart s.toList) := by
    -- what is left at the front is the front of `trimStart s`
    have hfront : trimEnd (trimStart s.toList) <+: trimStart s.toList :=
      List.rdropWhile_prefix isBlank _
    refine List.dropWhile_eq_self_iff.mpr fun hpos => ?_
    rw [hfront.getElem hpos]
    exact List.dropWhile_get_zero_not isBlank s.toList _
  have hlast : trimEnd (trimEnd (trimStart s.toList)) = trimEnd (trimStart s.toList) :=
    List.rdropWhile_idempotent isBlank _
  rw [← String.toList_inj, toList_trim, toList_trim, hhead, hlast]

theorem trim_eq_empty_iff (s : String) : trim s = "" ↔ blank s = true := by
  rw [← String.toList_inj, toList_trim]
  constructor
  · intro h
    obtain ⟨before, behind, hbefore, hbehind, hs⟩ := surrounds_trim s
    rw [toList_trim, h] at hs
    rw [blank, hs]
    simp [hbefore, hbehind]
  · intro h
    have hstart : trimStart s.toList = [] :=
      List.dropWhile_eq_nil_iff.mpr (List.all_eq_true.mp h)
    rw [hstart]
    rfl

theorem neat_trim (h : blank s = false) : Neat (trim s) := by
  refine ⟨trim_trim s, fun hempty => ?_⟩
  rw [(trim_eq_empty_iff s).mp hempty] at h
  cases h

theorem Neat.blank (h : Neat t) : blank t = false := by
  rw [Bool.eq_false_iff, ne_eq, ← trim_eq_empty_iff, h.trimmed]
  exact h.ne_empty

theorem neat_of_visible (hne : t ≠ "") (h : ∀ c ∈ t.toList, isBlank c = false) : Neat t := by
  refine ⟨?_, hne⟩
  have hstart : trimStart t.toList = t.toList :=
    List.dropWhile_eq_self_iff.mpr fun hpos => by simp [h _ (List.getElem_mem hpos)]
  have hend : trimEnd t.toList = t.toList :=
    List.rdropWhile_eq_self_iff.mpr fun hl => by simp [h _ (List.getLast_mem hl)]
  rw [← String.toList_inj, toList_trim, hstart, hend]

/-! ## Texts that count as absent -/

theorem nonBlank?_eq (s : String) : nonBlank? s = if blank s then none else some (trim s) := by
  have hempty : (trim s).toList.isEmpty = true ↔ blank s = true := by
    rw [List.isEmpty_iff, ← trim_eq_empty_iff, ← String.toList_inj]
    rfl
  unfold nonBlank?
  simp only [hempty]

theorem nonBlank?_eq_none_iff : nonBlank? s = none ↔ blank s = true := by
  rw [nonBlank?_eq]
  cases blank s <;> simp

/-- **A text is read as `t`** exactly if it is `t` with white space around it. -/
theorem nonBlank?_eq_some_iff : nonBlank? raw = some t ↔ Neat t ∧ Surrounds raw t := by
  constructor
  · intro h
    have hb : blank raw = false := by
      rw [Bool.eq_false_iff, ne_eq, ← nonBlank?_eq_none_iff, h]
      simp
    rw [nonBlank?_eq, hb] at h
    obtain rfl : trim raw = t := Option.some.inj h
    exact ⟨neat_trim hb, surrounds_trim raw⟩
  · rintro ⟨ht, hs⟩
    have htrim := trim_of_surrounds ht.trimmed hs
    have hb : blank raw = false := by
      rw [Bool.eq_false_iff, ne_eq, ← trim_eq_empty_iff, htrim]
      exact ht.ne_empty
    rw [nonBlank?_eq, hb, htrim]
    rfl

/-! ## Joined texts -/

variable {sep : Char} {cs : List Char} {pieces : List (List Char)}

theorem segments_eq_splitOn (sep : Char) (cs : List Char) : segments sep cs = cs.splitOn sep := by
  induction cs with
  | nil => rfl
  | cons c cs ih =>
    rw [segments, ih, List.splitOn, List.splitOn, List.splitOnP_cons_eq_if_modifyHead]
    by_cases hc : c = sep
    · simp [hc]
    · rw [if_neg hc, if_neg (by simpa using hc)]
      cases hs : cs.splitOnP (· == sep) with
      | nil => exact absurd (ih.trans hs) (segments_ne_nil sep cs)
      | cons piece rest => rfl

theorem not_mem_of_mem_segments {piece : List Char} (h : piece ∈ segments sep cs) : sep ∉ piece := by
  induction cs generalizing piece with
  | nil =>
    rw [List.mem_singleton.mp h]
    exact List.not_mem_nil
  | cons c cs ih =>
    rw [segments] at h
    by_cases hc : c = sep
    · rw [if_pos hc] at h
      rcases List.mem_cons.mp h with rfl | h
      · exact List.not_mem_nil
      · exact ih h
    · rw [if_neg hc] at h
      cases hs : segments sep cs with
      | nil => exact absurd hs (segments_ne_nil sep cs)
      | cons front rest =>
        rw [hs] at h ih
        rcases List.mem_cons.mp h with rfl | h
        · have hfront := ih List.mem_cons_self
          simp [Ne.symm hc, hfront]
        · exact ih (List.mem_cons_of_mem front h)

/-- **The pieces of a text** are those that it was joined of. -/
theorem segments_eq_iff (hne : pieces ≠ []) :
    segments sep cs = pieces ↔ cs = [sep].intercalate pieces ∧ ∀ p ∈ pieces, sep ∉ p := by
  constructor
  · rintro rfl
    refine ⟨?_, fun p hp => not_mem_of_mem_segments hp⟩
    rw [segments_eq_splitOn, List.intercalate_splitOn]
  · rintro ⟨rfl, hp⟩
    rw [segments_eq_splitOn, List.splitOn_intercalate sep hp hne]

end EventLedger.Text
