import EventLedger.Event.EventType

/-!
# Dotted tags

* `head?_segments`, `getLast?_segments`: the outermost pieces of a text stand in front of the first
  separator and behind the last one;
* `dottedTag_of_check`, **`category_ne_empty`**: an accepted event type is a dotted tag and has a
  category;
* **`blank_category`**, **`blank_lastPart`**: its category and its last part are not blank.
-/

namespace EventLedger

theorem Text.head?_segments (sep : Char) (cs : List Char) :
    (segments sep cs).head? = some (firstSegment sep cs) := by
  induction cs with
  | nil => rfl
  | cons c cs ih =>
    unfold firstSegment at ih ⊢
    rw [segments]
    by_cases hc : c = sep
    · rw [if_pos hc, List.takeWhile_cons_of_neg (by simpa using hc)]
      rfl
    · rw [if_neg hc, List.takeWhile_cons_of_pos (by simpa using hc)]
      cases hs : segments sep cs with
      | nil => exact absurd hs (segments_ne_nil sep cs)
      | cons piece rest =>
        rw [hs] at ih
        simp only [List.head?_cons, Option.some.injEq] at ih ⊢
        rw [ih]

theorem Text.segments_of_not_mem {sep : Char} {cs : List Char} (h : sep ∉ cs) :
    segments sep cs = [cs] := by
  induction cs with
  | nil => rfl
  | cons c cs ih =>
    have h1 : c ≠ sep := fun hc => h (hc ▸ List.mem_cons_self)
    rw [segments, if_neg h1, ih fun hm => h (List.mem_cons_of_mem c hm)]

theorem Text.segments_append_cons (sep : Char) (xs ys : List Char) :
    segments sep (xs ++ sep :: ys) = segments sep xs ++ segments sep ys := by
  induction xs with
  | nil => simp [segments]
  | cons c xs ih =>
    rw [List.cons_append, segments, segments, ih]
    by_cases hc : c = sep
    · rw [if_pos hc, if_pos hc, List.cons_append]
    · rw [if_neg hc, if_neg hc]
      cases hs : segments sep xs with
      | nil => exact absurd hs (segments_ne_nil sep xs)
      | cons piece rest => rfl

theorem Text.not_mem_lastSegment (sep : Char) (cs : List Char) : sep ∉ lastSegment sep cs := by
  intro h
  have h1 := List.all_eq_true.mp List.all_takeWhile sep (List.mem_reverse.mp h)
  simp at h1

theorem Text.eq_append_lastSegment (sep : Char) (cs : List Char) :
    cs = lastSegment sep cs ∨ ∃ front, cs = front ++ sep :: lastSegment sep cs := by
  have h1 : cs = (cs.reverse.dropWhile (· ≠ sep)).reverse ++ lastSegment sep cs := by
    rw [lastSegment, ← List.reverse_append, List.takeWhile_append_dropWhile, List.reverse_reverse]
  cases hd : cs.reverse.dropWhile (· ≠ sep) with
  | nil =>
    rw [hd] at h1
    exact Or.inl h1
  | cons c rest =>
    have h2 : c = sep := by
      have h3 := List.head?_dropWhile_not (· ≠ sep) cs.reverse
      rw [hd] at h3
      simpa using h3
    rw [hd, h2, List.reverse_cons, List.append_assoc] at h1
    exact Or.inr ⟨rest.reverse, h1⟩

theorem Text.getLast?_segments (sep : Char) (cs : List Char) :
    (segments sep cs).getLast? = some (lastSegment sep cs) := by
  have h1 := segments_of_not_mem (not_mem_lastSegment sep cs)
  rcases eq_append_lastSegment sep cs with h | ⟨front, h⟩
  · rw [← h] at h1
    rw [h1, ← h, List.getLast?_singleton]
  · have h2 := segments_append_cons sep front (lastSegment sep cs)
    rw [← h, h1] at h2
    rw [h2, List.getLast?_concat]

theorem head?_segments_category (eventType : String) :
    (Text.segments '.' eventType.toList).head? = some (category eventType).toList := by
  rw [Text.head?_segments, category, String.toList_ofList]

/-- An accepted event type is a dotted tag. -/
theorem dottedTag_of_check {eventType : String} (h : checkEventType eventType = .ok ()) :
    dottedTag eventType.toList = true := by
  unfold checkEventType at h
  by_cases h1 : Text.blank eventType = true
  · rw [if_pos h1] at h
    cases h
  · by_cases h2 : eventTypeLimit < eventType.length
    · rw [if_neg h1, if_pos h2] at h
      cases h
    · by_cases h3 : dottedTag eventType.toList = true
      · exact h3
      · rw [if_neg h1, if_neg h2, if_neg h3] at h
        cases h

theorem category_ne_empty {eventType : String} (h : checkEventType eventType = .ok ()) :
    category eventType ≠ "" := by
  intro h0
  have h1 := head?_segments_category eventType
  rw [h0] at h1
  have h2 : tagSegment [] = true :=
    List.all_eq_true.mp (dottedTag_of_check h) [] (List.mem_of_mem_head? h1)
  exact absurd h2 (by decide)

theorem Text.blank_eq_false {s : String} {c : Char} (hm : c ∈ s.toList) (hc : isBlank c = false) :
    blank s = false := List.all_eq_false.mpr ⟨c, hm, by rw [hc]; exact Bool.false_ne_true⟩

theorem Text.isBlank_eq_false {c : Char} (h1 : 0x20 < c.toNat) (h2 : c.toNat < 0x80) :
    isBlank c = false := by
  simp [isBlank]
  omega

theorem isBlank_of_tagChar {c : Char} (h : tagChar c = true) : Text.isBlank c = false := by
  have h1 : ∀ d e : Char, d ≤ e ↔ d.toNat ≤ e.toNat := fun d e => Iff.rfl
  simp only [tagChar, h1, Bool.or_eq_true, Bool.and_eq_true, decide_eq_true_eq, beq_iff_eq,
    Char.reduceToNat] at h
  rcases h with (((h | h) | h) | rfl) | rfl
  · exact Text.isBlank_eq_false (by omega) (by omega)
  · exact Text.isBlank_eq_false (by omega) (by omega)
  · exact Text.isBlank_eq_false (by omega) (by omega)
  · decide
  · decide

theorem blank_of_tagSegment {cs : List Char} (h : tagSegment cs = true) :
    Text.blank (String.ofList cs) = false := by
  obtain ⟨h1, h2⟩ := Bool.and_eq_true_iff.mp h
  cases cs with
  | nil => cases h1
  | cons c cs =>
    have h3 : tagChar c = true := List.all_eq_true.mp h2 c List.mem_cons_self
    refine Text.blank_eq_false (c := c) ?_ (isBlank_of_tagChar h3)
    rw [String.toList_ofList]
    exact List.mem_cons_self

/-- **The category of an accepted event type is not blank.** -/
theorem blank_category {eventType : String} (h : checkEventType eventType = .ok ()) :
    Text.blank (category eventType) = false :=
  blank_of_tagSegment (List.all_eq_true.mp (dottedTag_of_check h) _
    (List.mem_of_mem_head? (Text.head?_segments '.' _)))

theorem blank_lastPart {eventType : String} (h : checkEventType eventType = .ok ()) :
    Text.blank (lastPart eventType) = false :=
  blank_of_tagSegment (List.all_eq_true.mp (dottedTag_of_check h) _
    (List.mem_of_getLast? (Text.getLast?_segments '.' _)))

end EventLedger
