import EventLedger.Audit.Forwarder
import EventLedger.Proofs.Text.Trimmed

/-!
# The grammar of event types

An event type spells a tag: segments of ASCII letters, digits, `_` and `-` with single dots between them,
128 characters at most. Any other text is rejected for the first of three faults.

* `Segment`, `Tag`, `Tag.text`: the grammar;
* `tagSegment_iff`, `segments_text`, **`dottedTag_iff`**: what is recognised;
* `category_text`, `lastPart_text`: the outermost segments of a tag;
* `TypeFault`, `spells_or_fault`: what is wrong with a text, if anything is;
* `checkEventType_eq_ok_iff`, `checkEventType_eq_error_iff`: the verdict on a text;
* **`event_types_follow_grammar`**.
-/

namespace EventLedger

/-! ## Tags -/

/-- A segment is not empty and has only ASCII letters, digits, `_` and `-`. -/
structure Segment (p : String) : Prop where
  ne_empty : p ≠ ""
  chars : ∀ c ∈ p.toList, c.isAlphanum = true ∨ c = '_' ∨ c = '-'

/-- One segment or several in a row. -/
structure Tag where
  parts : List String
  ne_nil : parts ≠ []
  segments : ∀ p ∈ parts, Segment p

namespace Tag

/-- A tag is spelled with single dots between its segments. -/
def text (t : Tag) : String := ".".intercalate t.parts

/-- The segment in front. -/
def first (t : Tag) : String := t.parts.head t.ne_nil

/-- The segment at the end. -/
def last (t : Tag) : String := t.parts.getLast t.ne_nil

theorem segment_first (t : Tag) : Segment t.first := t.segments _ (List.head_mem t.ne_nil)

theorem segment_last (t : Tag) : Segment t.last := t.segments _ (List.getLast_mem t.ne_nil)

end Tag

theorem Segment.dot_not_mem {p : String} (h : Segment p) : '.' ∉ p.toList := fun hdot =>
  absurd (h.chars '.' hdot) (by decide)

/-! ## Recognition -/

theorem tagChar_iff (c : Char) : tagChar c = true ↔ c.isAlphanum = true ∨ c = '_' ∨ c = '-' := by
  have halphanum : c.isAlphanum =
      (decide ('A' ≤ c ∧ c ≤ 'Z') || ('a' ≤ c && c ≤ 'z') || ('0' ≤ c && c ≤ '9')) := rfl
  simp only [tagChar, halphanum, Bool.or_eq_true, Bool.and_eq_true, decide_eq_true_eq, beq_iff_eq]
  tauto

theorem tagSegment_iff (p : String) : tagSegment p.toList = true ↔ Segment p := by
  have hempty : p.toList.isEmpty = true ↔ p = "" := by
    rw [List.isEmpty_iff, ← String.toList_inj]
    rfl
  constructor
  · intro h
    obtain ⟨hne, hall⟩ := Bool.and_eq_true_iff.mp h
    refine ⟨fun hp => ?_, fun c hc => (tagChar_iff c).mp (List.all_eq_true.mp hall c hc)⟩
    rw [hempty.mpr hp] at hne
    cases hne
  · rintro ⟨hne, hchars⟩
    refine Bool.and_eq_true_iff.mpr ⟨?_, List.all_eq_true.mpr fun c hc => ?_⟩
    · rw [Bool.not_eq_true', ← Bool.not_eq_true, hempty]
      exact hne
    · exact (tagChar_iff c).mpr (hchars c hc)

instance (p : String) : Decidable (Segment p) := decidable_of_iff _ (tagSegment_iff p)

theorem segments_text (t : Tag) : Text.segments '.' t.text.toList = t.parts.map String.toList := by
  have hne : t.parts.map String.toList ≠ [] := fun h => t.ne_nil (List.map_eq_nil_iff.mp h)
  refine (Text.segments_eq_iff hne).mpr ⟨String.toList_intercalate, fun cs hcs => ?_⟩
  obtain ⟨p, hp, rfl⟩ := List.mem_map.mp hcs
  exact (t.segments p hp).dot_not_mem

/-- **A text is recognised as a dotted tag** exactly if some tag is spelled so. -/
theorem dottedTag_iff (s : String) : dottedTag s.toList = true ↔ ∃ t : Tag, t.text = s := by
  rw [dottedTag, List.all_eq_true]
  constructor
  · intro h
    have hne := Text.segments_ne_nil '.' s.toList
    refine ⟨⟨(Text.segments '.' s.toList).map String.ofList, by simpa using hne, ?_⟩, ?_⟩
    · intro p hp
      obtain ⟨cs, hcs, rfl⟩ := List.mem_map.mp hp
      refine (tagSegment_iff _).mp ?_
      rw [String.toList_ofList]
      exact h cs hcs
    · have hjoined := ((Text.segments_eq_iff hne).mp rfl).1
      rw [← String.toList_inj, Tag.text, String.toList_intercalate, List.map_map,
        show String.toList ∘ String.ofList = id from funext fun _ => String.toList_ofList,
        List.map_id]
      exact hjoined.symm
  · rintro ⟨t, rfl⟩ cs hcs
    rw [segments_text] at hcs
    obtain ⟨p, hp, rfl⟩ := List.mem_map.mp hcs
    exact (tagSegment_iff p).mpr (t.segments p hp)

/-! ## The outermost segments -/

theorem category_text (t : Tag) : category t.text = t.first := by
  have hhead := Text.head?_segments '.' t.text.toList
  rw [segments_text, List.head?_map, List.head?_eq_some_head t.ne_nil, Option.map_some,
    Option.some.injEq] at hhead
  rw [category, ← hhead, String.ofList_toList]
  rfl

theorem lastPart_text (t : Tag) : lastPart t.text = t.last := by
  have hlast := Text.getLast?_segments '.' t.text.toList
  rw [segments_text, List.getLast?_map, List.getLast?_eq_some_getLast t.ne_nil, Option.map_some,
    Option.some.injEq] at hlast
  rw [lastPart, ← hlast, String.ofList_toList]
  rfl

theorem startsWith_category (s : String) : startsWith (category s) s = true := by
  rw [startsWith, List.isPrefixOf_iff_prefix, category, String.toList_ofList]
  exact List.takeWhile_prefix _

theorem blank_text (t : Tag) : Text.blank t.text = false := by
  have hfirst : t.first.toList <+: t.text.toList :=
    category_text t ▸ List.isPrefixOf_iff_prefix.mp (startsWith_category t.text)
  cases hcs : t.first.toList with
  | nil => exact absurd (String.toList_inj.mp hcs) t.segment_first.ne_empty
  | cons c cs =>
    have hc : c ∈ t.first.toList := hcs ▸ List.mem_cons_self
    have htag := (tagChar_iff c).mpr (t.segment_first.chars c hc)
    exact Text.blank_eq_false (hfirst.subset hc) (isBlank_of_tagChar htag)

/-! ## The verdict on a text -/

/-- What is wrong with a text that is no event type. -/
inductive TypeFault (s : String) : Rejection → Prop
  | blank (h : ∀ c ∈ s.toList, Text.isBlank c = true) : TypeFault s .emptyEventType
  | long (hvisible : ∃ c ∈ s.toList, Text.isBlank c = false) (h : 128 < s.length) :
      TypeFault s (.eventTypeTooLong 128)
  | malformed (hvisible : ∃ c ∈ s.toList, Text.isBlank c = false) (hshort : s.length ≤ 128)
      (h : ∀ t : Tag, t.text ≠ s) : TypeFault s (.malformedEventType s)

variable {s : String} {e : Rejection}

theorem visible_iff : Text.blank s = false ↔ ∃ c ∈ s.toList, Text.isBlank c = false := by
  simp [Text.blank]

theorem checkEventType_text {t : Tag} (h : t.text.length ≤ 128) : checkEventType t.text = .ok () := by
  have htag := (dottedTag_iff t.text).mpr ⟨t, rfl⟩
  rw [checkEventType, eventTypeLimit, blank_text, if_neg Bool.false_ne_true,
    if_neg (Nat.not_lt.mpr h), if_pos htag]

theorem TypeFault.check (h : TypeFault s e) : checkEventType s = .error e := by
  cases h with
  | blank h => exact if_pos (List.all_eq_true.mpr h)
  | long hvisible h =>
    rw [checkEventType, eventTypeLimit, visible_iff.mpr hvisible, if_neg Bool.false_ne_true, if_pos h]
  | malformed hvisible hshort h =>
    have htag : ¬ dottedTag s.toList = true := fun htag =>
      have ⟨t, ht⟩ := (dottedTag_iff s).mp htag
      h t ht
    rw [checkEventType, eventTypeLimit, visible_iff.mpr hvisible, if_neg Bool.false_ne_true,
      if_neg (Nat.not_lt.mpr hshort), if_neg htag]

theorem spells_or_fault (s : String) :
    ((∃ t : Tag, t.text = s) ∧ s.length ≤ 128) ∨ ∃ e, TypeFault s e := by
  by_cases hblank : Text.blank s = true
  · exact .inr ⟨_, .blank (List.all_eq_true.mp hblank)⟩
  have hvisible := visible_iff.mp (Bool.eq_false_iff.mpr hblank)
  by_cases hlong : 128 < s.length
  · exact .inr ⟨_, .long hvisible hlong⟩
  have hshort := Nat.not_lt.mp hlong
  by_cases htag : ∃ t : Tag, t.text = s
  · exact .inl ⟨htag, hshort⟩
  · exact .inr ⟨_, .malformed hvisible hshort (not_exists.mp htag)⟩

theorem checkEventType_eq_ok_iff :
    checkEventType s = .ok () ↔ (∃ t : Tag, t.text = s) ∧ s.length ≤ 128 := by
  constructor
  · intro h
    obtain hspells | ⟨e, hfault⟩ := spells_or_fault s
    · exact hspells
    · rw [hfault.check] at h
      cases h
  · rintro ⟨⟨t, rfl⟩, hshort⟩
    exact checkEventType_text hshort

theorem checkEventType_eq_error_iff : checkEventType s = .error e ↔ TypeFault s e := by
  refine ⟨fun h => ?_, TypeFault.check⟩
  obtain hspells | ⟨e', hfault⟩ := spells_or_fault s
  · rw [checkEventType_eq_ok_iff.mpr hspells] at h
    cases h
  · rw [hfault.check] at h
    cases h
    exact hfault

/-- **The grammar of event types.** A text is accepted exactly if it spells a tag and has at most 128
characters; any other text is rejected for being blank, else for its length, else for its form. The
category of an event type is the first segment of its tag and starts it, and the action recorded for an
event is the last segment. -/
theorem event_types_follow_grammar (s : String) :
    (checkEventType s = .ok () ↔ (∃ t : Tag, t.text = s) ∧ s.length ≤ 128) ∧
    (∀ e, checkEventType s = .error e ↔ TypeFault s e) ∧
    ∀ t : Tag, t.text = s →
      category s = t.first ∧ (∀ e : Envelope, e.eventType = s → e.submission.action = t.last) ∧
      (t.first ≠ "" ∧ '.' ∉ t.first.toList) ∧ (t.last ≠ "" ∧ '.' ∉ t.last.toList) ∧
      startsWith (category s) s = true := by
  refine ⟨checkEventType_eq_ok_iff, fun _ => checkEventType_eq_error_iff, ?_⟩
  rintro t rfl
  have haction : ∀ e : Envelope, e.eventType = t.text → e.submission.action = t.last := by
    intro e he
    rw [← lastPart_text, ← he]
    rfl
  have hfirst := t.segment_first
  have hlast := t.segment_last
  exact ⟨category_text t, haction, ⟨hfirst.ne_empty, hfirst.dot_not_mem⟩,
    ⟨hlast.ne_empty, hlast.dot_not_mem⟩, startsWith_category _⟩

/-- `trip.leg_2.re-routed` spells a tag of three segments; there is none that `trip..created` spells. -/
theorem rerouted_leg_spells_tag :
    let t : Tag := ⟨["trip", "leg_2", "re-routed"], by decide, by decide +kernel⟩
    t.text = "trip.leg_2.re-routed" ∧ checkEventType "trip.leg_2.re-routed" = .ok () ∧
      category "trip.leg_2.re-routed" = "trip" ∧ t.last = "re-routed" ∧
      ∀ u : Tag, u.text ≠ "trip..created" := by
  intro t
  have htext : t.text = "trip.leg_2.re-routed" := rfl
  obtain ⟨haccepted, -, hparts⟩ := event_types_follow_grammar "trip.leg_2.re-routed"
  obtain ⟨hcategory, -⟩ := hparts t htext
  have hdoubled := ((event_types_follow_grammar "trip..created").2.1
    (.malformedEventType "trip..created")).mp (by decide +kernel)
  refine ⟨htext, haccepted.mpr ⟨⟨t, htext⟩, by decide +kernel⟩, hcategory, rfl, ?_⟩
  cases hdoubled with
  | malformed _ _ h => exact h

end EventLedger
