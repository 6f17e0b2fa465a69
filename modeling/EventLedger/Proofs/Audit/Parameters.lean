import EventLedger.Audit.QueryParams
import EventLedger.Proofs.Text.Trimmed

/-!
# What search parameters say

White space around a text is put aside, and so are the blank pieces between the elements of a set. What
is left is what a parameter says. Parameters are read one by one; no reading depends on another.

* `Says`, `Pieces`, `SaysAll`: what a parameter says, and which texts it lists;
* **`bind_nonBlank?_eq_iff`**, **`splitSet_eq_iff`**: exactly these are read;
* `QueryParams.faults`, `QueryParams.filter`, `QueryParams.pageRequest`, `QueryParams.order`: what is
  unreadable, and what is read;
* **`QueryParams.parse_eq`**, `QueryParams.parse_eq_ok_iff`: the whole of it.
-/

namespace EventLedger

/-! ## What a parameter says -/

/-- A parameter that says a text, perhaps with white space around it. One that is absent or blank says
nothing. -/
inductive Says : Option String → Option String → Prop
  | absent : Says none none
  | blank {raw : String} (h : Text.blank raw = true) : Says (some raw) none
  | text {raw t : String} (h : Text.Surrounds raw t) : Says (some raw) (some t)

/-- Pieces of which each says one of the texts of a list, in their order, or nothing. -/
inductive Pieces : List String → List String → Prop
  | nil : Pieces [] []
  | cons {piece : String} {t? : Option String} {pieces ts : List String}
      (first : Says (some piece) t?) (rest : Pieces pieces ts) :
      Pieces (piece :: pieces) (t?.toList ++ ts)

/-- A parameter that lists texts with commas between them. One that is absent lists none. -/
inductive SaysAll : Option String → List String → Prop
  | absent : SaysAll none []
  | joined {pieces ts : List String} (h : Pieces pieces ts) :
      SaysAll (some (",".intercalate pieces)) ts

/-- A text that can stand in a list. -/
structure Listable (t : String) : Prop extends Text.Neat t where
  comma_free : ',' ∉ t.toList

instance (t : String) : Decidable (Listable t) :=
  decidable_of_iff (Text.Neat t ∧ ',' ∉ t.toList) ⟨fun h => ⟨h.1, h.2⟩, fun h => ⟨h.1, h.2⟩⟩

variable {raw t? : Option String} {pieces ts : List String}

theorem Says.self (t? : Option String) : Says t? t? := by
  cases t? with
  | none => exact .absent
  | some t => exact .text (.refl t)

theorem SaysAll.self (ts : List String) : SaysAll (some (",".intercalate ts)) ts := by
  refine .joined ?_
  induction ts with
  | nil => exact .nil
  | cons t ts ih => exact .cons (.self (some t)) ih

theorem nonBlank?_eq_iff {s : String} :
    Text.nonBlank? s = t? ↔ Says (some s) t? ∧ ∀ t ∈ t?, Text.Neat t := by
  cases t? with
  | none =>
    rw [Text.nonBlank?_eq_none_iff]
    refine ⟨fun h => ⟨.blank h, nofun⟩, ?_⟩
    rintro ⟨h | _, -⟩
    assumption
  | some t =>
    rw [Text.nonBlank?_eq_some_iff]
    constructor
    · rintro ⟨ht, hs⟩
      exact ⟨.text hs, by rintro _ ⟨⟩; exact ht⟩
    · rintro ⟨_ | _ | hs, ht⟩
      exact ⟨ht t rfl, hs⟩

/-- **A parameter is read as what it says**, as long as that has no white space around it. -/
theorem bind_nonBlank?_eq_iff :
    raw.bind Text.nonBlank? = t? ↔ Says raw t? ∧ ∀ t ∈ t?, Text.Neat t := by
  cases raw with
  | some s => rw [Option.bind_some, nonBlank?_eq_iff]
  | none =>
    constructor
    · rintro rfl
      exact ⟨.absent, nofun⟩
    · rintro ⟨⟨⟩, -⟩
      rfl

theorem filterMap_nonBlank?_eq_iff :
    pieces.filterMap Text.nonBlank? = ts ↔ Pieces pieces ts ∧ ∀ t ∈ ts, Text.Neat t := by
  induction pieces generalizing ts with
  | nil =>
    constructor
    · rintro rfl
      exact ⟨.nil, nofun⟩
    · rintro ⟨⟨⟩, -⟩
      rfl
  | cons piece pieces ih =>
    have hcons : (piece :: pieces).filterMap Text.nonBlank? =
        (Text.nonBlank? piece).toList ++ pieces.filterMap Text.nonBlank? := by
      rw [List.filterMap_cons]
      cases Text.nonBlank? piece <;> rfl
    rw [hcons]
    constructor
    · rintro rfl
      obtain ⟨hfirst, hneat⟩ := nonBlank?_eq_iff.mp (Eq.refl (Text.nonBlank? piece))
      obtain ⟨hrest, hneats⟩ := ih.mp (Eq.refl (pieces.filterMap Text.nonBlank?))
      refine ⟨.cons hfirst hrest, fun t ht => ?_⟩
      rcases List.mem_append.mp ht with ht | ht
      · exact hneat t (Option.mem_toList.mp ht)
      · exact hneats t ht
    · rintro ⟨hall, hneat⟩
      cases hall with
      | @cons _ t? _ ts hfirst hrest =>
        have hneat' := fun t ht => hneat t (List.mem_append_left ts (Option.mem_toList.mpr ht))
        rw [nonBlank?_eq_iff.mpr ⟨hfirst, hneat'⟩,
          ih.mpr ⟨hrest, fun t ht => hneat t (List.mem_append_right _ ht)⟩]

theorem Says.mem_iff {s t : String} {c : Char} (h : Says (some s) (some t))
    (hc : Text.isBlank c = false) : c ∈ s.toList ↔ c ∈ t.toList := by
  obtain _ | _ | ⟨before, behind, hbefore, hbehind, hraw⟩ := h
  have hnot {cs : List Char} (h : cs.all Text.isBlank = true) : c ∉ cs := fun hmem => by
    rw [List.all_eq_true.mp h c hmem] at hc
    cases hc
  simp [hraw, hnot hbefore, hnot hbehind]

theorem Says.not_mem {s : String} {c : Char} (h : Says (some s) none)
    (hc : Text.isBlank c = false) : c ∉ s.toList := by
  obtain _ | hblank | _ := h
  intro hmem
  rw [List.all_eq_true.mp hblank c hmem] at hc
  cases hc

theorem Pieces.comma_free_iff (h : Pieces pieces ts) :
    (∀ piece ∈ pieces, ',' ∉ piece.toList) ↔ ∀ t ∈ ts, ',' ∉ t.toList := by
  induction h with
  | nil => simp
  | @cons piece t? pieces ts hfirst hrest ih =>
    rw [List.forall_mem_cons, List.forall_mem_append, ih]
    cases t? with
    | none => simp [hfirst.not_mem (c := ',') rfl]
    | some t => simp [hfirst.mem_iff (c := ',') rfl]

theorem splitSet_some (s : String) :
    splitSet (some s) = ((Text.segments ',' s.toList).map String.ofList).filterMap Text.nonBlank? := by
  rw [splitSet, List.filterMap_map, Function.comp_def]

theorem map_segments_eq_iff {s : String} (hne : pieces ≠ []) :
    (Text.segments ',' s.toList).map String.ofList = pieces ↔
      s = ",".intercalate pieces ∧ ∀ piece ∈ pieces, ',' ∉ piece.toList := by
  have hmap : (Text.segments ',' s.toList).map String.ofList = pieces ↔
      Text.segments ',' s.toList = pieces.map String.toList := by
    constructor
    · rintro rfl
      simp [Function.comp_def]
    · intro h
      simp [h, Function.comp_def]
  have hjoined : (",".intercalate pieces).toList = [','].intercalate (pieces.map String.toList) :=
    String.toList_intercalate
  rw [hmap, Text.segments_eq_iff (by simpa using hne), ← hjoined, String.toList_inj,
    List.forall_mem_map]

/-- **A set is read as the texts that it lists**, as long as they can stand in a list. -/
theorem splitSet_eq_iff : splitSet raw = ts ↔ SaysAll raw ts ∧ ∀ t ∈ ts, Listable t := by
  cases raw with
  | none =>
    constructor
    · rintro rfl
      exact ⟨.absent, nofun⟩
    · rintro ⟨⟨⟩, -⟩
      rfl
  | some s =>
    rw [splitSet_some, filterMap_nonBlank?_eq_iff]
    constructor
    · rintro ⟨hpieces, hneat⟩
      have hne : (Text.segments ',' s.toList).map String.ofList ≠ [] := by
        simpa using Text.segments_ne_nil ',' s.toList
      obtain ⟨hs, hfree⟩ := (map_segments_eq_iff hne).mp rfl
      have hlists := SaysAll.joined hpieces
      rw [← hs] at hlists
      exact ⟨hlists, fun t ht => ⟨hneat t ht, hpieces.comma_free_iff.mp hfree t ht⟩⟩
    · rintro ⟨_ | @⟨pieces, _, hpieces⟩, ht⟩
      refine ⟨?_, fun t hmem => (ht t hmem).toNeat⟩
      by_cases hne : pieces = []
      · -- an empty text has one piece, which is blank
        subst hne
        cases hpieces
        exact .cons (.blank rfl) .nil
      · have hfree := hpieces.comma_free_iff.mpr fun t hmem => (ht t hmem).comma_free
        rwa [(map_segments_eq_iff hne).mpr ⟨rfl, hfree⟩]

/-! ## One by one -/

namespace Reading

variable {α : Type} {name : String} {read : String → Except String α} {v : Violation}

theorem field_of_ofText {t : String} (h : (ofText name read t).violation? = some v) :
    v.field = name := by
  unfold ofText at h
  split at h
  · cases h
  · rw [← Option.some.inj h]
    rfl

theorem field_of_ofParam {raw : Option String} (h : (ofParam name read raw).violation? = some v) :
    v.field = name := by
  unfold ofParam at h
  split at h
  · cases h
  · exact field_of_ofText h

theorem ofParam_of_nothing {raw : Option String} (h : Says raw none) :
    ofParam name read raw = .absent := by
  rw [ofParam, bind_nonBlank?_eq_iff.mpr ⟨h, nofun⟩]

end Reading

namespace QueryParams

variable (q : QueryParams)

/-! What each parameter turns out to be, on its own. -/

/-- The kinds of actors, one by one. -/
def kinds : List (Reading ActorKind) :=
  (splitSet q.actorTypes).map (Reading.ofText "actorTypes" readActorKind)

/-- The start of the range. -/
def start : Reading Instant := Reading.ofParam "dateFrom" readInstant q.dateFrom

/-- The end of the range. -/
def finish : Reading Instant := Reading.ofParam "dateTo" readInstant q.dateTo

/-- The field to sort by. -/
def field : Reading SortField := Reading.ofParam "sortBy" SortField.read q.sortBy

/-- The direction of sorting. -/
def direction : Reading Direction := Reading.ofParam "sortOrder" Direction.read q.sortOrder

/-- The number of the page. -/
def number : Reading Nat := Reading.ofParam "page" readCount q.page

/-- The size of the page. -/
def size : Reading Nat := Reading.ofParam "pageSize" readCount q.pageSize

/-- Everything that cannot be read. -/
def faults : List Violation :=
  q.kinds.filterMap (·.violation?) ++
    [q.start.violation?, q.finish.violation?, q.field.violation?, q.direction.violation?,
      q.number.violation?, q.size.violation?].filterMap id

/-- The filter of the parameters that can be read. -/
def filter : Filter where
  eventTypes := splitSet q.eventTypes
  category := q.category.bind Text.nonBlank?
  actorKinds := q.kinds.filterMap (·.value?)
  actorIds := splitSet q.actorIds
  resourceTypes := splitSet q.resourceTypes
  resourceIds := splitSet q.resourceIds
  correlationId := q.correlationId.bind Text.nonBlank?
  causationId := q.causationId.bind Text.nonBlank?
  dateFrom := q.start.value?
  dateTo := q.finish.value?
  sourceServices := splitSet q.sourceServices
  search := q.search.bind Text.nonBlank?

/-- The page, with the first one and the usual size where nothing is said. -/
def pageRequest (usualSize : Nat) : PageRequest :=
  ⟨q.number.value?.getD 1, q.size.value?.getD usualSize⟩

/-- The order, the latest records first where nothing is said. -/
def order : RecordOrder := ⟨q.field.value?.getD .timestamp, q.direction.value?.getD .descending⟩

theorem parse_eq (usualSize : Nat) :
    q.parse usualSize =
      if q.faults.isEmpty then .ok (q.filter, q.pageRequest usualSize, q.order)
      else .error q.faults := rfl

theorem parse_eq_ok_iff {q : QueryParams} {usualSize : Nat} {f : Filter} {p : PageRequest}
    {o : RecordOrder} :
    q.parse usualSize = .ok (f, p, o) ↔
      q.faults = [] ∧ q.filter = f ∧ q.pageRequest usualSize = p ∧ q.order = o := by
  rw [parse_eq]
  cases q.faults with
  | nil => simp
  | cons v vs => simp

end QueryParams

end EventLedger
