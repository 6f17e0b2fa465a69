import EventLedger.Proofs.Audit.Parameters
import EventLedger.Proofs.Text.Numbers
import EventLedger.Proofs.Time.ReadBack
import Mathlib.Tactic.ByContra

/-!
# Written searches are read back

A filter, a page and an order can be written as search parameters in many ways. There may be white space
around every text and blank pieces between the elements of a set. A direction may be named in any letter
case, and whatever is at its usual value may be left out. All these ways are read as the same search.

* `Instant.neat_wireText`, `Direction.neat_of_lowerAscii`: texts that are written;
* `Chooses`: a parameter that names a value or leaves it at the usual one;
* `Filter.Plain`, `PageRequest.Fits`, `QueryParams.Written`: searches and the ways to write them;
* `QueryParams.of`, `written_of`: a plain way to write any search;
* **`parameters_read_back`**;
* **`parse_of_parse`**: nothing is read but searches that can be written.
-/

namespace EventLedger

open Text (Neat)

/-! ## Texts that are written -/

theorem ActorKind.listable_word (k : ActorKind) : Listable k.word := by
  cases k <;> exact ⟨⟨by decide, by decide⟩, by decide⟩

theorem SortField.neat_word (f : SortField) : Neat f.word := by
  cases f <;> exact ⟨by decide, by decide⟩

theorem Text.toLower_of_isBlank {c : Char} (h : isBlank c = true) : c.toLower = c := by
  have hnot : ¬ (65 ≤ c.toNat ∧ c.toNat ≤ 90) := by
    simp only [isBlank, Bool.or_eq_true, Bool.and_eq_true, decide_eq_true_eq, beq_iff_eq] at h
    omega
  exact dif_neg hnot

theorem Direction.neat_of_lowerAscii {t : String} {d : Direction} (h : Text.lowerAscii t = d.word) :
    Neat t := by
  have hmap : t.toList.map Char.toLower = d.word.toList := by
    rw [← h, Text.lowerAscii, String.toList_ofList]
  refine Text.neat_of_visible (fun hempty => ?_) fun c hc => ?_
  · rw [hempty] at hmap
    cases d <;> cases hmap
  · have hmem : c.toLower ∈ d.word.toList := hmap ▸ List.mem_map_of_mem hc
    have hword : d.word.toList.all (fun c => !Text.isBlank c) = true := by cases d <;> rfl
    by_contra hblank
    have hb : Text.isBlank c = true := by simpa using hblank
    have hvisible := List.all_eq_true.mp hword _ hmem
    rw [Text.toLower_of_isBlank hb, hb] at hvisible
    cases hvisible

theorem Text.padded_visible (width n : Nat) : ∀ c ∈ (padded width n).toList, isBlank c = false :=
  fun _ h => isBlank_of_isDigit (isDigit_of_mem_padded h)

namespace Instant

theorem yearText_visible (y : Int) : ∀ c ∈ (yearText y).toList, Text.isBlank c = false := by
  rw [toList_yearText]
  split
  · exact Text.padded_visible 4 _
  · exact List.forall_mem_cons.mpr ⟨isBlank_sign y, Text.padded_visible 4 _⟩

theorem fractionText_visible (t : Instant) :
    ∀ c ∈ (fractionText .fewest t).toList, Text.isBlank c = false := by
  have hdot (width n : Nat) : ∀ c ∈ ("." ++ Text.padded width n).toList, Text.isBlank c = false := by
    rw [String.toList_append]
    exact List.forall_mem_cons.mpr ⟨rfl, Text.padded_visible width n⟩
  unfold fractionText
  dsimp only
  -- no digits, or three, six or nine of them
  split
  · exact nofun
  · split
    · exact hdot 3 _
    · split
      · exact hdot 6 _
      · exact hdot 9 _

theorem neat_wireText (t : Instant) : Neat t.wireText := by
  have hpadded := Text.padded_visible 2
  refine Text.neat_of_visible (fun hempty => ?_) ?_
  · have hnil : t.wireText.toList = [] := by rw [hempty]; rfl
    simp [toList_wireText] at hnil
  · simp only [toList_wireText, List.forall_mem_append, List.forall_mem_cons]
    exact ⟨yearText_visible _, rfl, hpadded _, rfl, hpadded _, rfl, hpadded _, rfl, hpadded _, rfl,
      hpadded _, fractionText_visible t, rfl, nofun⟩

end Instant

/-! ## Readings -/

section Readings

variable {α : Type} {name : String} {read : String → Except String α} {raw : Option String}

/-- A value, or nothing. -/
def Reading.ofOption : Option α → Reading α
  | none => .absent
  | some a => .value a

@[simp] theorem Reading.violation?_ofOption (a? : Option α) : (ofOption a?).violation? = none := by
  cases a? <;> rfl

@[simp] theorem Reading.value?_ofOption (a? : Option α) : (ofOption a?).value? = a? := by
  cases a? <;> rfl

theorem Reading.ofText_value {t : String} {a : α} (h : read t = .ok a) :
    ofText name read t = .value a := by
  rw [ofText, h]

/-- A parameter that names a value by a text, or leaves it at the usual one. -/
inductive Chooses (names : String → α → Prop) (usual : α) : Option String → α → Prop
  | left {raw : Option String} (h : Says raw none) : Chooses names usual raw usual
  | named {raw : Option String} {t : String} {a : α} (h : Says raw (some t)) (ht : names t a) :
      Chooses names usual raw a

theorem Reading.ofParam_of_says (write : α → String) {a? : Option α} (h : Says raw (a?.map write))
    (hread : ∀ a ∈ a?, Neat (write a) ∧ read (write a) = .ok a) :
    ofParam name read raw = ofOption a? := by
  cases a? with
  | none => exact ofParam_of_nothing h
  | some a =>
    obtain ⟨hneat, hok⟩ := hread a rfl
    rw [ofParam, bind_nonBlank?_eq_iff.mpr ⟨h, by rintro _ ⟨⟩; exact hneat⟩]
    exact ofText_value hok

/-- **A value that is chosen is read**, or nothing where it is the usual one. -/
theorem Chooses.reading {names : String → α → Prop} {usual a : α} (h : Chooses names usual raw a)
    (hread : ∀ t, names t a → Neat t ∧ read t = .ok a) :
    ∃ a? : Option α, Reading.ofParam name read raw = .ofOption a? ∧ a?.getD usual = a := by
  obtain h | ⟨h, ht⟩ := h
  · exact ⟨none, Reading.ofParam_of_nothing h, rfl⟩
  · refine ⟨some a, Reading.ofParam_of_says (fun _ => _) h ?_, rfl⟩
    rintro _ ⟨⟩
    exact hread _ ht

end Readings

/-! ## Searches and the ways to write them -/

/-- A filter whose texts can be written: nothing is empty, nothing has white space around it, and there
is no comma in what stands in a list. Its instants lie in the calendar. -/
structure Filter.Plain (f : Filter) : Prop where
  sets : ∀ set ∈ [f.eventTypes, f.actorIds, f.resourceTypes, f.resourceIds, f.sourceServices],
    ∀ t ∈ set, Listable t
  texts : ∀ t? ∈ [f.category, f.correlationId, f.causationId, f.search], ∀ t ∈ t?, Neat t
  dates : ∀ d? ∈ [f.dateFrom, f.dateTo], ∀ d ∈ d?, d.inCalendar = true

instance (f : Filter) : Decidable f.Plain :=
  decidable_of_iff
    ((∀ set ∈ [f.eventTypes, f.actorIds, f.resourceTypes, f.resourceIds, f.sourceServices],
        ∀ t ∈ set, Listable t) ∧
      (∀ t? ∈ [f.category, f.correlationId, f.causationId, f.search], ∀ t ∈ t?, Neat t) ∧
      ∀ d? ∈ [f.dateFrom, f.dateTo], ∀ d ∈ d?, d.inCalendar = true)
    ⟨fun h => ⟨h.1, h.2.1, h.2.2⟩, fun h => ⟨h.1, h.2, h.3⟩⟩

/-- The numbers of a page have 32 bits. -/
structure PageRequest.Fits (p : PageRequest) : Prop where
  page : Text.u32.holds p.page = true
  pageSize : Text.u32.holds p.pageSize = true

namespace QueryParams

/-- The parameters write a search: a filter, a page and an order, a page having `usualSize` items where
nothing else is said. A parameter that is absent or blank writes the empty set, no value, or the usual
value. -/
structure Written (q : QueryParams) (usualSize : Nat) (f : Filter) (p : PageRequest)
    (o : RecordOrder) : Prop where
  eventTypes : SaysAll q.eventTypes f.eventTypes
  category : Says q.category f.category
  actorTypes : SaysAll q.actorTypes (f.actorKinds.map ActorKind.word)
  actorIds : SaysAll q.actorIds f.actorIds
  resourceTypes : SaysAll q.resourceTypes f.resourceTypes
  resourceIds : SaysAll q.resourceIds f.resourceIds
  correlationId : Says q.correlationId f.correlationId
  causationId : Says q.causationId f.causationId
  dateFrom : Says q.dateFrom (f.dateFrom.map Instant.wireText)
  dateTo : Says q.dateTo (f.dateTo.map Instant.wireText)
  sourceServices : SaysAll q.sourceServices f.sourceServices
  search : Says q.search f.search
  sortBy : Chooses (fun t field => t = field.word) .timestamp q.sortBy o.field
  sortOrder : Chooses (fun t d => Text.lowerAscii t = d.word) .descending q.sortOrder o.direction
  page : Chooses (fun t n => t = toString n) 1 q.page p.page
  pageSize : Chooses (fun t n => t = toString n) usualSize q.pageSize p.pageSize

/-- A search written with nothing left out and nothing put in. -/
def of (f : Filter) (p : PageRequest) (o : RecordOrder) : QueryParams where
  eventTypes := some (",".intercalate f.eventTypes)
  category := f.category
  actorTypes := some (",".intercalate (f.actorKinds.map ActorKind.word))
  actorIds := some (",".intercalate f.actorIds)
  resourceTypes := some (",".intercalate f.resourceTypes)
  resourceIds := some (",".intercalate f.resourceIds)
  correlationId := f.correlationId
  causationId := f.causationId
  dateFrom := f.dateFrom.map Instant.wireText
  dateTo := f.dateTo.map Instant.wireText
  sourceServices := some (",".intercalate f.sourceServices)
  search := f.search
  sortBy := some o.field.word
  sortOrder := some o.direction.word
  page := some (toString p.page)
  pageSize := some (toString p.pageSize)

theorem lowerAscii_word (d : Direction) : Text.lowerAscii d.word = d.word := by
  cases d <;> decide

variable {q : QueryParams} {f : Filter} {p : PageRequest} {o : RecordOrder} {usualSize : Nat}

theorem written_of (usualSize : Nat) (f : Filter) (p : PageRequest) (o : RecordOrder) :
    (of f p o).Written usualSize f p o where
  eventTypes := .self _
  category := .self _
  actorTypes := .self _
  actorIds := .self _
  resourceTypes := .self _
  resourceIds := .self _
  correlationId := .self _
  causationId := .self _
  dateFrom := .self _
  dateTo := .self _
  sourceServices := .self _
  search := .self _
  sortBy := .named (.self _) rfl
  sortOrder := .named (.self _) (lowerAscii_word _)
  page := .named (.self _) rfl
  pageSize := .named (.self _) rfl

end QueryParams

/-! ## Reading them back -/

theorem mapError_eq_ok_iff {ε ε' α : Type} {f : ε → ε'} {x : Except ε α} {a : α} :
    x.mapError f = .ok a ↔ x = .ok a := by
  cases x with
  | error e => exact iff_of_false nofun nofun
  | ok b => simp [Except.mapError]

theorem readInstant_wireText {t : Instant} (h : t.inCalendar = true) :
    readInstant t.wireText = .ok t :=
  mapError_eq_ok_iff.mpr (Instant.read_wireText h)

theorem readCount_eq_ok_iff {t : String} {n : Nat} :
    readCount t = .ok n ↔ Text.Writes n t ∧ Text.u32.holds n = true := by
  have hholds : Text.u32.holds n = true ↔ n ≤ Text.u32.above := by
    simp [Text.IntegerType.holds]
  rw [readCount, mapError_eq_ok_iff, Text.readNat_eq_ok_iff rfl, hholds]

theorem readCount_toString {n : Nat} (h : Text.u32.holds n = true) :
    readCount (toString n) = .ok n :=
  readCount_eq_ok_iff.mpr ⟨Text.writes_toString n, h⟩

theorem readActorKind_word (k : ActorKind) : readActorKind k.word = .ok k := by cases k <;> rfl

theorem SortField.read_word (f : SortField) : SortField.read f.word = .ok f := by cases f <;> rfl

theorem Direction.read_of_lowerAscii {t : String} {d : Direction}
    (h : Text.lowerAscii t = d.word) : Direction.read t = .ok d := by
  rw [Direction.read, h]
  cases d <;> rfl

namespace QueryParams

variable {q : QueryParams} {f : Filter} {p : PageRequest} {o : RecordOrder} {usualSize : Nat}

theorem Written.kinds_eq (h : q.Written usualSize f p o) :
    q.kinds = f.actorKinds.map .value := by
  have hset : splitSet q.actorTypes = f.actorKinds.map ActorKind.word :=
    splitSet_eq_iff.mpr ⟨h.actorTypes, by
      rintro _ hword
      obtain ⟨k, -, rfl⟩ := List.mem_map.mp hword
      exact k.listable_word⟩
  rw [kinds, hset, List.map_map]
  exact List.map_congr_left fun k _ => Reading.ofText_value (readActorKind_word k)

theorem Written.start_eq (h : q.Written usualSize f p o) (hf : f.Plain) :
    q.start = .ofOption f.dateFrom :=
  Reading.ofParam_of_says _ h.dateFrom fun d hd =>
    ⟨d.neat_wireText, readInstant_wireText (hf.dates _ (by simp) d hd)⟩

theorem Written.finish_eq (h : q.Written usualSize f p o) (hf : f.Plain) :
    q.finish = .ofOption f.dateTo :=
  Reading.ofParam_of_says _ h.dateTo fun d hd =>
    ⟨d.neat_wireText, readInstant_wireText (hf.dates _ (by simp) d hd)⟩

theorem Written.filter_eq (h : q.Written usualSize f p o) (hf : f.Plain) : q.filter = f := by
  have hset {raw : Option String} {set : List String} (hraw : SaysAll raw set)
      (hmem : set ∈ [f.eventTypes, f.actorIds, f.resourceTypes, f.resourceIds, f.sourceServices]) :
      splitSet raw = set := splitSet_eq_iff.mpr ⟨hraw, hf.sets set hmem⟩
  have htext {raw t? : Option String} (hraw : Says raw t?)
      (hmem : t? ∈ [f.category, f.correlationId, f.causationId, f.search]) :
      raw.bind Text.nonBlank? = t? := bind_nonBlank?_eq_iff.mpr ⟨hraw, hf.texts t? hmem⟩
  have hkinds : q.kinds.filterMap (·.value?) = f.actorKinds := by
    rw [h.kinds_eq, List.filterMap_map]
    exact List.filterMap_some
  unfold filter
  rw [hset h.eventTypes (by simp), htext h.category (by simp), hkinds, hset h.actorIds (by simp),
    hset h.resourceTypes (by simp), hset h.resourceIds (by simp), htext h.correlationId (by simp),
    htext h.causationId (by simp), h.start_eq hf, h.finish_eq hf, hset h.sourceServices (by simp),
    htext h.search (by simp), Reading.value?_ofOption, Reading.value?_ofOption]

/-- **A written search is read back**, in whatever way it is written. -/
theorem Written.parse_eq (h : q.Written usualSize f p o) (hf : f.Plain) (hp : p.Fits) :
    q.parse usualSize = .ok (f, p, o) := by
  -- what has a usual value is read as the value or as nothing, and the usual one put in
  obtain ⟨field?, hfield, hfield'⟩ : ∃ a?, q.field = .ofOption a? ∧ a?.getD .timestamp = o.field :=
    h.sortBy.reading fun t ht => ht ▸ ⟨o.field.neat_word, o.field.read_word⟩
  obtain ⟨direction?, hdirection, hdirection'⟩ :
      ∃ a?, q.direction = .ofOption a? ∧ a?.getD .descending = o.direction :=
    h.sortOrder.reading fun t ht =>
      ⟨Direction.neat_of_lowerAscii ht, Direction.read_of_lowerAscii ht⟩
  obtain ⟨number?, hnumber, hnumber'⟩ : ∃ a?, q.number = .ofOption a? ∧ a?.getD 1 = p.page :=
    h.page.reading fun t ht => ht ▸ ⟨Text.neat_toString p.page, readCount_toString hp.page⟩
  obtain ⟨size?, hsize, hsize'⟩ : ∃ a?, q.size = .ofOption a? ∧ a?.getD usualSize = p.pageSize :=
    h.pageSize.reading fun t ht => ht ▸ ⟨Text.neat_toString p.pageSize,
      readCount_toString hp.pageSize⟩
  have hkinds : q.kinds.filterMap (·.violation?) = [] := by
    rw [h.kinds_eq, List.filterMap_map]
    exact List.filterMap_eq_nil_iff.mpr fun _ _ => rfl
  have hfaults : q.faults = [] := by
    simp [faults, hkinds, h.start_eq hf, h.finish_eq hf, hfield, hdirection, hnumber, hsize]
  have hpage : q.pageRequest usualSize = p := by
    rw [pageRequest, hnumber, hsize, Reading.value?_ofOption, Reading.value?_ofOption, hnumber',
      hsize']
  have horder : q.order = o := by
    rw [order, hfield, hdirection, Reading.value?_ofOption, Reading.value?_ofOption, hfield',
      hdirection']
  rw [QueryParams.parse_eq, hfaults, h.filter_eq hf, hpage, horder]
  rfl

end QueryParams

/-- **Search parameters are read back.** Every filter whose texts can be written, every page and every
order can be written as parameters. In whatever way they are written, exactly they are read, whatever the
usual size of a page. -/
theorem parameters_read_back {f : Filter} {p : PageRequest} (hf : f.Plain) (hp : p.Fits)
    (o : RecordOrder) (usualSize : Nat) :
    (QueryParams.of f p o).Written usualSize f p o ∧
      ∀ q : QueryParams, q.Written usualSize f p o → q.parse usualSize = .ok (f, p, o) :=
  ⟨QueryParams.written_of usualSize f p o, fun _ hq => hq.parse_eq hf hp⟩

/-- A search for refunds and captures. Some of its parameters have white space or nothing in them. -/
def QueryParams.refunds : QueryParams where
  eventTypes := some " payment.refunded ,, payment.captured,\t"
  category := some "payment"
  actorTypes := some "admin , user"
  actorIds := some " , "
  dateFrom := some " 2016-12-31T23:59:60.500Z"
  dateTo := some "  "
  search := some " refund, in full "
  sortOrder := some "AsC\n"
  page := some " 4294967295"

/-- It is read as it was meant, from a leap second on. -/
theorem refunds_read_back :
    let leap : Instant := ⟨1483228799, 1500000000, by decide⟩
    let f : Filter := {
      eventTypes := ["payment.refunded", "payment.captured"]
      category := some "payment"
      actorKinds := [.admin, .user]
      dateFrom := some leap
      search := some "refund, in full" }
    let p : PageRequest := ⟨4294967295, 20⟩
    f.Plain ∧ p.Fits ∧ QueryParams.refunds.Written 20 f p ⟨.timestamp, .ascending⟩ ∧
      QueryParams.refunds.parse 20 = .ok (f, p, ⟨.timestamp, .ascending⟩) := by
  intro leap f p
  have hleap : leap.wireText = "2016-12-31T23:59:60.500Z" := by decide +kernel
  have hf : f.Plain := by decide +kernel
  have hp : p.Fits := ⟨rfl, rfl⟩
  have hq : QueryParams.refunds.Written 20 f p ⟨.timestamp, .ascending⟩ := {
    eventTypes := @SaysAll.joined [" payment.refunded ", "", " payment.captured", "\t"] _
      (.cons (.text ⟨[' '], [' '], rfl, rfl, rfl⟩) (.cons (.blank rfl)
        (.cons (.text ⟨[' '], [], rfl, rfl, rfl⟩) (.cons (.blank rfl) .nil))))
    category := .text (.refl _)
    actorTypes := @SaysAll.joined ["admin ", " user"] _
      (.cons (.text ⟨[], [' '], rfl, rfl, rfl⟩) (.cons (.text ⟨[' '], [], rfl, rfl, rfl⟩) .nil))
    actorIds := @SaysAll.joined [" ", " "] _ (.cons (.blank rfl) (.cons (.blank rfl) .nil))
    resourceTypes := .absent
    resourceIds := .absent
    correlationId := .absent
    causationId := .absent
    dateFrom := by
      show Says _ (some leap.wireText)
      rw [hleap]
      exact .text ⟨[' '], [], rfl, rfl, rfl⟩
    dateTo := .blank rfl
    sourceServices := .absent
    search := .text ⟨[' '], [' '], rfl, rfl, rfl⟩
    sortBy := .left .absent
    sortOrder := @Chooses.named _ _ _ _ "AsC" _ (.text ⟨[], ['\n'], rfl, rfl, rfl⟩) (by decide)
    page := @Chooses.named _ _ _ _ "4294967295" _ (.text ⟨[' '], [], rfl, rfl, by decide⟩)
      (by decide)
    pageSize := .left .absent }
  exact ⟨hf, hp, hq, (parameters_read_back hf hp _ 20).2 _ hq⟩

/-! ## Nothing else is read -/

theorem Reading.read_of_value? {α : Type} {name : String} {read : String → Except String α}
    {raw : Option String} {a : α} (h : (ofParam name read raw).value? = some a) :
    ∃ t, read t = .ok a := by
  unfold ofParam at h
  split at h
  · cases h
  · rename_i t _
    unfold ofText at h
    split at h
    · rename_i b hb
      obtain rfl : b = a := Option.some.inj h
      exact ⟨t, hb⟩
    · cases h

theorem inCalendar_of_readInstant {t : String} {d : Instant} (h : readInstant t = .ok d) :
    d.inCalendar = true :=
  Instant.inCalendar_of_read (mapError_eq_ok_iff.mp h)

namespace QueryParams

variable {q : QueryParams} {f : Filter} {p : PageRequest} {o : RecordOrder} {usualSize : Nat}

theorem plain_filter (q : QueryParams) : q.filter.Plain where
  sets := by
    have hset (raw : Option String) : ∀ t ∈ splitSet raw, Listable t := (splitSet_eq_iff.mp rfl).2
    intro set hmem
    simp only [filter, List.mem_cons, List.not_mem_nil, or_false] at hmem
    rcases hmem with rfl | rfl | rfl | rfl | rfl <;> exact hset _
  texts := by
    have htext (raw : Option String) : ∀ t ∈ raw.bind Text.nonBlank?, Neat t :=
      (bind_nonBlank?_eq_iff.mp rfl).2
    intro t? hmem
    simp only [filter, List.mem_cons, List.not_mem_nil, or_false] at hmem
    rcases hmem with rfl | rfl | rfl | rfl <;> exact htext _
  dates := by
    have hdate (name : String) (raw : Option String) :
        ∀ d ∈ (Reading.ofParam name readInstant raw).value?, d.inCalendar = true := by
      intro d hd
      obtain ⟨t, ht⟩ := Reading.read_of_value? hd
      exact inCalendar_of_readInstant ht
    intro d? hmem
    simp only [filter, List.mem_cons, List.not_mem_nil, or_false] at hmem
    rcases hmem with rfl | rfl <;> exact hdate _ _

theorem fits_pageRequest (q : QueryParams) (hu : Text.u32.holds usualSize = true) :
    (q.pageRequest usualSize).Fits := by
  have hcount (name : String) (raw : Option String) {usual : Nat}
      (husual : Text.u32.holds usual = true) :
      Text.u32.holds ((Reading.ofParam name readCount raw).value?.getD usual : Nat) = true := by
    cases hv : (Reading.ofParam name readCount raw).value? with
    | none => exact husual
    | some n =>
      obtain ⟨t, ht⟩ := Reading.read_of_value? hv
      exact (readCount_eq_ok_iff.mp ht).2
  exact ⟨hcount "page" q.page rfl, hcount "pageSize" q.pageSize hu⟩

/-- **A search that was read can be written plainly**, and is read again. -/
theorem parse_of_parse (hu : Text.u32.holds usualSize = true)
    (h : q.parse usualSize = .ok (f, p, o)) (otherSize : Nat) :
    (of f p o).parse otherSize = .ok (f, p, o) := by
  obtain ⟨-, rfl, rfl, -⟩ := parse_eq_ok_iff.mp h
  exact (written_of otherSize _ _ o).parse_eq q.plain_filter (q.fits_pageRequest hu)

end QueryParams

end EventLedger
