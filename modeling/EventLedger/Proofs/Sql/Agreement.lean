import EventLedger.Proofs.Audit.Listing
import EventLedger.Proofs.Sql.Patterns
import EventLedger.Proofs.Sql.ReadBack

/-!
# The table and the memory answer alike

A filter is asked of a table by a statement and of the memory by a test. Both select the same records,
in the same order and within the same limits, where times are counted in microseconds: a bound that is
finer, or lies in a leap second, is moved by counting it.

* `Filter.counted`: the filter with the bounds that are compared;
* `selects_conditions`, `compareRows_orderKeys`: conditions and keys;
* `replies_pageSelection`, `replies_counting`: the answers;
* **`stores_answer_alike`**, `finer_bound_parts_stores`.
-/

namespace EventLedger

/-! ## Conditions -/

/-- The instant that a count in microseconds stands for. -/
def Instant.counted (t : Instant) : Instant := .ofLinearMicroseconds t.linearMicroseconds

/-- The filter with its bounds counted in microseconds. -/
def Filter.counted (f : Filter) : Filter :=
  { f with dateFrom := f.dateFrom.map Instant.counted, dateTo := f.dateTo.map Instant.counted }

theorem Filter.counted_eq {f : Filter} (hfrom : ∀ t ∈ f.dateFrom, t.Countable)
    (hto : ∀ t ∈ f.dateTo, t.Countable) : f.counted = f := by
  have h : ∀ {o : Option Instant}, (∀ t ∈ o, t.Countable) → o.map Instant.counted = o := by
    intro o ho
    cases o with
    | none => rfl
    | some t => exact congrArg some (ho t rfl).ofLinear_eq
  rw [Filter.counted, h hfrom, h hto]

theorem admitted_iff {α : Type} [BEq α] [LawfulBEq α] (set : List α) (a : α) :
    admitted set a = true ↔ set = [] ∨ a ∈ set := by
  simp [admitted]

namespace Sql

section Conditions

variable {d : Dialect} {t : Tuple}

theorem truth_oneOf? {c : Column} {s : String} (h : t c = .text s) (ss : List String) :
    (∀ cond, oneOf? c ss = some cond → cond.truth d t = some true) ↔ admitted ss s = true := by
  rw [admitted_iff]
  cases ss with
  | nil => simp [oneOf?]
  | cons r rs => simp [oneOf?, truth_oneOf h]

theorem truth_map {α : Type} {g : α → Condition} {p : α → Bool}
    (h : ∀ a, (g a).truth d t = some true ↔ p a = true) (a : Option α) :
    (∀ cond, a.map g = some cond → cond.truth d t = some true) ↔ a.all p = true := by
  cases a <;> simp [h]

theorem truth_like {c : Column} {s : String} (h : t c = .text s) (start : String) :
    (Condition.like c (Pattern.startPattern start)).truth d t = some true ↔
      startsWith start s = true := by
  rw [truth_startPattern h, Option.some.injEq]

theorem truth_equals {c : Column} {o : Option String} (h : t c = .ofText? o) (s : String) :
    (Condition.equals c s).truth d t = some true ↔ (o == some s) = true := by
  cases o <;> simp [Condition.truth, h, Value.ofText?, Value.isText, Value.text?]

theorem truth_atLeast {c : Column} {u : Instant} (h : t c = .ofInstant u) (hu : u.Countable)
    (a : Instant) :
    (Condition.atLeast c a.linearMicroseconds).truth d t = some true ↔
      a.counted.notAfter u = true := by
  rw [Instant.counted, Instant.ofLinear_notAfter_iff hu]
  simp [Condition.truth, h, Value.ofInstant, Value.timestamp?]

theorem truth_atMost {c : Column} {u : Instant} (h : t c = .ofInstant u) (hu : u.Countable)
    (a : Instant) :
    (Condition.atMost c a.linearMicroseconds).truth d t = some true ↔
      u.notAfter a.counted = true := by
  rw [Instant.counted, Instant.notAfter_ofLinear_iff hu]
  simp [Condition.truth, h, Value.ofInstant, Value.timestamp?]

theorem admitted_words (kinds : List ActorKind) (k : ActorKind) :
    admitted (kinds.map ActorKind.word) k.word = admitted kinds k := by
  have h : k.word ∈ kinds.map ActorKind.word ↔ k ∈ kinds := by
    rw [List.mem_map]
    constructor
    · rintro ⟨l, hl, he⟩
      exact ActorKind.word_injective he ▸ hl
    · exact fun hk => ⟨k, hk, rfl⟩
  rw [Bool.eq_iff_iff, admitted_iff, admitted_iff, List.map_eq_nil_iff, h]

/-- **The conditions of a filter select what it admits** with its bounds counted. -/
theorem selects_conditions (d : Dialect) {f : Filter} {r : Record} (hs : f.search = none)
    (hr : r.timestamp.Countable) :
    selects d (conditions f) (recordTuple r) = f.counted.admits r := by
  rw [Bool.eq_iff_iff, selects_iff, conditions, List.forall_mem_filterMap]
  simp only [possibleConditions, List.forall_mem_cons, List.not_mem_nil, false_implies, implies_true,
    and_true, id]
  rw [truth_oneOf? (s := r.eventType) rfl, truth_map (truth_like (s := r.category) rfl),
    truth_oneOf? (s := r.actor.kind.word) rfl, admitted_words, truth_oneOf? (s := r.actor.id) rfl,
    truth_oneOf? (s := r.resource.kind) rfl, truth_oneOf? (s := r.resource.id) rfl,
    truth_map (truth_equals (o := some r.correlationId) rfl),
    truth_map (truth_equals (o := r.causationId) rfl),
    truth_map (truth_atLeast (u := r.timestamp) rfl hr),
    truth_map (truth_atMost (u := r.timestamp) rfl hr),
    truth_oneOf? (s := r.sourceService) rfl, hs]
  have hsome : (fun a => r.correlationId == a) = (· == r.correlationId) := by
    funext a
    exact BEq.comm
  simp [Filter.admits, Filter.counted, hs, Option.all_map, hsome, and_assoc]

end Conditions

/-! ## Keys -/

theorem apply_then (d : Direction) (a b : Ordering) :
    d.apply (a.then b) = (d.apply a).then (d.apply b) := by
  cases d with
  | ascending => rfl
  | descending => exact Ordering.swap_then a b

theorem then_eq (a : Ordering) : a.then .eq = a := by cases a <;> rfl

theorem compareRows_orderKeys (d : Dialect) (o : RecordOrder) {a b : Record}
    (ha : a.timestamp.Countable) (hb : b.timestamp.Countable) :
    compareRows d (orderKeys o) (recordTuple a) (recordTuple b) = o.compare a b := by
  obtain ⟨f, direction⟩ := o
  have hlast : compareRows d [⟨.sequenceNumber, false, direction⟩] (recordTuple a) (recordTuple b) =
      direction.apply (compareOfLessAndEq a.sequenceNumber b.sequenceNumber) := then_eq _
  rw [RecordOrder.compare, apply_then, ← hlast]
  cases f with
  | sequenceNumber => cases direction <;> rfl
  | timestamp =>
    have hkey : compareValues d false (recordTuple a .occurredAt) (recordTuple b .occurredAt) =
      a.timestamp.compare b.timestamp := Instant.compare_linear ha hb
    exact congrArg (fun x => (direction.apply x).then _) hkey
  | eventType =>
    have hkey : compareValues d true (recordTuple a .eventType) (recordTuple b .eventType) =
      compareOfLessAndEq a.eventType b.eventType := Utf8.compareBytes_eq _ _
    exact congrArg (fun x => (direction.apply x).then _) hkey

/-! ## Answers -/

theorem exists_perm_of_map {α β : Type} {g : α → β} {as : List α} {bs : List β}
    (h : bs.Perm (as.map g)) : ∃ as' : List α, as'.Perm as ∧ bs = as'.map g := by
  generalize hm : as.map g = ms at h
  induction h generalizing as with
  | nil => exact ⟨[], by simp_all⟩
  | cons b _ ih =>
    obtain ⟨a, as, rfl, rfl, rfl⟩ := List.map_eq_cons_iff.mp hm
    obtain ⟨as', hperm, rfl⟩ := ih rfl
    exact ⟨a :: as', hperm.cons a, rfl⟩
  | swap b c _ =>
    obtain ⟨a, as, rfl, rfl, hrest⟩ := List.map_eq_cons_iff.mp hm
    obtain ⟨a', as, rfl, rfl, rfl⟩ := List.map_eq_cons_iff.mp hrest
    exact ⟨a' :: a :: as, List.Perm.swap _ _ _, rfl⟩
  | trans _ _ ih1 ih2 =>
    obtain ⟨as', hperm, rfl⟩ := ih2 hm
    obtain ⟨as'', hperm', rfl⟩ := ih1 rfl
    exact ⟨as'', hperm'.trans hperm, rfl⟩

/-- The row of a record in the answer to a selection. -/
def recordRow (r : Record) : Row := projected selectedColumns (recordTuple r)

section Answers

variable (d : Dialect) {memory : Memory} {f : Filter} (hs : f.search = none)
  (hr : ∀ r ∈ memory.records, r.timestamp.Countable)

include hs hr

theorem filter_selects :
    (memory.records.map recordTuple).filter (selects d (conditions f)) =
      (memory.admitted f.counted).map recordTuple := by
  rw [List.filter_map, Memory.admitted]
  refine congrArg _ (List.filter_congr fun r hm => ?_)
  exact selects_conditions d hs (hr r hm)

variable (hd : memory.records.Pairwise fun a b => a.sequenceNumber ≠ b.sequenceNumber)

include hd

/-- **The selected rows in order** are those of the admitted records, sorted. -/
theorem listed_iff {q : Inquiry} (hc : q.conditions = conditions f) {o : RecordOrder}
    (hk : q.keys = orderKeys o) (listed : List Tuple) :
    Listed d q (memory.records.map recordTuple) listed ↔
      listed = (o.sort (memory.admitted f.counted)).map recordTuple := by
  have hadmitted : (memory.admitted f.counted).Sublist memory.records := List.filter_sublist
  have hdiff := hd.sublist hadmitted
  have hsort := RecordOrder.lists_sort o hdiff
  have hcount : ∀ {rs : List Record}, rs.Perm (memory.admitted f.counted) →
      ∀ r ∈ rs, r.timestamp.Countable := fun hperm r hm =>
    hr r (hadmitted.subset (hperm.subset hm))
  constructor
  · rintro ⟨hperm, hordered⟩
    rw [hc, filter_selects d hs hr] at hperm
    obtain ⟨rs, hrs, rfl⟩ := exists_perm_of_map hperm
    rw [hk, List.pairwise_map] at hordered
    have hlists := RecordOrder.lists_of_ordered o hdiff hrs
      (hordered.imp_of_mem fun {a b} ha hb h => by
        rwa [compareRows_orderKeys d o (hcount hrs a ha) (hcount hrs b hb)] at h)
    rw [hlists.unique _ hsort]
  · rintro rfl
    refine ⟨?_, ?_⟩
    · rw [hc, filter_selects d hs hr]
      exact hsort.perm.map _
    · rw [hk, List.pairwise_map]
      refine hsort.ordered.imp_of_mem fun {a b} ha hb h => ?_
      rw [compareRows_orderKeys d o (hcount hsort.perm a ha) (hcount hsort.perm b hb), h]
      rfl

/-- **The answer to the selection of a page.** -/
theorem replies_pageSelection (o : RecordOrder) (limit offset : Int) (rows : List Row) :
    Replies d (memory.records.map recordTuple) (pageSelection f o limit offset) rows ↔
      0 ≤ limit ∧ 0 ≤ offset ∧ rows = (memory.page f.counted o limit offset).map recordRow := by
  have hlisted := listed_iff d hs hr hd
    (q := ⟨.columns selectedColumns, conditions f, orderKeys o, some (limit, offset)⟩) rfl rfl
  simp only [Replies, understood_pageSelection, Option.some.injEq, exists_eq_left', Inquiry.Answer,
    hlisted, exists_eq_left, Inquiry.rows, window]
  split
  · simp
    omega
  · have hpage : (memory.page f.counted o limit offset).map recordRow =
        List.take limit.toNat (List.drop offset.toNat
          (((o.sort (memory.admitted f.counted)).map recordTuple).map
            (projected selectedColumns))) := by
      rw [Memory.page, List.map_take, List.map_drop, List.map_map]
      rfl
    rw [← hpage]
    constructor
    · intro h
      exact ⟨by omega, by omega, (Option.some.inj h).symm⟩
    · rintro ⟨-, -, rfl⟩
      rfl

omit hd in
theorem replies_counting (rows : List Row) :
    Replies d (memory.records.map recordTuple) (counting f) rows ↔
      rows = [[("count", .int (memory.count f.counted))]] := by
  have hlength : ∀ {listed : List Tuple}, listed.Perm ((memory.admitted f.counted).map recordTuple) →
      listed.length = memory.count f.counted := fun hperm => by
    rw [hperm.length_eq, List.length_map]
    rfl
  simp only [Replies, understood_counting, Option.some.injEq, exists_eq_left', Inquiry.Answer,
    Inquiry.rows, window]
  constructor
  · rintro ⟨listed, ⟨hperm, -⟩, rfl⟩
    rw [filter_selects d hs hr] at hperm
    rw [hlength hperm]
  · rintro rfl
    refine ⟨(memory.admitted f.counted).map recordTuple, ⟨?_, ?_⟩, ?_⟩
    · rw [filter_selects d hs hr]
    · exact List.pairwise_of_forall fun _ _ => rfl
    · rw [hlength (List.Perm.refl _)]

end Answers

/-! ## Reading the rows -/

theorem Column.name_injective {c d : Column} (h : c.name = d.name) : c = d := by
  have h1 := (endedToken_name c).2
  rw [h, (endedToken_name d).2] at h1
  exact (Token.column.inj (List.cons.inj h1).1).symm

theorem lookup_projected (t : Tuple) {c : Column} {cs : List Column} (h : c ∈ cs) :
    (projected cs t).lookup c.name = some (t c) := by
  induction cs with
  | nil => exact absurd h List.not_mem_nil
  | cons a cs ih =>
    by_cases he : c = a
    · simp [projected, he]
    · have hne : (c.name == a.name) = false := by
        rw [beq_eq_false_iff_ne]
        exact fun hn => he (Column.name_injective hn)
      have hmem : c ∈ cs := (List.mem_cons.mp h).resolve_left he
      simpa [projected, List.lookup_cons, hne] using ih hmem

theorem mem_selectedColumns (c : Column) : c ∈ selectedColumns := by cases c <;> decide

/-- **The row of a record is read back.** -/
theorem readRecord_recordRow (r : Record) :
    readRecord (recordRow r) =
      .ok (readBack r.toSealedEntry r.sequenceNumber r.storedAt.linearMicroseconds) := by
  have hlookup : ∀ c : Column, (recordRow r).lookup c.name = some (recordTuple r c) :=
    fun c => lookup_projected _ (mem_selectedColumns c)
  exact readRecord_returned {
    bound := fun p hp => (hlookup p.1).trans (congrArg some (recordTuple_inserted r p hp))
    sequenceNumber := hlookup .sequenceNumber
    storedAt := hlookup .storedAt }

/-- A record that a table holds as it is: its times are counted exactly, and no part of its change of
state is a null. -/
structure Tabular (r : Record) : Prop where
  timestamp : r.timestamp.Countable
  storedAt : r.storedAt.Countable
  stateChange : r.stateChange.map StateChange.withoutNulls = r.stateChange

theorem Tabular.readBack_eq {r : Record} (h : Tabular r) :
    readBack r.toSealedEntry r.sequenceNumber r.storedAt.linearMicroseconds = r := by
  obtain ⟨htime, hstored, hchange⟩ := h
  simp only [readBack, SealedEntry.stored, htime.ofLinear_eq, hstored.ofLinear_eq, hchange]

theorem mapM_readRecord {rs : List Record} (h : ∀ r ∈ rs, Tabular r) :
    (rs.map recordRow).mapM readRecord = .ok rs := by
  induction rs with
  | nil => rfl
  | cons r rs ih =>
    obtain ⟨hr, hrs⟩ := List.forall_mem_cons.mp h
    rw [List.map_cons, List.mapM_cons, readRecord_recordRow, hr.readBack_eq, ih hrs]
    rfl

/-! ## The two stores -/

/-- **A table and the memory answer alike.** Let a table hold the records of a memory, whose times are
counted exactly and whose sequence numbers differ, and let a filter not search. To the statement that
selects a page the table has one answer, whatever the database brings along: the rows of the page of the
memory, if neither limit is negative. To the statement that counts it answers the count of the memory.
The rows are read back as the records of the page. The bounds of the filter are those that are counted;
they are the bounds themselves if these are counted exactly. -/
theorem stores_answer_alike (d : Dialect) (memory : Memory) (f : Filter) (hs : f.search = none)
    (hr : ∀ r ∈ memory.records, r.timestamp.Countable)
    (hd : memory.records.Pairwise fun a b => a.sequenceNumber ≠ b.sequenceNumber) :
    (∀ o limit offset rows,
      Replies d (memory.records.map recordTuple) (pageSelection f o limit offset) rows ↔
        0 ≤ limit ∧ 0 ≤ offset ∧ rows = (memory.page f.counted o limit offset).map recordRow) ∧
    (∀ rows, Replies d (memory.records.map recordTuple) (counting f) rows ↔
      rows = [[("count", .int (memory.count f.counted))]]) ∧
    ((∀ r ∈ memory.records, Tabular r) → ∀ o limit offset,
      ((memory.page f.counted o limit offset).map recordRow).mapM readRecord =
        .ok (memory.page f.counted o limit offset)) ∧
    ((∀ t ∈ f.dateFrom, t.Countable) → (∀ t ∈ f.dateTo, t.Countable) → f.counted = f) := by
  refine ⟨fun o limit offset => replies_pageSelection d hs hr hd o limit offset,
    replies_counting d hs hr, fun ht o limit offset => ?_, Filter.counted_eq⟩
  refine mapM_readRecord fun r hm => ht r ?_
  have hsorted : r ∈ o.sort (memory.admitted f.counted) :=
    List.mem_of_mem_drop (List.mem_of_mem_take hm)
  have hadmitted : r ∈ memory.admitted f.counted := (List.mergeSort_perm _ _).mem_iff.mp hsorted
  exact (List.mem_filter.mp hadmitted).1

/-- The refund seen at another time and under another number. -/
def refundAt (seconds number : Int) : Record :=
  { Record.refund with timestamp := .ofSeconds seconds, sequenceNumber := number }

/-- A dialect that orders texts by their bytes and finds nothing. -/
def plainDialect : Dialect := ⟨Utf8.compareBytes, fun _ _ => some false⟩

theorem later_refund_selected :
    let m : Memory := ⟨[refundAt 1709288431 1, refundAt 1709288430 2], 2⟩
    let f : Filter := { category := some "book", actorIds := ["admin-3", "admin-4"],
                        dateFrom := some (.ofSeconds 1709288430) }
    Replies plainDialect (m.records.map recordTuple) (pageSelection f .recent 1 0)
        [recordRow (refundAt 1709288431 1)] ∧
      Replies plainDialect (m.records.map recordTuple) (counting f) [[("count", .int 2)]] := by
  intro m f
  have hr : ∀ r ∈ m.records, r.timestamp.Countable := by
    simp only [m, List.forall_mem_cons, List.not_mem_nil, false_implies, implies_true, and_true]
    exact ⟨⟨by decide, by decide⟩, ⟨by decide, by decide⟩⟩
  have hd : m.records.Pairwise fun a b => a.sequenceNumber ≠ b.sequenceNumber := by
    simp [m, refundAt]
  obtain ⟨hpage, hcount, -, hbounds⟩ := stores_answer_alike plainDialect m f rfl hr hd
  have hf : f.counted = f := hbounds
    (fun t ht => by obtain rfl := Option.some.inj ht; exact ⟨by decide, by decide⟩) nofun
  have hadmitted : m.admitted f = m.records := rfl
  have hsorted : RecordOrder.recent.sort m.records = m.records :=
    List.mergeSort_of_pairwise (List.pairwise_pair.mpr (by decide +kernel))
  refine ⟨(hpage .recent 1 0 _).mpr ⟨by decide, by decide, ?_⟩, (hcount _).mpr ?_⟩
  · rw [hf, Memory.page, hadmitted, hsorted]
    rfl
  · rw [hf, Memory.count, hadmitted]
    rfl

/-- Of a refund seen half a microsecond before the first time that is asked for, the table answers the
row and the memory nothing. -/
theorem finer_bound_parts_stores :
    let m : Memory := ⟨[refundAt 1709288430 1], 1⟩
    let f : Filter := { dateFrom := some ⟨1709288430, 500, Or.inl (by decide)⟩ }
    Replies plainDialect (m.records.map recordTuple) (pageSelection f .recent 20 0)
        [recordRow (refundAt 1709288430 1)] ∧
      m.page f .recent 20 0 = [] := by
  intro m f
  have hr : ∀ r ∈ m.records, r.timestamp.Countable := by
    simp only [m, List.forall_mem_cons, List.not_mem_nil, false_implies, implies_true, and_true]
    exact ⟨by decide, by decide⟩
  have hcounted : m.admitted f.counted = m.records := rfl
  have hrefused : m.admitted f = [] := rfl
  have hsorted : ∀ r, RecordOrder.recent.sort [r] = [r] := fun r => List.mergeSort_singleton r
  constructor
  · refine (replies_pageSelection plainDialect rfl hr (List.pairwise_singleton _ _) .recent 20 0 _).mpr
      ⟨by decide, by decide, ?_⟩
    rw [Memory.page, hcounted, hsorted]
    rfl
  · rw [Memory.page, hrefused, RecordOrder.sort, List.mergeSort_nil]
    rfl

end Sql

end EventLedger
