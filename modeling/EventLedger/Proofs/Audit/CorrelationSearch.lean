import EventLedger.Audit.Service
import EventLedger.Proofs.Audit.Pages
import EventLedger.Proofs.Audit.Parameters

/-!
# Searching for a business transaction

The records of a business transaction can be looked up by its id, or searched for with the id as a
parameter. The lookup takes the id as it is given. The search puts the white space around a parameter
aside, while records keep the ids they were handed in with. So a search is the lookup of the trimmed id,
and where there is white space around the id of a record, the search misses it.

* `QueryParams.transaction`: the search for a transaction;
* **`search_transaction`**: it is the lookup of the trimmed id, in any ledger;
* **`Memory.lookups_agree_iff`**: where two lookups answer the same;
* **`transaction_searched_by_trimmed_id`**, `padded_transaction_missed`.
-/

namespace EventLedger

/-- The search for the records of one business transaction in the order of storing. -/
def QueryParams.transaction (correlationId : String) : QueryParams where
  correlationId := some correlationId
  sortBy := some "sequenceNumber"
  sortOrder := some "asc"

variable {c : String}

theorem parse_transaction (hc : Text.blank c = false) (usualSize : Nat) :
    (QueryParams.transaction c).parse usualSize =
      .ok (.ofCorrelation (Text.trim c), .first usualSize, .causal) := by
  have hid : Text.nonBlank? c = some (Text.trim c) := by
    rw [Text.nonBlank?_eq, hc]
    rfl
  have hfilter : (QueryParams.transaction c).filter =
      { correlationId := (some c).bind Text.nonBlank? } := rfl
  rw [QueryParams.parse_eq_ok_iff, hfilter, Option.bind_some, hid]
  exact ⟨by rfl, rfl, by rfl, by rfl⟩

theorem search_transaction {m : Type → Type} [Monad m] (ledger : Ledger m)
    (hc : Text.blank c = false) :
    Service.search ledger (.transaction c) = Service.byCorrelation ledger (Text.trim c) none := by
  rw [Service.search, parse_transaction hc]
  rfl

/-! ## In memory -/

namespace Memory

variable {limits : Limits} {storedAt : Instant} {m : Memory} {c d : String}

theorem admits_ofCorrelation {r : Record} :
    (Filter.ofCorrelation c).admits r = true ↔ c = r.correlationId := by
  simp [Filter.admits, Filter.ofCorrelation, EventLedger.admitted]

theorem run_byCorrelation :
    (Service.byCorrelation (ledger limits storedAt) c none).run m =
      if limits.firstPage.violations limits.maxPageSize = [] then
        (.ok (some (m.pageAt (.ofCorrelation c) .causal limits.firstPage)), m)
      else (.error (.invalid (limits.firstPage.violations limits.maxPageSize)), m) := by
  show (Service.ofLedger ((ledger limits storedAt).query (.ofCorrelation c) limits.firstPage
    .causal)).run m = _
  rw [Service.ofLedger, run_adapt]
  by_cases hpage : limits.firstPage.violations limits.maxPageSize = []
  · have hplace : (limits.firstPage.page - 1) * limits.firstPage.pageSize < Nat.pow 2 63 := by
      rw [Limits.firstPage, PageRequest.first, Nat.sub_self, Nat.zero_mul]
      decide
    rw [if_pos hpage, m.run_query limits storedAt .causal hpage rfl hplace]
  · rw [if_neg hpage, Ledger.run_query_misplaced (ledger limits storedAt) m _ _ _ hpage]
    rfl

theorem mem_sort_ofCorrelation {o : RecordOrder} {r : Record} :
    r ∈ o.sort (m.admitted (.ofCorrelation c)) ↔ r ∈ m.records ∧ r.correlationId = c := by
  rw [RecordOrder.sort, (List.mergeSort_perm _ _).mem_iff, admitted, List.mem_filter,
    admits_ofCorrelation, eq_comm]

theorem eq_of_items_eq (hpage : limits.firstPage.violations limits.maxPageSize = []) {o : RecordOrder}
    (h : (m.pageAt (.ofCorrelation d) o limits.firstPage).items =
      (m.pageAt (.ofCorrelation c) o limits.firstPage).items)
    {r : Record} (hr : r ∈ m.records) (hc : r.correlationId = c) : d = c := by
  obtain ⟨-, hsize, -⟩ := PageRequest.violations_eq_nil_iff.mp hpage
  rw [Limits.firstPage, items_first_eq_take, items_first_eq_take] at h
  have hne : (o.sort (m.admitted (.ofCorrelation c))).take limits.defaultPageSize ≠ [] := by
    rw [ne_eq, List.take_eq_nil_iff, not_or]
    exact ⟨Nat.ne_of_gt hsize, List.ne_nil_of_mem (mem_sort_ofCorrelation.mpr ⟨hr, hc⟩)⟩
  obtain ⟨first, hfirst⟩ := List.exists_mem_of_ne_nil _ hne
  have hc' := (mem_sort_ofCorrelation.mp (List.mem_of_mem_take hfirst)).2
  have hd' := (mem_sort_ofCorrelation.mp (List.mem_of_mem_take (h ▸ hfirst))).2
  exact hd'.symm.trans hc'

/-- **Two lookups agree** if they are of the same transaction, or refused, or find nothing. -/
theorem lookups_agree_iff :
    (Service.byCorrelation (ledger limits storedAt) d none).run m =
        (Service.byCorrelation (ledger limits storedAt) c none).run m ↔
      d = c ∨ limits.firstPage.violations limits.maxPageSize ≠ [] ∨
        ∀ r ∈ m.records, r.correlationId ≠ c ∧ r.correlationId ≠ d := by
  rw [run_byCorrelation, run_byCorrelation]
  by_cases hpage : limits.firstPage.violations limits.maxPageSize = []
  · rw [if_pos hpage, if_pos hpage]
    constructor
    · intro h
      have hitems := congrArg Page.items (Option.some.inj (Except.ok.inj (congrArg Prod.fst h)))
      by_cases heq : d = c
      · exact .inl heq
      · refine .inr (.inr fun r hr => ⟨fun hc => ?_, fun hd => ?_⟩)
        · exact heq (eq_of_items_eq hpage hitems hr hc)
        · exact heq (eq_of_items_eq hpage hitems.symm hr hd).symm
    · rintro (rfl | hrefused | hnone)
      · rfl
      · exact absurd hpage hrefused
      · have hempty (e : String) (he : ∀ r ∈ m.records, r.correlationId ≠ e) :
            m.admitted (.ofCorrelation e) = [] :=
          List.filter_eq_nil_iff.mpr fun r hr hadmits =>
            he r hr (admits_ofCorrelation.mp hadmits).symm
        unfold pageAt count
        rw [hempty d fun r hr => (hnone r hr).2, hempty c fun r hr => (hnone r hr).1]
  · rw [if_neg hpage, if_neg hpage]
    exact iff_of_true rfl (.inr (.inl hpage))

end Memory

/-- **A transaction is searched for by its trimmed id.** In every ledger, the search for the id of an
accepted record is the lookup of that id without the white space around it. In memory, after any calls,
it answers what the lookup of the id itself does exactly if there is no white space around it, or the
page is refused, or neither id has a record. -/
theorem transaction_searched_by_trimmed_id {s : Submission} (hs : s.violations = []) {c : String}
    (hc : s.correlationId = some c) :
    (∀ {m : Type → Type} [Monad m] (ledger : Ledger m),
      Service.search ledger (.transaction c) = Service.byCorrelation ledger (Text.trim c) none) ∧
    ∀ (limits : Limits) (storedAt : Instant) (calls : List Writing),
      (Service.search (Memory.ledger limits storedAt) (.transaction c)).run
            (memoryAfter limits .empty calls) =
          (Service.byCorrelation (Memory.ledger limits storedAt) c none).run
            (memoryAfter limits .empty calls) ↔
        Text.trim c = c ∨ limits.firstPage.violations limits.maxPageSize ≠ [] ∨
          ∀ r ∈ (memoryAfter limits .empty calls).records,
            r.correlationId ≠ c ∧ r.correlationId ≠ Text.trim c := by
  have hgiven := Submission.correlation_given hs hc
  refine ⟨fun ledger => search_transaction ledger hgiven, fun limits storedAt calls => ?_⟩
  rw [search_transaction _ hgiven]
  exact Memory.lookups_agree_iff

/-- A refund handed in under a correlation id. -/
def Submission.refundOf (correlationId : String) : Submission :=
  { Submission.refund with correlationId := some correlationId }

/-- The only call is that of one refund. -/
def Memory.withRefundOf (correlationId : String) : Memory :=
  memoryAfter .standard .empty [.single ⟨⟨1⟩, ⟨1⟩⟩ .epoch .epoch (.refundOf correlationId)]

theorem spaced_transaction_found :
    let m := Memory.withRefundOf "corr 1"
    (Submission.refundOf "corr 1").violations = [] ∧ m.count (.ofCorrelation "corr 1") = 1 ∧
      (Service.search (Memory.ledger .standard .epoch) (.transaction "corr 1")).run m =
        (Service.byCorrelation (Memory.ledger .standard .epoch) "corr 1" none).run m := by
  intro m
  have hs : (Submission.refundOf "corr 1").violations = [] := by rfl
  have hcount : m.count (.ofCorrelation "corr 1") = 1 := by decide +kernel
  have hagree := (transaction_searched_by_trimmed_id hs rfl).2 .standard .epoch
    [.single ⟨⟨1⟩, ⟨1⟩⟩ .epoch .epoch (.refundOf "corr 1")]
  exact ⟨hs, hcount, hagree.mpr (.inl (by decide))⟩

/-- A refund is accepted and stored under an id with white space around it. It is found by the lookup of
that id, and the search for it finds nothing. -/
theorem padded_transaction_missed :
    let m := Memory.withRefundOf " corr-1 "
    let page := Limits.standard.firstPage
    (Submission.refundOf " corr-1 ").violations = [] ∧ m.records.length = 1 ∧
      (Service.byCorrelation (Memory.ledger .standard .epoch) " corr-1 " none).run m =
        (.ok (some ⟨m.records, .of page 1⟩), m) ∧
      (Service.search (Memory.ledger .standard .epoch) (.transaction " corr-1 ")).run m =
        (.ok (some ⟨[], .of page 0⟩), m) := by
  intro m page
  have hs : (Submission.refundOf " corr-1 ").violations = [] := by rfl
  have hids : m.records.map (·.correlationId) = [" corr-1 "] := by decide +kernel
  obtain ⟨r, hr, hid⟩ := List.map_eq_singleton_iff.mp hids
  have hpadded : m.admitted (.ofCorrelation " corr-1 ") = [r] := by
    rw [Memory.admitted, hr, List.filter_singleton, Memory.admits_ofCorrelation.mpr hid.symm]
    rfl
  have htrimmed : m.admitted (.ofCorrelation "corr-1") = [] := by
    refine List.filter_eq_nil_iff.mpr fun r' hr' hadmits => ?_
    have hid' := Memory.admits_ofCorrelation.mp hadmits
    rw [hr] at hr'
    rw [List.mem_singleton.mp hr', hid] at hid'
    exact absurd hid' (by decide)
  have htrim : Text.trim " corr-1 " = "corr-1" := by decide
  have hpage : Limits.standard.firstPage.violations Limits.standard.maxPageSize = [] := rfl
  refine ⟨hs, by rw [hr]; rfl, ?_, ?_⟩
  · rw [Memory.run_byCorrelation, if_pos hpage, Memory.pageAt, Memory.count, hpadded,
      RecordOrder.sort, List.mergeSort_singleton, hr]
    rfl
  · rw [search_transaction _ (Submission.correlation_given hs rfl), htrim, Memory.run_byCorrelation,
      if_pos hpage, Memory.pageAt, Memory.count, htrimmed, RecordOrder.sort, List.mergeSort_nil]
    rfl

end EventLedger
