import EventLedger.Audit.Service
import EventLedger.Proofs.Audit.AppendOnly
import EventLedger.Proofs.Audit.Operations
import EventLedger.Proofs.Audit.Parameters
import EventLedger.Proofs.Settings
import Mathlib.Tactic.ByContra

/-!
# Requests that leave the page open

A request that names no page asks for the first one of the usual size. The settings are accepted as long
as the usual size is not greater than the greatest, so they are accepted with a usual size of zero, and
then every such request is refused.

* `Environment.EmptyPage`, `Limits.violations_firstPage`: settings without items on the usual page;
* `OpenRequest`: the requests that leave the page open;
* `OpenRequest.answer_eq`: all of them as one query;
* **`open_requests_refused_iff_page_empty`**, `accepted_settings_refuse_open_requests`.
-/

namespace EventLedger

/-! ## The usual page -/

/-- The usual page has no item. -/
def Environment.EmptyPage (env : Environment) : Prop :=
  ∃ raw, env.lookup "AUDIT_DEFAULT_PAGE_SIZE" = some raw ∧ Text.Writes 0 (Text.trim raw)

namespace Limits

variable {env : Environment} {l : Limits}

theorem defaultPageSize_eq_zero_iff (h : read env = .ok l) :
    l.defaultPageSize = 0 ↔ env.EmptyPage := by
  have husual := (read_eq_ok_iff.mp h).2.1
  constructor
  · intro hzero
    rw [hzero, Environment.number_eq_ok_iff rfl] at husual
    obtain ⟨-, hzero⟩ | ⟨raw, hraw, hwrites, -⟩ := husual
    · cases hzero
    · exact ⟨raw, hraw, hwrites⟩
  · rintro ⟨raw, hraw, hwrites⟩
    have hempty : env.number "AUDIT_DEFAULT_PAGE_SIZE" .u32 20 = .ok 0 :=
      (Environment.number_eq_ok_iff rfl).mpr (.inr ⟨raw, hraw, hwrites, Nat.zero_le _⟩)
    exact Except.ok.inj (husual.symm.trans hempty)

theorem violations_firstPage (h : l.defaultPageSize ≤ l.maxPageSize) :
    l.firstPage.violations l.maxPageSize =
      if l.defaultPageSize = 0 then [.single "pageSize" (.notBetweenOneAnd l.maxPageSize)] else [] := by
  unfold PageRequest.violations firstPage PageRequest.first
  dsimp only
  rw [if_neg (by decide)]
  split <;> split <;> first | rfl | omega

end Limits

/-! ## Requests that leave the page open -/

/-- A request to the service that names neither the number nor the size of a page. -/
inductive OpenRequest where
  | correlation (correlationId : String)
  | resource (kind id : String)
  | actor (id : String)
  | search (q : QueryParams) (number : Says q.page none) (size : Says q.pageSize none)

namespace OpenRequest

/-- What the service answers. -/
def answer {m : Type → Type} [Monad m] (ledger : Ledger m) :
    OpenRequest → ExceptT ServiceError m (Option (Page Record))
  | correlation id => Service.byCorrelation ledger id none
  | resource kind id => Service.byResource ledger kind id none
  | actor id => Service.byActor ledger id none
  | search q _ _ => Service.search ledger q

/-- What cannot be read of the request. -/
def faults : OpenRequest → List Violation
  | search q _ _ => q.faults
  | _ => []

/-- The filter that the request stands for. -/
def filter : OpenRequest → Filter
  | correlation id => .ofCorrelation id
  | resource kind id => .ofResource kind id
  | actor id => .ofActor id
  | search q _ _ => q.filter

/-- The order in which the request lists records. -/
def order : OpenRequest → RecordOrder
  | correlation _ => .causal
  | search q _ _ => q.order
  | _ => .recent

variable (r : OpenRequest)

theorem answer_eq {m : Type → Type} [Monad m] (ledger : Ledger m) :
    r.answer ledger =
      if r.faults.isEmpty then
        Service.ofLedger (ledger.query r.filter ledger.limits.firstPage r.order)
      else throw (.invalid r.faults) := by
  cases r with
  | search q hnumber hsize =>
    have hpage : q.pageRequest ledger.limits.defaultPageSize = ledger.limits.firstPage := by
      rw [QueryParams.pageRequest, QueryParams.number, QueryParams.size,
        Reading.ofParam_of_nothing hnumber, Reading.ofParam_of_nothing hsize]
      rfl
    show Service.search ledger q =
      if q.faults.isEmpty then Service.ofLedger (ledger.query q.filter ledger.limits.firstPage q.order)
      else throw (.invalid q.faults)
    rw [Service.search, QueryParams.parse_eq, hpage]
    cases q.faults.isEmpty <;> rfl
  | _ => rfl

theorem field_of_mem_faults {v : Violation} (h : v ∈ r.faults) :
    v.field ∈ ["actorTypes", "dateFrom", "dateTo", "sortBy", "sortOrder"] := by
  cases r with
  | search q hnumber hsize =>
    have hmem : v ∈ q.faults := h
    rw [QueryParams.faults, QueryParams.number, QueryParams.size, Reading.ofParam_of_nothing hnumber,
      Reading.ofParam_of_nothing hsize] at hmem
    rcases List.mem_append.mp hmem with hkind | hparam
    · obtain ⟨reading, hreading, hv⟩ := List.mem_filterMap.mp hkind
      obtain ⟨t, -, rfl⟩ := List.mem_map.mp hreading
      simp [Reading.field_of_ofText hv]
    · obtain ⟨v?, hv?, rfl⟩ := List.mem_filterMap.mp hparam
      simp only [List.mem_cons, List.not_mem_nil, or_false] at hv?
      rcases hv? with hv | hv | hv | hv | ⟨⟨⟩⟩ | ⟨⟨⟩⟩ <;> simp [Reading.field_of_ofParam hv.symm]
  | _ => cases h

end OpenRequest

/-- The error tells that the page cannot be had that was asked for. -/
def ServiceError.AboutPage : ServiceError → Prop
  | .invalid vs => ∃ v ∈ vs, v.field = "page" ∨ v.field = "pageSize"
  | _ => False

theorem Filter.field_of_mem_violations {f : Filter} {v : Violation} (h : v ∈ f.violations) :
    v.field = "dateRange" := by
  unfold Filter.violations at h
  split at h
  · unfold DateRange.violations at h
    split at h
    · rw [List.mem_singleton.mp h]
      rfl
    · cases h
  · cases h

namespace OpenRequest

variable {σ : Type} {ledger : Ledger (StateM σ)} {st later : σ} {r : OpenRequest} {e : ServiceError}

/-- **A usual page without items** refuses every request that can be read. -/
theorem run_answer_of_empty (hr : r.faults = []) (hzero : ledger.limits.defaultPageSize = 0) :
    (r.answer ledger).run st =
      (.error (.invalid [.single "pageSize" (.notBetweenOneAnd ledger.limits.maxPageSize)]), st) := by
  have hviolations := Limits.violations_firstPage (l := ledger.limits) (by omega)
  rw [if_pos hzero] at hviolations
  rw [answer_eq, hr, Service.ofLedger, List.isEmpty_nil, if_pos rfl, run_adapt,
    Ledger.run_query_misplaced _ _ _ _ _ (by rw [hviolations]; simp), hviolations]
  rfl

theorem run_answer_of_faults (hr : r.faults ≠ []) :
    (r.answer ledger).run st = (.error (.invalid r.faults), st) := by
  rw [answer_eq, if_neg (by simpa using hr)]
  rfl

theorem not_aboutPage_faults (r : OpenRequest) : ¬ (ServiceError.invalid r.faults).AboutPage := by
  rintro ⟨v, hv, hfield⟩
  have hmem := r.field_of_mem_faults hv
  rcases hfield with hfield | hfield <;> rw [hfield] at hmem <;> revert hmem <;> decide

/-- **A usual page with items** refuses no request. -/
theorem not_aboutPage_of_run
    (hpage : ledger.limits.firstPage.violations ledger.limits.maxPageSize = [])
    (h : (r.answer ledger).run st = (.error e, later)) : ¬ e.AboutPage := by
  by_cases hr : r.faults = []
  · rw [answer_eq, hr, List.isEmpty_nil, if_pos rfl, Service.ofLedger, run_adapt] at h
    split at h
    · cases congrArg Prod.fst h
    · rename_i e' _ hrun
      obtain rfl : ServiceError.ofLedger e' = e := Except.error.inj (congrArg Prod.fst h)
      obtain rfl | ⟨s, rfl⟩ := Ledger.error_of_run_query hpage hrun
      · rintro ⟨v, hv, hfield⟩
        rw [Filter.field_of_mem_violations hv] at hfield
        revert hfield
        decide
      · exact id
  · rw [run_answer_of_faults hr] at h
    obtain rfl := Except.error.inj (congrArg Prod.fst h)
    exact r.not_aboutPage_faults

end OpenRequest

/-- **Requests that leave the page open are refused for it exactly if the settings say that the usual
page has no item**, and settings that say so are accepted. This holds for every store in every state. All
such requests that can be read are refused then, by the same words and before the store is asked. -/
theorem open_requests_refused_iff_page_empty {env : Environment} {l : Limits}
    (h : Limits.read env = .ok l) :
    (l.firstPage.violations l.maxPageSize = [] ↔ ¬ env.EmptyPage) ∧
    ∀ {σ : Type} (store : Store (StateM σ)) (st : σ) (r : OpenRequest),
      ((∃ e later, (r.answer ⟨store, l⟩).run st = (.error e, later) ∧ e.AboutPage) ↔
        env.EmptyPage ∧ r.faults = []) ∧
      (env.EmptyPage → r.faults = [] → (r.answer ⟨store, l⟩).run st =
        (.error (.invalid [.single "pageSize" (.notBetweenOneAnd l.maxPageSize)]), st)) := by
  have hle := (Limits.read_eq_ok_iff.mp h).2.2.2.2
  have hzero := Limits.defaultPageSize_eq_zero_iff h
  have hfirst : l.firstPage.violations l.maxPageSize = [] ↔ ¬ env.EmptyPage := by
    rw [Limits.violations_firstPage hle]
    by_cases hsize : l.defaultPageSize = 0
    · rw [if_pos hsize]
      exact iff_of_false (List.cons_ne_nil _ _) (not_not.mpr (hzero.mp hsize))
    · rw [if_neg hsize]
      exact iff_of_true rfl fun hempty => hsize (hzero.mpr hempty)
  refine ⟨hfirst, fun {σ} store st r => ?_⟩
  have hrefused (hempty : env.EmptyPage) (hr : r.faults = []) : (r.answer ⟨store, l⟩).run st =
      (.error (.invalid [.single "pageSize" (.notBetweenOneAnd l.maxPageSize)]), st) :=
    OpenRequest.run_answer_of_empty hr (hzero.mpr hempty)
  refine ⟨⟨?_, ?_⟩, hrefused⟩
  · rintro ⟨e, later, hrun, habout⟩
    have hempty : env.EmptyPage := by
      by_contra hne
      exact OpenRequest.not_aboutPage_of_run (hfirst.mpr hne) hrun habout
    refine ⟨hempty, ?_⟩
    by_contra hr
    rw [OpenRequest.run_answer_of_faults hr] at hrun
    obtain rfl := Except.error.inj (congrArg Prod.fst hrun)
    exact r.not_aboutPage_faults habout
  · rintro ⟨hempty, hr⟩
    exact ⟨_, _, hrefused hempty hr, _, List.mem_singleton_self _, .inr rfl⟩

theorem empty_page_refused_in_empty_ledger :
    let env : Environment := [("AUDIT_MAX_PAGE_SIZE", "50"), ("AUDIT_DEFAULT_PAGE_SIZE", " +00 ")]
    let l : Limits := { Limits.standard with defaultPageSize := 0, maxPageSize := 50 }
    let refusal : Except ServiceError (Option (Page Record)) :=
      .error (.invalid [.single "pageSize" (.notBetweenOneAnd 50)])
    Limits.read env = .ok l ∧ env.EmptyPage ∧
      ((OpenRequest.correlation "corr-1").answer (Memory.ledger l .epoch)).run .empty =
        (refusal, .empty) ∧
      ((OpenRequest.search {} .absent .absent).answer (Memory.ledger l .epoch)).run .empty =
        (refusal, .empty) := by
  intro env l refusal
  have hread : Limits.read env = .ok l := by rfl
  have hempty : env.EmptyPage :=
    ⟨" +00 ", rfl, ['0', '0'], ⟨by decide, List.all_eq_true.mp rfl, by decide⟩, .inr (by decide)⟩
  have hrefused (r : OpenRequest) (hr : r.faults = []) :
      (r.answer (Memory.ledger l .epoch)).run .empty = (refusal, .empty) :=
    ((open_requests_refused_iff_page_empty hread).2 _ _ r).2 hempty hr
  exact ⟨hread, hempty, hrefused _ rfl, hrefused _ rfl⟩

/-- Settings that are accepted, under which no request is served that leaves the page open. -/
theorem accepted_settings_refuse_open_requests :
    let l : Limits := { Limits.standard with defaultPageSize := 0 }
    let refused (r : OpenRequest) : Prop :=
      (r.answer (Memory.ledger l .epoch)).run .empty =
        (.error (.invalid [.single "pageSize" (.notBetweenOneAnd 100)]), .empty)
    Limits.read [("AUDIT_DEFAULT_PAGE_SIZE", "0")] = .ok l ∧
      l.firstPage.violations l.maxPageSize = [.single "pageSize" (.notBetweenOneAnd 100)] ∧
      refused (.correlation "corr-1") ∧ refused (.resource "booking" "bk-1") ∧
      refused (.actor "user-1") ∧ refused (.search {} .absent .absent) := by
  refine ⟨by rfl, by rfl, ?_, ?_, ?_, ?_⟩ <;> exact OpenRequest.run_answer_of_empty rfl rfl

end EventLedger
