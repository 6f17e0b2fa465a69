import EventLedger.Audit.Ledger

/-!
# Operations of a ledger over a state

What the operations of a ledger answer and leave behind, in terms of what its store does. The store
may be any; each operation is opened here once.

* `run_bind`, `run_adapt`, `run_ofStore`: one action after another, and an answer of the store;
* **`Ledger.run_submit`**, **`Ledger.run_submitBatch`**: writing;
* **`Ledger.run_query`**, `Ledger.error_of_run_query`: a page of records.
-/

namespace EventLedger

variable {σ ε α β : Type}

theorem run_bind (x : ExceptT ε (StateM σ) α) (f : α → ExceptT ε (StateM σ) β) (st : σ) :
    (x >>= f).run st =
      match x.run st with
      | (.ok a, later) => (f a).run later
      | (.error e, later) => (.error e, later) := by
  change (match (x.run st : Except ε α × σ) with | (a, later) => ExceptT.bindCont f a later) = _
  rcases x.run st with ⟨_ | _, _⟩ <;> rfl

theorem run_adapt {δ : Type} (x : ExceptT ε (StateM σ) α) (f : ε → δ) (st : σ) :
    (x.adapt f).run st =
      match x.run st with
      | (.ok a, later) => (.ok a, later)
      | (.error e, later) => (.error (f e), later) := by
  change (match (x.run st : Except ε α × σ) with
    | (a, later) => (Except.mapError f a, later)) = _
  rcases x.run st with ⟨_ | _, _⟩ <;> rfl

namespace Ledger

theorem run_ofStore (action : ExceptT StorageError (StateM σ) α) (st : σ) :
    (ofStore action).run st =
      match action.run st with
      | (.ok a, later) => (.ok a, later)
      | (.error e, later) => (.error (.storage e), later) := by
  rw [ofStore, run_adapt]
  rcases action.run st with ⟨_ | _, _⟩ <;> rfl

theorem ensure_nil : (ensure [] : ExceptT LedgerError (StateM σ) Unit) = pure () := rfl

theorem run_ensure_bind {vs : List Violation} (h : vs ≠ [])
    (f : Unit → ExceptT LedgerError (StateM σ) α) (st : σ) :
    (ensure vs >>= f).run st = (.error (.invalid vs), st) := by
  unfold ensure
  rw [if_neg (by simpa using h)]
  rfl

variable (ledger : Ledger (StateM σ)) (st : σ)

theorem run_submit (fresh : FreshIds) (now : Instant) (s : Submission) :
    (ledger.submit fresh now s).run st =
      if s.violations = [] then
        match (ledger.store.append [s.seal fresh now]).run st with
        | (.ok stored, later) =>
          match stored.getLast? with
          | some record => (.ok record, later)
          | none =>
            (.error (.storage ⟨.decode, "store returned no row for a single append"⟩), later)
        | (.error e, later) => (.error (.storage e), later)
      else (.error (.invalid s.violations), st) := by
  unfold submit
  by_cases h : s.violations = []
  · rw [if_pos h, h, ensure_nil, pure_bind, run_bind, run_ofStore]
    rcases (ledger.store.append [s.seal fresh now]).run st with ⟨_ | stored, later⟩
    · rfl
    · dsimp only
      cases stored.getLast? <;> rfl
  · rw [if_neg h, run_ensure_bind h]

theorem run_submitBatch (fresh : Nat → FreshIds) (now : Instant) (batch : List Submission) :
    (ledger.submitBatch fresh now batch).run st =
      match ledger.limits.batchFault batch.length with
      | some fault => (.error (.invalid [.single "records" fault]), st)
      | none =>
        if batchViolations batch = [] then
          match (ledger.store.append (sealBatch fresh now batch)).run st with
          | (.ok stored, later) => (.ok stored, later)
          | (.error e, later) => (.error (.storage e), later)
        else (.error (.invalid (batchViolations batch)), st) := by
  unfold submitBatch
  cases ledger.limits.batchFault batch.length with
  | some fault => exact run_ensure_bind (List.cons_ne_nil _ _) _ st
  | none =>
    rw [Option.toList_none, List.map_nil, ensure_nil, pure_bind]
    dsimp only
    by_cases h : batchViolations batch = []
    · rw [h, ensure_nil, pure_bind, run_ofStore, if_pos rfl]
      rcases (ledger.store.append (sealBatch fresh now batch)).run st with ⟨_ | _, _⟩ <;> rfl
    · rw [run_ensure_bind h, if_neg h]

theorem run_query_misplaced (f : Filter) (p : PageRequest) (o : RecordOrder)
    (hp : p.violations ledger.limits.maxPageSize ≠ []) :
    (ledger.query f p o).run st =
      (.error (.invalid (p.violations ledger.limits.maxPageSize)), st) := by
  unfold query
  rw [run_ensure_bind hp]

theorem run_query_refused (f : Filter) (p : PageRequest) (o : RecordOrder)
    (hp : p.violations ledger.limits.maxPageSize = []) (hf : f.violations ≠ []) :
    (ledger.query f p o).run st = (.error (.invalid f.violations), st) := by
  unfold query
  rw [hp, ensure_nil, pure_bind, run_ensure_bind hf]

/-- **A page that is not refused: its items are counted, and fetched if there are any.** -/
theorem run_query (f : Filter) (p : PageRequest) (o : RecordOrder)
    (hp : p.violations ledger.limits.maxPageSize = []) (hf : f.violations = []) :
    (ledger.query f p o).run st =
      match (ledger.store.count f).run st with
      | (.error e, later) => (.error (.storage e), later)
      | (.ok total, later) =>
        match p.offset? with
        | none => (.ok none, later)
        | some offset =>
          if offset < total then
            match (ledger.store.fetchPage f o p.limit offset).run later with
            | (.ok items, last) => (.ok (some ⟨items, .of p total.toNat⟩), last)
            | (.error e, last) => (.error (.storage e), last)
          else (.ok (some ⟨[], .of p total.toNat⟩), later) := by
  unfold query
  rw [hp, hf, ensure_nil, pure_bind, pure_bind, run_bind, run_ofStore]
  rcases (ledger.store.count f).run st with ⟨_ | total, later⟩
  · rfl
  · dsimp only
    cases p.offset? with
    | none => rfl
    | some offset =>
      dsimp only
      by_cases h : offset < total
      · rw [if_pos h, if_pos h, run_bind, run_ofStore]
        rcases (ledger.store.fetchPage f o p.limit offset).run later with ⟨_ | items, last⟩ <;> rfl
      · rw [if_neg h, if_neg h]
        rfl

variable {ledger st}

theorem error_of_run_query {later : σ} {f : Filter} {p : PageRequest} {o : RecordOrder} {e : LedgerError}
    (hp : p.violations ledger.limits.maxPageSize = [])
    (h : (ledger.query f p o).run st = (.error e, later)) :
    e = .invalid f.violations ∨ ∃ s, e = .storage s := by
  by_cases hf : f.violations = []
  · rw [run_query _ _ _ _ _ hp hf] at h
    split at h
    · rename_i s _ _
      exact .inr ⟨s, (Except.error.inj (congrArg Prod.fst h)).symm⟩
    · split at h
      · cases congrArg Prod.fst h
      · split at h
        · split at h
          · cases congrArg Prod.fst h
          · rename_i s _ _
            exact .inr ⟨s, (Except.error.inj (congrArg Prod.fst h)).symm⟩
        · cases congrArg Prod.fst h
  · rw [run_query_refused _ _ _ _ _ hp hf] at h
    exact .inl (Except.error.inj (congrArg Prod.fst h)).symm

end Ledger

end EventLedger
