import EventLedger.Audit.Forwarder
import EventLedger.Proofs.Audit.Growth
import EventLedger.Proofs.Audit.Operations
import EventLedger.Proofs.Audit.Sealing

/-!
# Recording in a store that may fail

A store keeps ids unique, but whether it is reached, whether its answer arrives and whether it can be
read is not in its hands.

* `Appending`, `Store.KeepsIdsUnique`: how an append may end, and what is relied on in a store;
* `Memory.keepsIdsUnique`, **`Store.KeepsIdsUnique.under`**: records in memory, and bad weather over
  any such store;
* `Record.IsOf`: a record tells of an event, whenever it was sealed;
* `Store.noting`, `Ledger.noting`: a journal of the callers;
* `Quiet`, `Appends`: what one step of a caller does to the rows and to the journal;
* **`Ledger.submitted`**, `Ledger.looked`: a submission is refused, or it is one append; looking for
  an id changes nothing.
-/

namespace EventLedger

/-! ## Stores -/

/-- How the append of one entry may end, and which rows there are then. -/
inductive Appending (before : List Record) (entry : SealedEntry) :
    Except StorageError (List Record) → List Record → Prop
  | stored {n : Int} {storedAt : Instant} : entry.id ∉ before.map (·.id) →
    Appending before entry (.ok [entry.stored n storedAt]) (before ++ [entry.stored n storedAt])
  /-- The row is written, and the answer gets lost. -/
  | unanswered {n : Int} {storedAt : Instant} {error : StorageError} :
    entry.id ∉ before.map (·.id) → error.transient = true →
    Appending before entry (.error error) (before ++ [entry.stored n storedAt])
  /-- The store is not reached. -/
  | missed {error : StorageError} : error.transient = true →
    Appending before entry (.error error) before
  | repeated {error : StorageError} : entry.id ∈ before.map (·.id) → error.kind = .constraint →
    Appending before entry (.error error) before

variable {σ : Type}

/-- A store keeps the ids of its rows unique. It finds only what is there, if it can be read. -/
structure Store.KeepsIdsUnique (store : Store (StateM σ)) (rows : σ → List Record) : Prop where
  append : ∀ s entry, Appending (rows s) entry ((store.append [entry]).run s).1
    (rows ((store.append [entry]).run s).2)
  fetchById : ∀ s id, rows ((store.fetchById id).run s).2 = rows s
  found : ∀ s id r, ((store.fetchById id).run s).1 = .ok (some r) → r ∈ rows s ∧ r.id = id

theorem Memory.keepsIdsUnique (storedAt : Instant) :
    (Memory.store storedAt).KeepsIdsUnique Memory.records where
  append m entry := by
    show Appending m.records entry (m.append storedAt [entry]).1 (m.append storedAt [entry]).2.records
    have h1 : (firstRepeated (m.records.map (·.id)) [entry.id] = none) ↔
        entry.id ∉ m.records.map (·.id) := by
      rw [firstRepeated_eq_none_iff]
      simp
    rcases append_cases storedAt [entry] m with ⟨id, hr, ha⟩ | ⟨hr, ha⟩
    · rw [ha]
      refine .repeated (Decidable.not_not.mp fun hn => ?_) rfl
      have h2 : firstRepeated (m.records.map (·.id)) [entry.id] = some id := hr
      rw [h1.mpr hn] at h2
      cases h2
    · rw [ha]
      exact .stored (h1.mp hr)
  fetchById _ _ := rfl
  found m id r h := by
    have h1 : m.records.find? (·.id == id) = some r := Except.ok.inj h
    exact ⟨List.mem_of_find?_eq_some h1, by simpa using List.find?_some h1⟩

/-! ## Bad weather -/

/-- What happens to one access to a store. -/
inductive Weather where
  | calm
  /-- The store is not reached. -/
  | missed
  /-- The store is reached, and its answer gets lost. -/
  | unanswered

/-- An answer on its way through the weather. -/
def Weather.answer {α : Type} (w : Weather) (given : Except StorageError α) :
    Except StorageError α :=
  match w, given with
  | calm, given => given
  | _, .error error => .error error
  | _, .ok _ => .error ⟨.connection, "no answer"⟩

/-- A store with the weather of the next accesses; it is calm behind them. -/
def Store.under (store : Store (StateM σ)) : Store (StateM (σ × List Weather)) :=
  { store.within Prod.fst fun t s => (t, s.2) with
    append := fun entries => .mk fun s =>
      match s.2.headD .calm with
      | .missed => (.error ⟨.connection, "no connection"⟩, (s.1, s.2.tail))
      | w =>
        let (given, later) := (store.append entries).run s.1
        (w.answer given, (later, s.2.tail))
    fetchById := fun id => .mk fun s =>
      let (given, later) := (store.fetchById id).run s.1
      ((s.2.headD .calm).answer given, (later, s.2.tail)) }

theorem Store.run_append_under (store : Store (StateM σ)) (entries : List SealedEntry)
    (s : σ × List Weather) :
    (store.under.append entries).run s =
      match s.2.headD .calm with
      | .missed => (.error ⟨.connection, "no connection"⟩, (s.1, s.2.tail))
      | w => (w.answer ((store.append entries).run s.1).1,
          (((store.append entries).run s.1).2, s.2.tail)) := rfl

theorem Weather.ok_of_answer {α : Type} {w : Weather} {given : Except StorageError α} {a : α}
    (h : w.answer given = .ok a) : given = .ok a := by
  cases w <;> cases given <;> first | exact h | cases h

theorem Appending.answer {before after : List Record} {entry : SealedEntry}
    {given : Except StorageError (List Record)} (h : Appending before entry given after)
    (w : Weather) : Appending before entry (w.answer given) after := by
  cases h with
  | stored hnew =>
    cases w with
    | calm => exact .stored hnew
    | missed => exact .unanswered hnew rfl
    | unanswered => exact .unanswered hnew rfl
  | unanswered hnew ht => cases w <;> exact .unanswered hnew ht
  | missed ht => cases w <;> exact .missed ht
  | repeated hold hk => cases w <;> exact .repeated hold hk

/-- **No weather makes a store write an id twice.** -/
theorem Store.KeepsIdsUnique.under {store : Store (StateM σ)} {rows : σ → List Record}
    (h : store.KeepsIdsUnique rows) : store.under.KeepsIdsUnique fun s => rows s.1 where
  append s entry := by
    have h1 := (h.append s.1 entry).answer (s.2.headD .calm)
    rw [run_append_under]
    cases hw : s.2.headD .calm with
    | missed => exact .missed rfl
    | calm =>
      rw [hw] at h1
      exact h1
    | unanswered =>
      rw [hw] at h1
      exact h1
  fetchById s id := h.fetchById s.1 id
  found s id r hr := h.found s.1 id r (Weather.ok_of_answer hr)

/-! ## Records of events -/

theorem Envelope.seal_eq {e : Envelope} (h : e.submission.violations = [])
    (fresh other : FreshIds) (now later : Instant) :
    e.submission.seal fresh now = e.submission.seal other later := by
  have h1 : Text.blank e.correlationId = false := Submission.correlation_given h rfl
  have h2 : e.submission.statedCorrelation? = some e.correlationId :=
    Option.filter_eq_some_iff.mpr ⟨rfl, by rw [h1]; rfl⟩
  have h3 : e.submission.id = some e.eventId := rfl
  have h4 : e.submission.timestamp = some e.timestamp := rfl
  simp only [Submission.seal, h2, h3, h4, Option.getD_some]

/-- A record tells of an event: it has all fields of the sealed entry. -/
def Record.IsOf (r : Record) (e : Envelope) : Prop :=
  ∀ fresh now, r.toSealedEntry = e.submission.seal fresh now

theorem Record.IsOf.id {r : Record} {e : Envelope} (h : r.IsOf e) : r.id = e.eventId :=
  congrArg SealedEntry.id (h ⟨e.eventId, e.eventId⟩ .epoch)

/-! ## Callers -/

/-- A store that notes in a journal who has called it to append. -/
def Store.noting (caller : Nat) (store : Store (StateM σ)) : Store (StateM (σ × List Nat)) :=
  { store.within Prod.fst fun t s => (t, s.2) with
    append := fun entries =>
      .mk (onPart Prod.fst (fun t s => (t, caller :: s.2)) (store.append entries).run) }

/-- A ledger that notes in a journal who has called it to append. -/
def Ledger.noting (caller : Nat) (ledger : Ledger (StateM σ)) : Ledger (StateM (σ × List Nat)) :=
  ⟨ledger.store.noting caller, ledger.limits⟩

/-- Nothing is written, and nobody has called. -/
def Quiet (rows : σ → List Record) (s later : σ × List Nat) : Prop :=
  rows later.1 = rows s.1 ∧ later.2 = s.2

/-- A caller has called, and at most the record of its event is written, its id being new. -/
def Appends (rows : σ → List Record) (caller : Nat) (e : Envelope) (s later : σ × List Nat) : Prop :=
  (rows later.1 = rows s.1 ∨
    ∃ r : Record, rows later.1 = rows s.1 ++ [r] ∧ r.id ∉ (rows s.1).map (·.id) ∧ r.IsOf e) ∧
  later.2 = caller :: s.2

/-- **A submission of an event is refused, or it is one append**, which has written the record if it
is answered so. -/
theorem Ledger.submitted {ledger : Ledger (StateM σ)} {rows : σ → List Record}
    (hstore : ledger.store.KeepsIdsUnique rows) (caller : Nat) (fresh : FreshIds) (now : Instant)
    (e : Envelope) (s : σ × List Nat) :
    (∃ violations, ((ledger.noting caller).submit fresh now e.submission).run s =
      (.error (.invalid violations), s)) ∨
    ∃ answer later, ((ledger.noting caller).submit fresh now e.submission).run s = (answer, later) ∧
      Appends rows caller e s later ∧ ∀ r, answer = .ok r → r ∈ rows later.1 ∧ r.id = e.eventId := by
  rw [run_submit]
  by_cases hv : e.submission.violations = []
  · rw [if_pos hv]
    refine Or.inr ?_
    have hid : (e.submission.seal fresh now).id = e.eventId := rfl
    have hof : ∀ n storedAt, ((e.submission.seal fresh now).stored n storedAt).IsOf e :=
      fun n storedAt other later => e.seal_eq hv fresh other now later
    generalize e.submission.seal fresh now = entry at hid hof
    have h1 : ((ledger.noting caller).store.append [entry]).run s =
      (((ledger.store.append [entry]).run s.1).1, ((ledger.store.append [entry]).run s.1).2,
        caller :: s.2) := rfl
    have h2 := hstore.append s.1 entry
    rw [h1]
    generalize (ledger.store.append [entry]).run s.1 = answered at h2
    obtain ⟨answer, after⟩ := answered
    dsimp only at h2
    generalize hrows : rows after = written at h2
    cases h2 with
    | stored hnew =>
      refine ⟨.ok _, (after, caller :: s.2), rfl, ⟨Or.inr ⟨_, hrows, hnew, hof _ _⟩, rfl⟩, ?_⟩
      intro r hr
      rw [← Except.ok.inj hr, hrows]
      exact ⟨List.mem_append_right _ List.mem_cons_self, hid⟩
    | unanswered hnew =>
      exact ⟨.error _, (after, caller :: s.2), rfl,
        ⟨Or.inr ⟨_, hrows, hnew, hof _ _⟩, rfl⟩, fun _ h => nomatch h⟩
    | missed =>
      exact ⟨.error _, (after, caller :: s.2), rfl, ⟨Or.inl hrows, rfl⟩, fun _ h => nomatch h⟩
    | repeated =>
      exact ⟨.error _, (after, caller :: s.2), rfl, ⟨Or.inl hrows, rfl⟩, fun _ h => nomatch h⟩
  · rw [if_neg hv]
    exact Or.inl ⟨_, rfl⟩

theorem Ledger.looked {ledger : Ledger (StateM σ)} {rows : σ → List Record}
    (hstore : ledger.store.KeepsIdsUnique rows) (caller : Nat) (id : Uuid) (s : σ × List Nat) :
    ∃ answer later, ((ledger.noting caller).find? id).run s = (answer, later) ∧ Quiet rows s later ∧
      ∀ r, answer = .ok (some r) → r ∈ rows later.1 ∧ r.id = id := by
  have h1 : ((ledger.noting caller).store.fetchById id).run s =
    (((ledger.store.fetchById id).run s.1).1, ((ledger.store.fetchById id).run s.1).2, s.2) := rfl
  have h2 := hstore.fetchById s.1 id
  have h3 := hstore.found s.1 id
  rw [find?, run_ofStore, h1]
  generalize (ledger.store.fetchById id).run s.1 = answered at h2 h3
  obtain ⟨_ | answer, after⟩ := answered
  · exact ⟨.error _, (after, s.2), rfl, ⟨h2, rfl⟩, fun _ h => nomatch h⟩
  · refine ⟨.ok answer, (after, s.2), rfl, ⟨h2, rfl⟩, fun r hr => ?_⟩
    obtain ⟨h4, h5⟩ := h3 r (congrArg Except.ok (Except.ok.inj hr))
    dsimp only at h2 ⊢
    rw [h2]
    exact ⟨h4, h5⟩

end EventLedger
