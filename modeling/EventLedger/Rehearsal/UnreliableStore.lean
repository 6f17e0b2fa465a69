import EventLedger.Audit.Store.Memory

/-!
# A store that fails on demand

* `StoreMethod`, `PlannedFault`, `Outage`: the operations of a store, and how the next calls of one
  fail;
* `Alteration`: members of a record that are read with other values;
* `UnreliableMemory`, `UnreliableMemory.store`: records in memory with planned faults and
  alterations, and the operations on them.
-/

namespace EventLedger.Rehearsal

/-! ## Faults -/

/-- An operation of a store. -/
inductive StoreMethod where
  | append
  | fetchById
  | fetchPage
  | count
  | countByCategory
  | dailyCounts
  | topEventTypes
  | topActors
  deriving DecidableEq, Repr

/-- How a call fails. -/
inductive PlannedFault where
  | failure (error : StorageError)
  /-- Nothing is written, and the call succeeds with no records. -/
  | nothingWritten

/-- The same fault for some calls of an operation in a row. -/
structure Outage where
  method : StoreMethod
  fault : PlannedFault
  calls : Nat

/-- The first fault planned for an operation, with what is planned behind it. -/
def takeFault (method : StoreMethod) : List Outage → Option (PlannedFault × List Outage)
  | [] => none
  | o :: rest =>
    if o.method = method ∧ 0 < o.calls then
      some (o.fault, { o with calls := o.calls - 1 } :: rest)
    else (takeFault method rest).map fun (found, others) => (found, o :: others)

/-! ## Alterations -/

/-- An object seen with other values of some members. -/
def overlaid (members : List (String × Json)) : Json → Json
  | .obj ms => .obj (members ++ ms)
  | j => j

/-- A record with other values of some members; nothing if that is no record. -/
def altered? (members : List (String × Json)) (r : Record) : Option Record :=
  Record.ofJson? (overlaid members r.toJson)

/-- Other values for the record of a sequence number. -/
structure Alteration where
  sequenceNumber : Int
  members : List (String × Json)

/-! ## The store -/

/-- Records in memory, the faults to come and the alterations that readers see. -/
structure UnreliableMemory where
  memory : Memory
  /-- The outages of one operation strike in order. -/
  planned : List Outage
  /-- The first alteration of a sequence number counts. -/
  alterations : List Alteration

namespace UnreliableMemory

/-- No record, no fault. -/
def empty : UnreliableMemory := ⟨.empty, [], []⟩

/-- An outage behind those planned before. -/
def plan (o : Outage) (u : UnreliableMemory) : UnreliableMemory :=
  { u with planned := u.planned ++ [o] }

/-- The calls of an operation that are still to fail. -/
def faultsAhead (method : StoreMethod) (u : UnreliableMemory) : Nat :=
  u.planned.foldl (fun n o => if o.method = method then n + o.calls else n) 0

/-- Readers see a record with other values; an earlier alteration of it no longer counts. -/
def alter (a : Alteration) (u : UnreliableMemory) : UnreliableMemory :=
  { u with alterations := a :: u.alterations }

/-- A record as readers see it. -/
def seen (u : UnreliableMemory) (r : Record) : Record :=
  match u.alterations.find? fun a => a.sequenceNumber == r.sequenceNumber with
  | some a => (altered? a.members r).getD r
  | none => r

/-- A call of an operation, unless a fault is planned for it. -/
def attempt {α : Type} (method : StoreMethod) (writtenNothing : Option α)
    (operation : ExceptT StorageError (StateM Memory) α) :
    ExceptT StorageError (StateM UnreliableMemory) α :=
  .mk fun u =>
    let call (u : UnreliableMemory) :=
      let (answer, memory) := operation.run u.memory
      (answer, { u with memory })
    match takeFault method u.planned with
    | none => call u
    | some (.failure e, planned) => (.error e, { u with planned })
    | some (.nothingWritten, planned) =>
      match writtenNothing with
      | some a => (.ok a, { u with planned })
      | none => call { u with planned }

/-- What was read, as readers see it. -/
def seenBy {α : Type} (view : (Record → Record) → α → α)
    (read : ExceptT StorageError (StateM UnreliableMemory) α) :
    ExceptT StorageError (StateM UnreliableMemory) α := do
  let found ← read
  let u ← get
  pure (view u.seen found)

/-- The store of these records; what is written at `storedAt` bears that instant. -/
def store (storedAt : Instant) : Store (StateM UnreliableMemory) :=
  let base := Memory.store storedAt
  { append := fun entries => attempt .append (some []) (base.append entries)
    fetchById := fun id => seenBy Option.map (attempt .fetchById none (base.fetchById id))
    fetchPage := fun f o limit offset =>
      seenBy List.map (attempt .fetchPage none (base.fetchPage f o limit offset))
    count := fun f => attempt .count none (base.count f)
    countByCategory := fun r => attempt .countByCategory none (base.countByCategory r)
    dailyCounts := fun r limit => attempt .dailyCounts none (base.dailyCounts r limit)
    topEventTypes := fun r limit => attempt .topEventTypes none (base.topEventTypes r limit)
    topActors := fun r limit => attempt .topActors none (base.topActors r limit) }

end UnreliableMemory

end EventLedger.Rehearsal
