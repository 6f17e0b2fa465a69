import EventLedger.Audit.RecordOrder
import EventLedger.Audit.Statistics

/-!
# Stores

The ledger keeps its records in a store, of which it knows nothing but these operations. There is
none that changes or removes a record.

* `Store`: the operations, in any monad;
* `Store.within`: the same store inside a greater state.
-/

namespace EventLedger

/-- What a store does for the ledger. -/
structure Store (m : Type → Type) where
  /-- Writes all entries or none; the records come in the order of the entries. -/
  append : List SealedEntry → ExceptT StorageError m (List Record)
  fetchById : Uuid → ExceptT StorageError m (Option Record)
  /-- The admitted records in order, `offset` of them left out and then `limit` of them taken. -/
  fetchPage : Filter → RecordOrder → (limit offset : Int) → ExceptT StorageError m (List Record)
  count : Filter → ExceptT StorageError m Int
  /-- Categories by their count, the most frequent first. -/
  countByCategory : DateRange → ExceptT StorageError m (List (String × Int))
  /-- The latest days with records, in the order of days. -/
  dailyCounts : DateRange → (limit : Nat) → ExceptT StorageError m (List (Date × Int))
  /-- Event types by their count, the most frequent first. -/
  topEventTypes : DateRange → (limit : Nat) → ExceptT StorageError m (List (String × Int))
  /-- Actors by their count, the most frequent first. -/
  topActors : DateRange → (limit : Nat) → ExceptT StorageError m (List (Actor × Int))

/-- An action on a part of a state as an action on the whole. -/
def onPart {σ τ α : Type} (part : σ → τ) (put : τ → σ → σ) (action : StateM τ α) : StateM σ α :=
  fun s =>
    let (a, t) := action (part s)
    (a, put t s)

/-- The store as a part of a greater state. -/
def Store.within {σ τ : Type} (store : Store (StateM τ)) (part : σ → τ) (put : τ → σ → σ) :
    Store (StateM σ) where
  append entries := .mk (onPart part put (store.append entries).run)
  fetchById id := .mk (onPart part put (store.fetchById id).run)
  fetchPage f o limit offset := .mk (onPart part put (store.fetchPage f o limit offset).run)
  count f := .mk (onPart part put (store.count f).run)
  countByCategory r := .mk (onPart part put (store.countByCategory r).run)
  dailyCounts r limit := .mk (onPart part put (store.dailyCounts r limit).run)
  topEventTypes r limit := .mk (onPart part put (store.topEventTypes r limit).run)
  topActors r limit := .mk (onPart part put (store.topActors r limit).run)

end EventLedger
