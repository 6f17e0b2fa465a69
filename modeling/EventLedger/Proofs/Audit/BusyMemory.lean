import EventLedger.Proofs.Audit.Growth
import EventLedger.Proofs.Audit.Operations

/-!
# Memories that others write to

A reader comes to a memory several times, and writers append batches in front of each of these
accesses. What is read is the memory of that moment.

* `Batch`, `Memory.written`: batches appended one after another;
* `BusyMemory`, `BusyMemory.store`: a memory with the batches that are still to arrive;
* `BusyMemory.PageRead`: what a page tells about the memory in front of it and behind it;
* **`BusyMemory.run_query`**: every page that is not refused is read that way.
-/

namespace EventLedger

/-- Entries that a writer appends, and the instant of storing. -/
structure Batch where
  storedAt : Instant
  entries : List SealedEntry

/-- Batches appended one after another; one with a repeated id leaves no trace. -/
def Memory.written (m : Memory) (batches : List Batch) : Memory :=
  batches.foldl (fun m b => (m.append b.storedAt b.entries).2) m

namespace Memory

variable {m : Memory}

theorem Numbered.written (hm : m.Numbered) (batches : List Batch) :
    (m.written batches).Numbered := by
  induction batches generalizing m with
  | nil => exact hm
  | cons b rest ih => exact ih (hm.append b.storedAt b.entries)

theorem prefix_written (m : Memory) (batches : List Batch) :
    m.records <+: (m.written batches).records := by
  induction batches generalizing m with
  | nil => exact List.prefix_rfl
  | cons b rest ih => exact (prefix_append b.storedAt b.entries m).trans (ih _)

end Memory

/-- A memory, and the batches that arrive in front of each of the next accesses. -/
structure BusyMemory where
  memory : Memory
  arriving : List (List Batch)

namespace BusyMemory

/-- The next batches have arrived. -/
def next (b : BusyMemory) : BusyMemory :=
  ⟨b.memory.written (b.arriving.head?.getD []), b.arriving.tail⟩

/-- An action on the memory behind the next batches. -/
def behindNext {α : Type} (action : ExceptT StorageError (StateM Memory) α) :
    ExceptT StorageError (StateM BusyMemory) α :=
  .mk fun b =>
    let (a, m) := action.run b.next.memory
    (a, { b.next with memory := m })

/-- The store of a memory to which others write. -/
def store (storedAt : Instant) : Store (StateM BusyMemory) where
  append entries := behindNext ((Memory.store storedAt).append entries)
  fetchById id := behindNext ((Memory.store storedAt).fetchById id)
  fetchPage f o limit offset := behindNext ((Memory.store storedAt).fetchPage f o limit offset)
  count f := behindNext ((Memory.store storedAt).count f)
  countByCategory r := behindNext ((Memory.store storedAt).countByCategory r)
  dailyCounts r limit := behindNext ((Memory.store storedAt).dailyCounts r limit)
  topEventTypes r limit := behindNext ((Memory.store storedAt).topEventTypes r limit)
  topActors r limit := behindNext ((Memory.store storedAt).topActors r limit)

/-- The ledger over a memory to which others write. -/
def ledger (limits : Limits) (storedAt : Instant) : Ledger (StateM BusyMemory) :=
  ⟨store storedAt, limits⟩

theorem run_count (limits : Limits) (storedAt : Instant) (f : Filter) (b : BusyMemory) :
    ((ledger limits storedAt).store.count f).run b =
      (.ok (b.next.memory.count f : Int), b.next) := rfl

theorem run_fetchPage (limits : Limits) (storedAt : Instant) (f : Filter) (o : RecordOrder)
    (limit offset : Int) (b : BusyMemory) :
    ((ledger limits storedAt).store.fetchPage f o limit offset).run b =
      (.ok (b.next.memory.page f o limit offset), b.next) := rfl

/-- The one comes before the other: its records stand in front, in the same order. -/
structure Before (b later : BusyMemory) : Prop where
  grown : b.memory.records <+: later.memory.records
  numbered : b.memory.Numbered → later.memory.Numbered

theorem Before.refl (b : BusyMemory) : b.Before b := ⟨List.prefix_rfl, id⟩

theorem Before.trans {a b c : BusyMemory} (h1 : a.Before b) (h2 : b.Before c) : a.Before c :=
  ⟨h1.grown.trans h2.grown, h2.numbered ∘ h1.numbered⟩

theorem before_next (b : BusyMemory) : b.Before b.next :=
  ⟨b.memory.prefix_written _, fun hb => hb.written _⟩

theorem Before.admitted {b later : BusyMemory} (h : b.Before later) (f : Filter) :
    b.memory.admitted f <+: later.memory.admitted f := h.grown.filter _

/-- What a page tells: its items are of the memory behind it, and its total is of a moment
before. -/
structure PageRead (f : Filter) (p : PageRequest) (b : BusyMemory) (found : Page Record)
    (later : BusyMemory) : Prop where
  before : b.Before later
  items : b.memory.Numbered → found.items =
    ((later.memory.admitted f).drop ((p.page - 1) * p.pageSize)).take p.pageSize
  total : ∃ total, found.info = .of p total ∧ (b.memory.admitted f).length ≤ total ∧
    total ≤ (later.memory.admitted f).length

/-- **Counting and fetching, with batches arriving in front of both.** -/
theorem run_query (b : BusyMemory) {limits : Limits} {f : Filter} {p : PageRequest}
    (hp : p.violations limits.maxPageSize = []) (hf : f.violations = [])
    (hplace : (p.page - 1) * p.pageSize < Nat.pow 2 63) (storedAt : Instant) :
    ∃ found later, ((ledger limits storedAt).query f p .causal).run b = (.ok (some found), later) ∧
      PageRead f p b found later := by
  have h1 := b.before_next
  rw [Ledger.run_query _ b f p .causal hp hf, run_count, PageRequest.offset?_eq_some hplace]
  dsimp only
  by_cases ho : (((p.page - 1) * p.pageSize : Nat) : Int) < (b.next.memory.count f : Int)
  · have h2 := b.next.before_next
    rw [if_pos ho, run_fetchPage]
    refine ⟨_, _, rfl, h1.trans h2, fun hb => ?_, _, rfl, (h1.admitted f).length_le, ?_⟩
    · exact (h2.numbered (h1.numbered hb)).page_causal f p.limit _
    · exact (h2.admitted f).length_le
  · rw [if_neg ho]
    refine ⟨_, _, rfl, h1, fun _ => ?_, _, rfl, (h1.admitted f).length_le, Nat.le_refl _⟩
    have h2 : (b.next.memory.admitted f).length ≤ (p.page - 1) * p.pageSize := by
      unfold Memory.count at ho
      omega
    rw [List.drop_of_length_le h2, List.take_nil]

theorem before_query (b : BusyMemory) (limits : Limits) (storedAt : Instant) (f : Filter)
    (p : PageRequest) : b.Before (((ledger limits storedAt).query f p .causal).run b).2 := by
  by_cases hp : p.violations limits.maxPageSize = []
  · by_cases hf : f.violations = []
    · rw [Ledger.run_query _ b f p .causal hp hf, run_count]
      dsimp only
      cases p.offset? with
      | none => exact b.before_next
      | some offset =>
        dsimp only
        split
        · rw [run_fetchPage]
          exact b.before_next.trans b.next.before_next
        · exact b.before_next
    · rw [Ledger.run_query_refused _ b f p .causal hp hf]
      exact Before.refl b
  · rw [Ledger.run_query_misplaced _ b f p .causal hp]
    exact Before.refl b

end BusyMemory

end EventLedger
