import EventLedger.Audit.Canonical
import EventLedger.Audit.Store

/-!
# Records in memory

The records are a list in the order of storing, and a counter holds the sequence number of the last
one.

* `Memory`, `Memory.append`: the records, and writing to them;
* `Memory.page`, `Memory.count` and the other readers;
* `Memory.store`: the operations of a store.
-/

namespace EventLedger

/-- Stored records and the last sequence number. -/
structure Memory where
  records : List Record
  lastSequence : Int

namespace Memory

/-- No record yet. -/
def empty : Memory := ⟨[], 0⟩

/-- The first id that occurs among `seen` or earlier in the list. -/
def firstRepeated (seen : List Uuid) : List Uuid → Option Uuid
  | [] => none
  | id :: rest => if seen.contains id then some id else firstRepeated (id :: seen) rest

/-- Entries with consecutive sequence numbers behind `last`. -/
def numbered (storedAt : Instant) : (last : Int) → List SealedEntry → List Record
  | _, [] => []
  | last, e :: rest => e.stored (last + 1) storedAt :: numbered storedAt (last + 1) rest

/-- The failure about an id that is there already. -/
def repeatedId (id : Uuid) : StorageError :=
  ⟨.constraint, "duplicate audit record id " ++ id.text⟩

/-- All entries written, or none if an id is repeated. -/
def append (storedAt : Instant) (entries : List SealedEntry) (memory : Memory) :
    Except StorageError (List Record) × Memory :=
  match firstRepeated (memory.records.map (·.id)) (entries.map (·.id)) with
  | some id => (.error (repeatedId id), memory)
  | none =>
    let added := numbered storedAt memory.lastSequence entries
    (.ok added, ⟨memory.records ++ added, memory.lastSequence + entries.length⟩)

/-- The record of an id. -/
def find? (id : Uuid) (memory : Memory) : Option Record := memory.records.find? (·.id == id)

/-- The records that a filter admits. -/
def admitted (f : Filter) (memory : Memory) : List Record := memory.records.filter f.admits

/-- A part of the admitted records in order; negative numbers count as zero. -/
def page (f : Filter) (o : RecordOrder) (limit offset : Int) (memory : Memory) : List Record :=
  ((o.sort (memory.admitted f)).drop offset.toNat).take limit.toNat

/-- The number of admitted records. -/
def count (f : Filter) (memory : Memory) : Nat := (memory.admitted f).length

/-- The records of a range of time. -/
def inRange (r : DateRange) (memory : Memory) : List Record := memory.admitted (.within r)

/-- The categories of a range with their counts. -/
def categories (r : DateRange) (memory : Memory) : List (String × Nat) :=
  ranking compareTexts ((memory.inRange r).map (·.category))

/-- The latest days of a range with their counts. -/
def days (r : DateRange) (limit : Nat) (memory : Memory) : List (Date × Nat) :=
  (recentDays limit ((memory.inRange r).map (·.timestamp.dayNumber))).map fun (day, n) =>
    (Date.ofDayNumber day, n)

/-- The most frequent event types of a range. -/
def eventTypes (r : DateRange) (limit : Nat) (memory : Memory) : List (String × Nat) :=
  (ranking compareTexts ((memory.inRange r).map (·.eventType))).take limit

/-- The most frequent actors of a range. -/
def actors (r : DateRange) (limit : Nat) (memory : Memory) : List (Actor × Nat) :=
  (ranking compareActors ((memory.inRange r).map (·.actor))).take limit

/-- An answer that leaves the memory as it is. -/
def answer {α : Type} (read : Memory → α) : ExceptT StorageError (StateM Memory) α :=
  .mk fun memory => (.ok (read memory), memory)

/-- The store of these records; what is written at `storedAt` bears that instant. -/
def store (storedAt : Instant) : Store (StateM Memory) where
  append entries := .mk (append storedAt entries)
  fetchById id := answer (find? id)
  fetchPage f o limit offset := answer (page f o limit offset)
  count f := answer fun memory => (memory.count f : Int)
  countByCategory r := answer fun memory => signedCounts (memory.categories r)
  dailyCounts r limit := answer fun memory => signedCounts (memory.days r limit)
  topEventTypes r limit := answer fun memory => signedCounts (memory.eventTypes r limit)
  topActors r limit := answer fun memory => signedCounts (memory.actors r limit)

end Memory

end EventLedger
