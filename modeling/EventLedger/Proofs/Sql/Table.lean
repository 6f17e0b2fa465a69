import EventLedger.Proofs.Sql.Inquiry
import EventLedger.Proofs.Text.ByteOrder

/-!
# What a table answers

A table holds a value in every column of a row. A condition on a row may be true, false or unknown, and
only the rows of which all conditions are true are selected. They are put in order, in any way where
the keys leave it open, and the limits cut a part out of them.

* `Dialect`: what the standard leaves to the database;
* `Condition.truth`, `selects`: conditions on a row;
* `compareRows`, `Listed`: rows in order;
* `Inquiry.Answer`, **`Replies`**: the answers to an inquiry and to a statement;
* **`selects_iff`**, `truth_oneOf`: when a row is selected.
-/

namespace EventLedger.Sql

/-- What each column of a row holds. -/
abbrev Tuple := Column → Value

/-- What a database brings along: how its language puts texts in order, and how a search with a pattern
goes through a row. -/
structure Dialect where
  collate : String → String → Ordering
  search : String → Tuple → Option Bool

/-! ## Conditions -/

/-- Both hold; a false one decides, and otherwise an unknown one leaves it open. -/
def both : Option Bool → Option Bool → Option Bool
  | some true, b => b
  | some false, _ => some false
  | none, some false => some false
  | none, _ => none

/-- One of the two holds; a true one decides, and otherwise an unknown one leaves it open. -/
def either : Option Bool → Option Bool → Option Bool
  | some false, b => b
  | some true, _ => some true
  | none, some true => some true
  | none, _ => none

/-- A value is a text; of nothing this is unknown. -/
def Value.isText (s : String) (v : Value) : Option Bool := v.text?.map (· == s)

/-- The count of a time. -/
def Value.timestamp? : Value → Option Int
  | .timestamp t => some t
  | _ => none

/-- What is known of a condition on a row. -/
def Condition.truth (d : Dialect) (t : Tuple) : Condition → Option Bool
  | .oneOf c ss => ss.foldr (fun s b => either ((t c).isText s) b) (some false)
  | .equals c s => (t c).isText s
  | .like c p => (t c).text?.map fun s => Pattern.likes p.toList s.toList
  | .atLeast c n => (t c).timestamp?.map (decide <| n ≤ ·)
  | .atMost c n => (t c).timestamp?.map (decide <| · ≤ n)
  | .mentions p => d.search p t

/-- What is known of conditions in a row, each behind an `AND`. -/
def truthOf (d : Dialect) (t : Tuple) (cs : List Condition) : Option Bool :=
  cs.foldl (fun b c => both b (c.truth d t)) (some true)

/-- A row is selected if the conditions are known to hold. -/
def selects (d : Dialect) (cs : List Condition) (t : Tuple) : Bool := truthOf d t cs == some true

theorem both_eq_true {a b : Option Bool} : both a b = some true ↔ a = some true ∧ b = some true := by
  rcases a with - | - | - <;> rcases b with - | - | - <;> simp [both]

theorem either_eq_true {a b : Option Bool} :
    either a b = some true ↔ a = some true ∨ b = some true := by
  rcases a with - | - | - <;> rcases b with - | - | - <;> simp [either]

theorem foldl_both {d : Dialect} {t : Tuple} (cs : List Condition) (b : Option Bool) :
    cs.foldl (fun b c => both b (c.truth d t)) b = some true ↔
      b = some true ∧ ∀ c ∈ cs, c.truth d t = some true := by
  induction cs generalizing b with
  | nil => simp
  | cons c cs ih => simp [ih, both_eq_true, and_assoc]

/-- **A row is selected** exactly if every condition is known to hold. -/
theorem selects_iff {d : Dialect} {cs : List Condition} {t : Tuple} :
    selects d cs t = true ↔ ∀ c ∈ cs, c.truth d t = some true := by
  simp [selects, truthOf, foldl_both]

theorem truth_oneOf {d : Dialect} {t : Tuple} {c : Column} {s : String} (h : t c = .text s)
    (ss : List String) : (Condition.oneOf c ss).truth d t = some true ↔ s ∈ ss := by
  simp only [Condition.truth, h, Value.isText, Value.text?, Option.map_some]
  induction ss with
  | nil => simp
  | cons r rs ih => simp [either_eq_true, ih]

/-! ## Rows in order -/

/-- How the values of a key are ordered. Values of kinds that no key of the ledger holds are left in
any order. -/
def compareValues (d : Dialect) (bytewise : Bool) : Value → Value → Ordering
  | .text a, .text b => if bytewise then Utf8.compareBytes a b else d.collate a b
  | .timestamp a, .timestamp b => compareOfLessAndEq a b
  | .int a, .int b => compareOfLessAndEq a b
  | _, _ => .eq

/-- How two rows are ordered by keys, the first one that differs deciding. -/
def compareRows (d : Dialect) (ks : List Key) (t u : Tuple) : Ordering :=
  ks.foldr (fun k o =>
    (k.direction.apply (compareValues d k.bytewise (t k.column) (u k.column))).then o) .eq

/-- The selected rows of a table, in an order that the keys admit. -/
structure Listed (d : Dialect) (q : Inquiry) (table listed : List Tuple) : Prop where
  perm : listed.Perm (table.filter (selects d q.conditions))
  ordered : listed.Pairwise fun t u => (compareRows d q.keys t u).isLE = true

/-! ## Answers -/

/-- The part of rows within limits; a negative limit is refused. -/
def window {α : Type} (limits : Option (Int × Int)) (rows : List α) : Option (List α) :=
  match limits with
  | none => some rows
  | some (limit, offset) =>
    if limit < 0 ∨ offset < 0 then none else some ((rows.drop offset.toNat).take limit.toNat)

/-- What is wanted of a row. -/
def projected (cs : List Column) (t : Tuple) : Row := cs.map fun c => (c.name, t c)

/-- The rows of an answer, made of the selected rows in order. -/
def Inquiry.rows (q : Inquiry) (listed : List Tuple) : Option (List Row) :=
  match q.wanted with
  | .columns cs => window q.limits (listed.map (projected cs))
  | .count => window q.limits [[("count", .int listed.length)]]

/-- A table may give this answer. -/
def Inquiry.Answer (d : Dialect) (q : Inquiry) (table : List Tuple) (rows : List Row) : Prop :=
  ∃ listed, Listed d q table listed ∧ q.rows listed = some rows

/-- **A database may give these rows** for the text of a statement and the values beside it. -/
def Replies (d : Dialect) (table : List Tuple) (s : Statement) (rows : List Row) : Prop :=
  ∃ q, understood s.text s.values = some q ∧ q.Answer d table rows

/-! ## Records in a table -/

/-- What each column holds for a record. -/
def recordTuple (r : Record) : Tuple
  | .id => .uuid r.id
  | .sequenceNumber => .int r.sequenceNumber
  | .eventType => .text r.eventType
  | .category => .text r.category
  | .occurredAt => .ofInstant r.timestamp
  | .storedAt => .ofInstant r.storedAt
  | .correlationId => .text r.correlationId
  | .causationId => .ofText? r.causationId
  | .actorType => .text r.actor.kind.word
  | .actorId => .text r.actor.id
  | .resourceType => .text r.resource.kind
  | .resourceId => .text r.resource.id
  | .action => .text r.action
  | .reason => .ofText? r.reason
  | .description => .ofText? r.description
  | .sourceService => .text r.sourceService
  | .payload => .json r.payload
  | .metadata => .json (.obj r.metadata)
  | .stateChange => (r.stateChange.map fun c => Value.json c.toJson).getD .null
  | .retentionClass => .text r.retention.word
  | .containsPii => .bool r.containsPii
  | .checksum => .text r.checksum

theorem recordTuple_inserted (r : Record) :
    ∀ p ∈ insertedValues r.toSealedEntry, recordTuple r p.1 = p.2 := by
  simp only [insertedValues, List.forall_mem_cons, List.not_mem_nil, false_implies, implies_true,
    and_true]
  exact ⟨rfl, rfl, rfl, rfl, rfl, rfl, rfl, rfl, rfl, rfl, rfl, rfl, rfl, rfl, rfl, rfl, rfl, rfl, rfl,
    rfl⟩

end EventLedger.Sql
