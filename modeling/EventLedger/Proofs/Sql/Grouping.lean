import EventLedger.Proofs.Audit.Counting
import EventLedger.Proofs.Sql.Binding
import EventLedger.Proofs.Sql.Table

/-!
# Rows in groups

A statement may ask for rows in groups: how many there are of each, in an order of counts and keys, and
no more of them than a limit. The text of the statement tells the columns, the keys and where the values
stand that were bound.

* `Grouping`, `readGrouping`: what is asked for;
* **`grouped_actorCounting`**: the statement that counts actors;
* `Grouping.Answer`, **`RepliesGrouped`**: the answers to a grouping and to a statement.
-/

namespace EventLedger.Sql

/-! ## What is asked for -/

/-- What a statement asks for that counts rows in groups. -/
structure Grouping where
  /-- What the rows of a group have in common. -/
  columns : List Column
  conditions : List Condition
  /-- The direction of the counts, which go in front of the keys. -/
  counted : Direction
  keys : List Key
  limit : Int

section Reading

variable (vs : List Value)

/-- A count behind the columns, and what is behind it. -/
def readCounted : List Token → Option (List Token)
  | .COMMA :: .COUNT :: .OPEN :: .STAR :: .CLOSE :: .other "AS" :: .other "count" :: ts => some ts
  | _ => none

/-- From one time to another, and what is behind it. -/
def readBetween : List Token → Option (List Condition × List Token)
  | .column c :: .other "BETWEEN" :: .place m :: .AND :: .place n :: ts => do
    let first ← timestampAt vs m
    let last ← timestampAt vs n
    some ([.atLeast c first, .atMost c last], ts)
  | _ => none

/-- The columns that make groups, and what is behind them. -/
def readGroups : List Token → Option (List Column × List Token)
  | .other "GROUP" :: .BY :: .column c :: ts => some (c :: (readColumns ts).1, (readColumns ts).2)
  | _ => none

/-- The order of groups, and what is behind it. -/
def readRanking : List Token → Option (Direction × List Key × List Token)
  | .ORDER :: .BY :: .other "count" :: d :: .COMMA :: ts => do
    let counted ← direction? d
    let (keys, ts) ← readKeys ts
    some (counted, keys, ts)
  | _ => none

/-- A grouping of the tokens of a statement. The rows of its answer hold the columns that make the
groups, and these alone put them in order. -/
def readGrouping (ts : List Token) : Option Grouping := do
  let (.columns selected, ts) ← readWanted ts | none
  let .FROM :: .RECORDS :: .WHERE :: ts ← readCounted ts | none
  let (conditions, ts) ← readBetween vs ts
  let (columns, ts) ← readGroups ts
  let (counted, keys, ts) ← readRanking ts
  let [.LIMIT, .place n] := ts | none
  let limit ← intAt vs n
  if columns = selected ∧ ∀ k ∈ keys, k.column ∈ columns then
    some ⟨columns, conditions, counted, keys, limit⟩
  else none

end Reading

/-- What a database understands of a grouping from the text and the values beside it. -/
def grouped (text : String) (vs : List Value) : Option Grouping := readGrouping vs (tokens text)

/-- The conditions of a range of times. -/
def rangeConditions (r : DateRange) : List Condition :=
  [.atLeast .occurredAt r.start.linearMicroseconds, .atMost .occurredAt r.finish.linearMicroseconds]

/-- The actors of a range, the most frequent first. -/
def actorGrouping (r : DateRange) (limit : Int) : Grouping where
  columns := [.actorId, .actorType]
  conditions := rangeConditions r
  counted := .descending
  keys := [⟨.actorId, true, .ascending⟩, ⟨.actorType, false, .ascending⟩]
  limit

theorem text_grouping (selected groups order : String) (r s : DateRange) (m n : Nat) :
    (grouping selected groups order r (some m)).text =
      (grouping selected groups order s (some n)).text :=
  textFrom_congr (by simp [grouping, rangeClause, Statement.holes]) 1

theorem tokens_actorCounting (r : DateRange) (limit : Nat) :
    tokens (actorCounting r limit).text = [
      .SELECT, .column .actorId, .COMMA, .column .actorType, .COMMA, .COUNT, .OPEN, .STAR, .CLOSE,
      .other "AS", .other "count", .FROM, .RECORDS, .WHERE, .column .occurredAt, .other "BETWEEN",
      .place 1, .AND, .place 2, .other "GROUP", .BY, .column .actorId, .COMMA, .column .actorType,
      .ORDER, .BY, .other "count", .DESC, .COMMA, .column .actorId, .COLLATE, .BYTES, .ASC, .COMMA,
      .column .actorType, .ASC, .LIMIT, .place 3] := by
  rw [actorCounting, text_grouping _ _ _ r ⟨.epoch, .epoch⟩ limit 0]
  decide +kernel

theorem readRanking_actors (rest : List Token) (hr : rest.head? ≠ some .COMMA) :
    readRanking (.ORDER :: .BY :: .other "count" :: .DESC :: .COMMA :: .column .actorId ::
      .COLLATE :: .BYTES :: .ASC :: .COMMA :: .column .actorType :: .ASC :: rest) =
      some (.descending, [⟨.actorId, true, .ascending⟩, ⟨.actorType, false, .ascending⟩], rest) := by
  have hkeys : readKeys (.column .actorId :: .COLLATE :: .BYTES :: .ASC :: .COMMA ::
      .column .actorType :: .ASC :: rest) =
      some ([⟨.actorId, true, .ascending⟩, ⟨.actorType, false, .ascending⟩], rest) := by
    rw [readKeys_cons (k := ⟨.actorId, true, .ascending⟩) rfl,
      readKeys_end (k := ⟨.actorType, false, .ascending⟩) rfl hr]
    rfl
  simp [readRanking, direction?, hkeys]

/-- **The statement that counts actors is understood** as a grouping of the range by the ids and the
kinds of the actors, with the values that were bound. -/
theorem grouped_actorCounting (r : DateRange) (limit : Nat) :
    grouped (actorCounting r limit).text (actorCounting r limit).values =
      some (actorGrouping r (Int.bmod limit (Nat.pow 2 64))) := by
  have hvalues : (actorCounting r limit).values =
      [.ofInstant r.start, .ofInstant r.finish, .int (Int.bmod limit (Nat.pow 2 64))] := rfl
  rw [grouped, tokens_actorCounting, hvalues]
  generalize Int.bmod limit (Nat.pow 2 64) = bound
  have hstart : timestampAt [.ofInstant r.start, .ofInstant r.finish, .int bound] 1 =
    some r.start.linearMicroseconds := rfl
  have hfinish : timestampAt [.ofInstant r.start, .ofInstant r.finish, .int bound] 2 =
    some r.finish.linearMicroseconds := rfl
  have hbound : intAt [.ofInstant r.start, .ofInstant r.finish, .int bound] 3 = some bound := rfl
  simp only [readGrouping, readWanted, readColumns, readCounted, readBetween, hstart, hfinish,
    readGroups, Option.bind_eq_bind, Option.bind_some]
  rw [readRanking_actors _ (by simp)]
  simp [hbound, actorGrouping, rangeConditions]

/-! ## Answers -/

/-- The texts that columns hold in a row, if they hold texts. -/
def textsOf (cs : List Column) (t : Tuple) : Option (List String) := cs.mapM fun c => (t c).text?

/-- What the columns that make a group hold in its rows. -/
def groupTuple (cs : List Column) (group : List String) : Tuple := fun c =>
  .ofText? ((cs.zip group).lookup c)

namespace Grouping

/-- How two groups with their counts are ordered. -/
def compare (d : Dialect) (q : Grouping) (a b : List String × Nat) : Ordering :=
  (q.counted.apply (compareOfLessAndEq a.2 b.2)).then
    (compareRows d q.keys (groupTuple q.columns a.1) (groupTuple q.columns b.1))

/-- What an answer holds of a group. -/
def row (q : Grouping) (group : List String × Nat) : Row :=
  projected q.columns (groupTuple q.columns group.1) ++ [("count", .int group.2)]

/-- A table may give this answer: each group of its selected rows once, with its count, in an order that
counts and keys admit. Only texts make groups. -/
def Answer (d : Dialect) (q : Grouping) (table : List Tuple) (rows : List Row) : Prop :=
  ∃ groups ranked,
    (table.filter (selects d q.conditions)).mapM (textsOf q.columns) = some groups ∧
    Enumerates (fun a b => (q.compare d a b).isLE = true) groups ranked ∧
    window (some (q.limit, 0)) (ranked.map q.row) = some rows

end Grouping

/-- **A database may give these rows** for the text of a grouping and the values beside it. -/
def RepliesGrouped (d : Dialect) (table : List Tuple) (s : Statement) (rows : List Row) : Prop :=
  ∃ q, grouped s.text s.values = some q ∧ q.Answer d table rows

end EventLedger.Sql
