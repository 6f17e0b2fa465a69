import EventLedger.Proofs.Audit.Exactness
import EventLedger.Proofs.Sql.Agreement
import EventLedger.Proofs.Sql.Grouping
import Mathlib.Data.List.Pairwise

/-!
# The most frequent actors in a table and in memory

Both stores rank actors by count and then by id. Actors of one id that are equally frequent differ in
their kinds, and there the ways part: the memory goes by the rank of a kind, the table by its word, in
the order of its language. Within a limit this decides who is named at all.

* `ranking_unique`, `map_ranking_eq`: a ranking, and as much of it as the first keys tell;
* `Memory.counted`, `Dialect.compareActors`: records and actors as a table has them;
* **`repliesGrouped_actorCounting`**, `readActorCount_actorRow`: the answer, and how it is read;
* **`actor_rankings_agree_iff`**, `admin_before_user_in_table`.
-/

namespace EventLedger

/-! ## Rankings -/

section Rankings

variable {κ : Type} [DecidableEq κ] {compareKeys : κ → κ → Ordering} [Std.TransCmp compareKeys]
  [Std.LawfulEqCmp compareKeys] {values : List κ} {rows : List (κ × Nat)}

theorem enumerates_ranking (compareKeys : κ → κ → Ordering) [Std.TransCmp compareKeys]
    [Std.LawfulEqCmp compareKeys] (values : List κ) :
    Enumerates (Above fun j k => compareKeys j k = .lt) values (ranking compareKeys values) :=
  (counts_tally values).enumerates_rank fun _ _ h => h

omit [DecidableEq κ] [Std.TransCmp compareKeys] [Std.LawfulEqCmp compareKeys] in
theorem ranksBefore_of_above {a b : κ × Nat} (h : Above (fun j k => compareKeys j k = .lt) a b) :
    ranksBefore compareKeys a b = true := by
  rw [ranksBefore_iff]
  exact h.imp_right fun ⟨heq, hlt⟩ => ⟨heq, by rw [hlt]; rfl⟩

omit [DecidableEq κ] in
theorem ranksBefore_antisymm {a b : κ × Nat} (hab : ranksBefore compareKeys a b = true)
    (hba : ranksBefore compareKeys b a = true) : a = b := by
  rw [ranksBefore_iff] at hab hba
  obtain ⟨hcount, hab⟩ := hab.resolve_left fun hlt => by omega
  obtain ⟨-, hba⟩ := hba.resolve_left fun hlt => by omega
  have hkeys : a.1 = b.1 := Std.LawfulEqCmp.eq_of_compare (Std.OrientedCmp.isLE_antisymm hab hba)
  exact Prod.ext hkeys hcount.symm

theorem ranking_unique (h : Counts values rows)
    (hranked : rows.Pairwise fun a b => ranksBefore compareKeys a b = true) :
    rows = ranking compareKeys values := by
  have hranking := enumerates_ranking compareKeys values
  exact (h.perm_rows hranking.toCounts (.refl _)).eq_of_pairwise
    (fun a b _ _ => ranksBefore_antisymm) hranked (hranking.ordered.imp ranksBefore_of_above)

theorem Enumerates.other_of_before {before other : κ × Nat → κ × Nat → Prop}
    (h : Enumerates before values rows) (ho : Enumerates other values rows)
    (hasymm : ∀ a b, before a b → ¬ before b a) {a b : κ × Nat} (ha : a ∈ rows) (hb : b ∈ rows)
    (hab : before a b) : other a b := by
  have hsymm : Std.Symm fun a b => (before a b → other a b) ∧ (before b a → other b a) :=
    ⟨fun _ _ => And.symm⟩
  have hself : ∀ a ∈ rows, (before a a → other a a) ∧ (before a a → other a a) := fun a _ =>
    ⟨fun haa => absurd haa (hasymm a a haa), fun haa => absurd haa (hasymm a a haa)⟩
  have hrows : rows.Pairwise fun a b => (before a b → other a b) ∧ (before b a → other b a) :=
    (h.ordered.and ho.ordered).imp fun {a b} ⟨hab, hab'⟩ =>
      ⟨fun _ => hab', fun hba => absurd hba (hasymm a b hab)⟩
  exact (hrows.forall_of_forall hself ha hb).1 hab

variable {otherKeys : κ → κ → Ordering} [Std.TransCmp otherKeys] [Std.LawfulEqCmp otherKeys]

omit [DecidableEq κ] [Std.LawfulEqCmp compareKeys] in
theorem above_asymm (a b : κ × Nat) : Above (fun j k => compareKeys j k = .lt) a b →
    ¬ Above (fun j k => compareKeys j k = .lt) b a :=
  Above.asymm (fun j k hlt hback => by
    rw [Std.OrientedCmp.gt_of_lt hlt] at hback
    cases hback) a b

/-- **Two rankings are the same** exactly if they agree on the values that are equally frequent. -/
theorem ranking_eq_iff :
    ranking compareKeys values = ranking otherKeys values ↔
      ∀ j ∈ values, ∀ k ∈ values, values.count j = values.count k →
        compareKeys j k = .lt → otherKeys j k = .lt := by
  have hranking := enumerates_ranking compareKeys values
  have hother := enumerates_ranking otherKeys values
  constructor
  · intro h j hj k hk hcount hlt
    rw [← h] at hother
    have habove := hranking.other_of_before hother above_asymm ((hranking.exact j _).mpr ⟨hj, rfl⟩)
      ((hranking.exact k _).mpr ⟨hk, rfl⟩) (.inr ⟨hcount.symm, hlt⟩)
    exact (habove.resolve_left (by simp [hcount])).2
  · intro h
    refine ranking_unique hranking.toCounts (hranking.ordered.imp_of_mem fun {a b} ha hb hab => ?_)
    refine ranksBefore_of_above (hab.imp_right fun ⟨heq, hlt⟩ => ⟨heq, ?_⟩)
    obtain ⟨hka, hna⟩ := (hranking.exact a.1 a.2).mp ha
    obtain ⟨hkb, hnb⟩ := (hranking.exact b.1 b.2).mp hb
    exact h a.1 hka b.1 hkb (by omega) hlt

theorem map_ranking_eq {ι : Type} {first : ι → ι → Ordering} [Std.TransCmp first]
    [Std.LawfulEqCmp first] {f : κ → ι}
    (h : ∀ j k, compareKeys j k = .lt → (first (f j) (f k)).isLE = true)
    (ho : ∀ j k, otherKeys j k = .lt → (first (f j) (f k)).isLE = true) :
    (ranking compareKeys values).map (fun row => (f row.1, row.2)) =
      (ranking otherKeys values).map fun row => (f row.1, row.2) := by
  have hranking := enumerates_ranking compareKeys values
  have hother := enumerates_ranking otherKeys values
  have hperm := hranking.toCounts.perm_rows hother.toCounts (.refl _)
  have hranked : ((ranking compareKeys values).map fun row => (f row.1, row.2)).Pairwise
      fun a b => ranksBefore first a b = true :=
    List.pairwise_map.mpr (hranking.ordered.imp fun {a b} hab =>
      (ranksBefore_iff _ _).mpr (hab.imp_right (And.imp_right (h a.1 b.1))))
  have hranked' : ((ranking otherKeys values).map fun row => (f row.1, row.2)).Pairwise
      fun a b => ranksBefore first a b = true :=
    List.pairwise_map.mpr (hother.ordered.imp fun {a b} hab =>
      (ranksBefore_iff _ _).mpr (hab.imp_right (And.imp_right (ho a.1 b.1))))
  exact (hperm.map _).eq_of_pairwise (fun a b _ _ => ranksBefore_antisymm) hranked hranked'

end Rankings

/-! ## Records and actors in a table -/

/-- The range with its bounds counted in microseconds. -/
def DateRange.counted (r : DateRange) : DateRange := ⟨r.start.counted, r.finish.counted⟩

/-- The record with its time counted in microseconds, as a table has it. -/
def Record.counted (r : Record) : Record := { r with timestamp := r.timestamp.counted }

/-- The memory with the times of its records counted in microseconds. -/
def Memory.counted (m : Memory) : Memory := { m with records := m.records.map Record.counted }

theorem Instant.Countable.counted_eq {t : Instant} (h : t.Countable) : t.counted = t := h.ofLinear_eq

theorem DateRange.counted_eq {r : DateRange} (hstart : r.start.Countable)
    (hfinish : r.finish.Countable) : r.counted = r := by
  rw [DateRange.counted, hstart.counted_eq, hfinish.counted_eq]

theorem Memory.counted_eq {m : Memory} (h : ∀ r ∈ m.records, r.timestamp.Countable) :
    m.counted = m := by
  have hrecords : m.records.map Record.counted = m.records.map id :=
    List.map_congr_left fun r hr => by rw [Record.counted, (h r hr).counted_eq, id]
  rw [Memory.counted, hrecords, List.map_id]

theorem Memory.countable_counted (m : Memory) : ∀ r ∈ m.counted.records, r.timestamp.Countable := by
  rw [Memory.counted]
  intro r hr
  obtain ⟨r, -, rfl⟩ := List.mem_map.mp hr
  exact Instant.countable_ofLinear _

namespace Sql

/-- Actors in the order of their ids, and under one id as the words for their kinds are ordered. -/
def Dialect.compareActors (d : Dialect) (a b : Actor) : Ordering :=
  (compareTexts a.id b.id).then (d.collate a.kind.word b.kind.word)

section Dialect

variable (d : Dialect) [Std.TransCmp d.collate] [Std.LawfulEqCmp d.collate]

instance transCmp_compareWords :
    Std.TransCmp fun a b : Actor => d.collate a.kind.word b.kind.word where
  eq_swap := Std.OrientedCmp.eq_swap
  isLE_trans := Std.TransCmp.isLE_trans

omit [Std.TransCmp d.collate] [Std.LawfulEqCmp d.collate] in
theorem dialect_compareActors_eq :
    d.compareActors =
      compareLex (compareOn Actor.id) fun a b : Actor => d.collate a.kind.word b.kind.word := rfl

instance transCmp_dialect_compareActors : Std.TransCmp d.compareActors := by
  rw [dialect_compareActors_eq]
  infer_instance

instance lawfulEqCmp_dialect_compareActors : Std.LawfulEqCmp d.compareActors where
  compare_self := by simp [Dialect.compareActors]
  eq_of_compare {a b} h := by
    rw [Dialect.compareActors, Ordering.then_eq_eq] at h
    have hid : a.id = b.id := Std.LawfulEqCmp.eq_of_compare h.1
    have hkind : a.kind = b.kind := ActorKind.word_injective (Std.LawfulEqCmp.eq_of_compare h.2)
    obtain ⟨kind, id⟩ := a
    obtain ⟨kind', id'⟩ := b
    exact Actor.mk.injEq .. ▸ ⟨hkind, hid⟩

end Dialect

/-- The texts of an actor in the columns that make the groups. -/
def actorTexts (a : Actor) : List String := [a.id, a.kind.word]

theorem actorTexts_injective : Function.Injective actorTexts := by
  rintro ⟨kind, id⟩ ⟨kind', id'⟩ h
  simp only [actorTexts, List.cons.injEq, and_true] at h
  rw [h.1, ActorKind.word_injective h.2]

theorem compare_actorTexts (d : Dialect) (range : DateRange) (limit : Int) (a b : Actor × Nat) :
    ((actorGrouping range limit).compare d (actorTexts a.1, a.2) (actorTexts b.1, b.2)).isLE =
      ranksBefore d.compareActors a b := by
  have hcount : Direction.descending.apply (compareOfLessAndEq a.2 b.2) =
      compareOfLessAndEq b.2 a.2 := Nat.compare_swap a.2 b.2
  have hkeys : compareRows d (actorGrouping range limit).keys
      (groupTuple [.actorId, .actorType] (actorTexts a.1))
      (groupTuple [.actorId, .actorType] (actorTexts b.1)) = d.compareActors a.1 b.1 := by
    show (Utf8.compareBytes a.1.id b.1.id).then ((d.collate a.1.kind.word b.1.kind.word).then .eq) = _
    rw [Utf8.compareBytes_eq, then_eq]
    rfl
  have hle : ∀ o : Ordering, o.isLE = (o != .gt) := fun o => by cases o <;> rfl
  rw [hle, ranksBefore, ← hcount, ← hkeys]
  rfl

/-- The row of an actor with its count. -/
def actorRow (row : Actor × Nat) : Row := [
  (Column.actorId.name, .text row.1.id), (Column.actorType.name, .text row.1.kind.word),
  ("count", .int row.2)]

section Answers

variable (d : Dialect) [Std.TransCmp d.collate] [Std.LawfulEqCmp d.collate]

/-- **The groups of actors in order** are those of the ranking. -/
theorem enumerates_actorTexts_iff (range : DateRange) (limit : Int) (actors : List Actor)
    (ranked : List (List String × Nat)) :
    Enumerates (fun a b => ((actorGrouping range limit).compare d a b).isLE = true)
        (actors.map actorTexts) ranked ↔
      ranked = (ranking d.compareActors actors).map fun row => (actorTexts row.1, row.2) := by
  have hranking := enumerates_ranking d.compareActors actors
  have hrename := hranking.toCounts.rename actorTexts_injective
  constructor
  · intro h
    obtain ⟨rows, hperm, rfl⟩ := exists_perm_of_map
      (h.toCounts.perm_rows hrename (.refl _))
    refine congrArg _ (ranking_unique (hranking.toCounts.of_perm hperm) ?_)
    refine (List.pairwise_map.mp h.ordered).imp fun hle => ?_
    rwa [compare_actorTexts] at hle
  · rintro rfl
    refine ⟨hrename, List.pairwise_map.mpr (hranking.ordered.imp fun habove => ?_)⟩
    rw [compare_actorTexts]
    exact ranksBefore_of_above habove

theorem recordTuple_counted (r : Record) : recordTuple r.counted = recordTuple r := by
  funext c
  cases c with
  | occurredAt => exact congrArg Value.timestamp (Instant.linear_ofLinear _)
  | _ => rfl

theorem map_recordTuple_counted (memory : Memory) :
    memory.counted.records.map recordTuple = memory.records.map recordTuple := by
  rw [Memory.counted, List.map_map]
  exact List.map_congr_left fun r _ => recordTuple_counted r

theorem mapM_textsOf (rs : List Record) :
    (rs.map recordTuple).mapM (textsOf [.actorId, .actorType]) =
      some ((rs.map (·.actor)).map actorTexts) := by
  rw [List.mapM_map, List.map_map]
  exact List.mapM_pure

theorem answer_actorGrouping (memory : Memory) (range : DateRange) (limit : Int)
    (rows : List Row) :
    (actorGrouping range limit).Answer d (memory.records.map recordTuple) rows ↔
      0 ≤ limit ∧ rows = ((ranking d.compareActors
        ((memory.counted.inRange range.counted).map (·.actor))).take limit.toNat).map actorRow := by
  have hselected : (memory.counted.records.map recordTuple).filter
      (selects d (actorGrouping range limit).conditions) =
      (memory.counted.inRange range.counted).map recordTuple :=
    filter_selects d (f := .within range) rfl memory.countable_counted
  rw [map_recordTuple_counted] at hselected
  have htexts : ((memory.counted.inRange range.counted).map recordTuple).mapM
      (textsOf (actorGrouping range limit).columns) = _ := mapM_textsOf _
  have hrows : ∀ table : List (Actor × Nat), List.map (actorGrouping range limit).row
      (table.map fun row => (actorTexts row.1, row.2)) = table.map actorRow := fun table => by
    rw [List.map_map]
    rfl
  simp only [Grouping.Answer, hselected, htexts, Option.some.injEq, exists_and_left, exists_eq_left',
    enumerates_actorTexts_iff, exists_eq_left, hrows, window]
  have hlimit : (actorGrouping range limit).limit = limit := rfl
  rw [hlimit]
  by_cases h : limit < 0
  · simp [h]
  · have h' : 0 ≤ limit := by omega
    simp [h, h', eq_comm]

/-- **The answer to a ranking of actors.** -/
theorem repliesGrouped_actorCounting (memory : Memory) (range : DateRange) {limit : Nat}
    (hlimit : limit < Nat.pow 2 64) (rows : List Row) :
    RepliesGrouped d (memory.records.map recordTuple) (actorCounting range limit) rows ↔
      limit < Nat.pow 2 63 ∧ rows = ((ranking d.compareActors
        ((memory.counted.inRange range.counted).map (·.actor))).take limit).map actorRow := by
  simp only [RepliesGrouped, grouped_actorCounting, Option.some.injEq, exists_eq_left',
    answer_actorGrouping d]
  have hpow : Nat.pow 2 64 = 18446744073709551616 ∧ Nat.pow 2 63 = 9223372036854775808 := ⟨rfl, rfl⟩
  by_cases h : limit < Nat.pow 2 63
  · have hbound : Int.bmod limit (Nat.pow 2 64) = limit :=
      Int.bmod_eq_of_le_mul_two (by omega) (by omega)
    rw [hbound]
    simp [h]
  · have hbound : Int.bmod limit (Nat.pow 2 64) < 0 := by
      rw [Int.bmod_def, Int.emod_eq_of_lt (by omega) (by omega)]
      split <;> omega
    simp only [h, false_and, iff_false, not_and]
    omega

end Answers

/-! ## Reading the rows -/

theorem readActorCount_actorRow (row : Actor × Nat) :
    readActorCount (actorRow row) = .ok (row.1, (row.2 : Int)) := by
  obtain ⟨⟨kind, id⟩, n⟩ := row
  cases kind <;> rfl

theorem mapM_readActorCount (table : List (Actor × Nat)) :
    (table.map actorRow).mapM readActorCount = .ok (signedCounts table) := by
  rw [List.mapM_map, funext readActorCount_actorRow (f := readActorCount ∘ actorRow)]
  exact List.mapM_pure

/-- **A store over a connection that answers these rows** names the actors in their order. -/
theorem run_topActors {m : Type → Type} [Monad m] [LawfulMonad m] {c : Connection m}
    {range : DateRange} {limit : Nat} {table : List (Actor × Nat)}
    (h : (c.query (actorCounting range limit)).run = pure (.ok (table.map actorRow))) :
    ((store c).topActors range limit).run = pure (.ok (signedCounts table)) := by
  have hquery : (ofDriver (c.query (actorCounting range limit))).run =
      pure (.ok (table.map actorRow)) := by
    show Except.mapError DriverError.storageError <$> (c.query (actorCounting range limit)).run = _
    rw [h, map_pure]
    rfl
  show ((ofDriver (c.query (actorCounting range limit))) >>= fun rows =>
    orThrow (rows.mapM readActorCount)).run = _
  rw [ExceptT.run_bind, hquery, pure_bind]
  simp only [mapM_readActorCount]
  rfl

/-! ## The two stores -/

theorem compareActors_imp_iff (d : Dialect) (a b : Actor) :
    (compareActors a b = .lt → d.compareActors a b = .lt) ↔
      (a.id = b.id → a.kind.rank < b.kind.rank → d.collate a.kind.word b.kind.word = .lt) := by
  have hrank : compareOfLessAndEq a.kind.rank b.kind.rank = .lt ↔ a.kind.rank < b.kind.rank :=
    compareOfLessAndEq_eq_lt
  rw [compareActors, Dialect.compareActors, Ordering.then_eq_lt, Ordering.then_eq_lt, hrank]
  by_cases hid : a.id = b.id
  · have hself : compareTexts b.id b.id = .eq := Std.ReflCmp.compare_self
    simp [hid, hself]
  · have hne : compareTexts a.id b.id ≠ .eq := fun h => hid (Std.LawfulEqCmp.eq_of_compare h)
    simp [hid, hne]

theorem isLE_compareTexts_id (d : Dialect) (a b : Actor) :
    (compareActors a b = .lt → (compareTexts a.id b.id).isLE = true) ∧
      (d.compareActors a b = .lt → (compareTexts a.id b.id).isLE = true) := by
  rw [compareActors, Dialect.compareActors, Ordering.then_eq_lt, Ordering.then_eq_lt]
  cases compareTexts a.id b.id <;> simp

theorem forall_take_eq_iff {α : Type} {as bs : List α} :
    (∀ n, as.take n = bs.take n) ↔ as = bs := by
  refine ⟨fun h => ?_, fun h n => by rw [h]⟩
  have hall := h (max as.length bs.length)
  rwa [List.take_of_length_le (Nat.le_max_left _ _), List.take_of_length_le (Nat.le_max_right _ _)]
    at hall

/-- **The rankings of actors agree** exactly if the kinds of equally frequent actors of one id are in the
order of their ranks by their words as well. Let a table hold the records of a memory, with their times
counted in microseconds. The statement that counts actors has one answer, by count, then by id, and then
by the word for the kind, up to a limit that is a signed number of 64 bits; a greater limit is refused. A
store over a connection that answers so names these actors with these counts. Ids and counts are those
of the memory, place by place, for every limit. Counting moves no time and no bound that is in whole
microseconds and in no leap second. -/
theorem actor_rankings_agree_iff (d : Dialect) [Std.TransCmp d.collate] [Std.LawfulEqCmp d.collate]
    (memory : Memory) (range : DateRange) :
    let actors := (memory.counted.inRange range.counted).map (·.actor)
    let table := ranking d.compareActors actors
    (∀ limit < Nat.pow 2 64, ∀ rows,
      RepliesGrouped d (memory.records.map recordTuple) (actorCounting range limit) rows ↔
        limit < Nat.pow 2 63 ∧ rows = (table.take limit).map actorRow) ∧
    (∀ (m : Type → Type) [Monad m] [LawfulMonad m] (c : Connection m) (limit : Nat),
      (c.query (actorCounting range limit)).run = pure (.ok ((table.take limit).map actorRow)) →
      ((store c).topActors range limit).run = pure (.ok (signedCounts (table.take limit)))) ∧
    (∀ limit, (table.take limit).map (fun row => (row.1.id, row.2)) =
      (memory.counted.actors range.counted limit).map fun row => (row.1.id, row.2)) ∧
    ((∀ limit, table.take limit = memory.counted.actors range.counted limit) ↔
      ∀ a ∈ actors, ∀ b ∈ actors, actors.count a = actors.count b → a.id = b.id →
        a.kind.rank < b.kind.rank → d.collate a.kind.word b.kind.word = .lt) ∧
    ((∀ r ∈ memory.records, r.timestamp.Countable) → memory.counted = memory) ∧
    (range.start.Countable → range.finish.Countable → range.counted = range) := by
  intro actors table
  refine ⟨fun limit hlimit rows => repliesGrouped_actorCounting d memory range hlimit rows,
    fun m _ _ c limit h => run_topActors h, fun limit => ?_, ?_, Memory.counted_eq,
    DateRange.counted_eq⟩
  · have hids : table.map (fun row => (row.1.id, row.2)) =
        (ranking compareActors actors).map fun row => (row.1.id, row.2) :=
      map_ranking_eq (fun a b => (isLE_compareTexts_id d a b).2)
        fun a b => (isLE_compareTexts_id d a b).1
    rw [List.map_take, hids, ← List.map_take]
    rfl
  · have htake : (∀ limit, table.take limit = memory.counted.actors range.counted limit) ↔
        table = ranking compareActors actors := forall_take_eq_iff
    rw [htake, eq_comm, ranking_eq_iff]
    simp only [compareActors_imp_iff]

instance transCmp_plainDialect : Std.TransCmp plainDialect.collate := by
  rw [show plainDialect.collate = compareTexts from funext₂ Utf8.compareBytes_eq]
  infer_instance

instance lawfulEqCmp_plainDialect : Std.LawfulEqCmp plainDialect.collate := by
  rw [show plainDialect.collate = compareTexts from funext₂ Utf8.compareBytes_eq]
  infer_instance

/-- A refund by an actor of this kind, always under the same id. -/
def refundBy (kind : ActorKind) (number : Int) : Record :=
  { refundAt 1709288430 number with actor := ⟨kind, "admin-3"⟩ }

theorem countable_namesakes (j k : ActorKind) :
    ∀ r ∈ [refundBy j 1, refundBy k 2], r.timestamp.Countable :=
  List.forall_mem_cons.mpr ⟨Instant.countable_ofSeconds _,
    List.forall_mem_singleton.mpr (Instant.countable_ofSeconds _)⟩

/-- Agents come before systems by rank and by word. -/
theorem namesakes_ranked_alike :
    let m : Memory := ⟨[refundBy .system 1, refundBy .agent 2], 2⟩
    let range : DateRange := ⟨.ofSeconds 1709288430, .ofSeconds 1709288431⟩
    ∀ limit < Nat.pow 2 63, RepliesGrouped plainDialect (m.records.map recordTuple)
      (actorCounting range limit) ((m.actors range limit).map actorRow) := by
  intro m range limit hlimit
  obtain ⟨hreplies, -, -, hagree, hheld, hcounted⟩ := actor_rankings_agree_iff plainDialect m range
  have hrange : range.counted = range :=
    hcounted (Instant.countable_ofSeconds _) (Instant.countable_ofSeconds _)
  rw [hheld (countable_namesakes .system .agent), hrange] at hreplies hagree
  have hactors : (m.inRange range).map (·.actor) = [⟨.system, "admin-3"⟩, ⟨.agent, "admin-3"⟩] := rfl
  rw [hactors] at hreplies hagree
  have hpow : Nat.pow 2 64 = Nat.pow 2 63 * 2 := rfl
  refine (hreplies limit (by omega) _).mpr ⟨hlimit, ?_⟩
  rw [hagree.mpr (by decide +kernel) limit]

/-- An administrator and a user of one id are equally frequent. Asked for one actor, the table names the
administrator and the memory the user. -/
theorem admin_before_user_in_table :
    let m : Memory := ⟨[refundBy .user 1, refundBy .admin 2], 2⟩
    let range : DateRange := ⟨.ofSeconds 1709288430, .ofSeconds 1709288431⟩
    RepliesGrouped plainDialect (m.records.map recordTuple) (actorCounting range 1)
        [actorRow (⟨.admin, "admin-3"⟩, 1)] ∧
      m.actors range 1 = [(⟨.user, "admin-3"⟩, 1)] := by
  intro m range
  have hheld : m.counted = m := Memory.counted_eq (countable_namesakes .user .admin)
  have hrange : range.counted = range :=
    DateRange.counted_eq (Instant.countable_ofSeconds _) (Instant.countable_ofSeconds _)
  have hactors : (m.inRange range).map (·.actor) = [⟨.user, "admin-3"⟩, ⟨.admin, "admin-3"⟩] := rfl
  have hcounts : Counts [⟨.user, "admin-3"⟩, ⟨.admin, "admin-3"⟩]
      [((⟨.admin, "admin-3"⟩ : Actor), 1), (⟨.user, "admin-3"⟩, 1)] := counts_tally _
  constructor
  · refine (repliesGrouped_actorCounting plainDialect m range (by decide) _).mpr ⟨by decide, ?_⟩
    rw [hheld, hrange, hactors, ← ranking_unique hcounts (List.pairwise_pair.mpr (by decide +kernel))]
    rfl
  · have hswapped := hcounts.of_perm (.swap _ _ _)
    rw [Memory.actors, hactors,
      ← ranking_unique hswapped (List.pairwise_pair.mpr (by decide +kernel))]
    rfl

end Sql

end EventLedger
