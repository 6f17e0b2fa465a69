import EventLedger.Audit.Store.Memory
import EventLedger.Audit.Ledger
import EventLedger.Proofs.Audit.Counting
import EventLedger.Proofs.Time.Calendar
import Mathlib.Algebra.Ring.Int.Defs
import Mathlib.Data.List.Dedup

/-!
# Exact statistics

The report on a range of time is told by the records of that range alone, whatever their order. Its
rankings come out of unordered tables of counts; the tables may give their rows away in any order and
the report stays the same.

* `Actor.Precedes`, `transCmp_compareActors`: the orders of texts and of actors;
* `RowOrder`, `Memory.hashedStore`: a store whose tables are in no order;
* `Statistics.Tells`, **`Statistics.Tells.unique`**: what a report says about the records of a range;
* **`statistics_exact`**: the report of a ledger over records in memory.
-/

namespace EventLedger

/-! ## The orders of texts and of actors -/

instance transCmp_compareTexts : Std.TransCmp compareTexts :=
  inferInstanceAs (Std.TransCmp (compare : String → String → Ordering))

instance lawfulEqCmp_compareTexts : Std.LawfulEqCmp compareTexts :=
  inferInstanceAs (Std.LawfulEqCmp (compare : String → String → Ordering))

theorem lt_of_compareTexts (s t : String) (h : compareTexts s t = .lt) : s < t :=
  compareOfLessAndEq_eq_lt.mp h

/-- Actors in the order of their ids, and of their kinds under one id. -/
def Actor.Precedes (a b : Actor) : Prop :=
  a.id < b.id ∨ a.id = b.id ∧ a.kind.rank < b.kind.rank

theorem compareActors_eq :
    compareActors =
      compareLex (compareOn Actor.id) (compareOn fun a : Actor => a.kind.rank) := rfl

instance transCmp_compareActors : Std.TransCmp compareActors := by
  rw [compareActors_eq]
  infer_instance

theorem ActorKind.rank_injective : Function.Injective ActorKind.rank := by
  intro a b h
  cases a <;> cases b <;> first | rfl | cases h

instance lawfulEqCmp_compareActors : Std.LawfulEqCmp compareActors where
  compare_self := by simp [compareActors_eq, compareLex, compareOn]
  eq_of_compare {a b} h := by
    rw [compareActors_eq, compareLex, Ordering.then_eq_eq] at h
    have hid : a.id = b.id := Std.LawfulEqOrd.eq_of_compare h.1
    have hkind : a.kind.rank = b.kind.rank := Std.LawfulEqOrd.eq_of_compare h.2
    obtain ⟨kind, id⟩ := a
    obtain ⟨kind', id'⟩ := b
    exact Actor.mk.injEq .. ▸ ⟨ActorKind.rank_injective hkind, hid⟩

theorem precedes_of_compareActors (a b : Actor) (h : compareActors a b = .lt) : a.Precedes b := by
  rw [compareActors, Ordering.then_eq_lt] at h
  rcases h with h | ⟨heq, hlt⟩
  · exact .inl (lt_of_compareTexts _ _ h)
  · exact .inr ⟨Std.LawfulEqCmp.eq_of_compare heq, compareOfLessAndEq_eq_lt.mp hlt⟩

theorem Actor.Precedes.asymm (a b : Actor) : a.Precedes b → ¬ b.Precedes a := by
  rintro (h | ⟨h, hkind⟩) (h' | ⟨h', hkind'⟩)
  · exact absurd h (lt_asymm h')
  · exact absurd h (h' ▸ lt_irrefl _)
  · exact absurd h' (h ▸ lt_irrefl _)
  · omega

/-! ## Tables in no order -/

/-- An order in which a table may give its rows away. -/
structure RowOrder (κ : Type) where
  rows : List (κ × Nat) → List (κ × Nat)
  perm : ∀ counts, (rows counts).Perm counts

namespace RowOrder

variable {κ : Type} [DecidableEq κ] (o : RowOrder κ)

/-- The rows in the order in which their values were met. -/
def met : RowOrder κ := ⟨id, fun _ => .refl _⟩

/-- Values counted in a table and ranked. -/
def ranking (compareKeys : κ → κ → Ordering) (values : List κ) : List (κ × Nat) :=
  (o.rows (tally values)).mergeSort (ranksBefore compareKeys)

/-- Days counted in a table, and the latest of them in the order of days. -/
def recentDays (o : RowOrder Int) (limit : Nat) (days : List Int) : List (Int × Nat) :=
  (((o.rows (tally days)).mergeSort fun a b => b.1 ≤ a.1).take limit).reverse

theorem counts_rows (values : List κ) : Counts values (o.rows (tally values)) :=
  (counts_tally values).of_perm (o.perm _)

end RowOrder

/-- The orders of the four tables behind a report. -/
structure RowOrders where
  categories : RowOrder String
  days : RowOrder Int
  eventTypes : RowOrder String
  actors : RowOrder Actor

/-- The store of the records in memory with tables that give their rows away in these orders. -/
def Memory.hashedStore (o : RowOrders) (storedAt : Instant) : Store (StateM Memory) :=
  { store storedAt with
    countByCategory := fun r => answer fun memory =>
      signedCounts (o.categories.ranking compareTexts ((memory.inRange r).map (·.category)))
    dailyCounts := fun r limit => answer fun memory =>
      signedCounts
        ((o.days.recentDays limit ((memory.inRange r).map (·.timestamp.dayNumber))).map
          fun (day, n) => (Date.ofDayNumber day, n))
    topEventTypes := fun r limit => answer fun memory =>
      signedCounts
        ((o.eventTypes.ranking compareTexts ((memory.inRange r).map (·.eventType))).take limit)
    topActors := fun r limit => answer fun memory =>
      signedCounts
        ((o.actors.ranking compareActors ((memory.inRange r).map (·.actor))).take limit) }

theorem Memory.hashedStore_met (storedAt : Instant) :
    hashedStore ⟨.met, .met, .met, .met⟩ storedAt = store storedAt := rfl

/-! ## What a report says -/

/-- The records of a range of time. -/
def DateRange.covered (range : DateRange) (records : List Record) : List Record :=
  records.filter fun r => range.contains r.timestamp

theorem Memory.inRange_eq (range : DateRange) (memory : Memory) :
    memory.inRange range = range.covered memory.records := by
  refine List.filter_congr fun r _ => ?_
  simp [Filter.within, Filter.admits, EventLedger.admitted, DateRange.contains]

/-- The report says what the records of its range are. -/
structure Statistics.Tells (st : Statistics) (range : DateRange) (covered : List Record) : Prop where
  range_eq : st.range = range
  total : st.totalEvents = covered.length
  /-- The ranking of all categories. -/
  categories : ∃ table, Enumerates (Above (· < ·)) (covered.map (·.category)) table ∧
    st.byCategory = signedCounts table
  categorySum : (st.byCategory.map Prod.snd).sum = st.totalEvents
  /-- The first ten event types of their ranking. -/
  eventTypes : ∃ table, Enumerates (Above (· < ·)) (covered.map (·.eventType)) table ∧
    st.topEventTypes = signedCounts (table.take 10)
  /-- The first ten actors of their ranking. -/
  actors : ∃ table, Enumerates (Above Actor.Precedes) (covered.map (·.actor)) table ∧
    st.topActors = signedCounts (table.take 10)
  /-- The last thirty days that have records. -/
  daily : ∃ table,
    Enumerates (fun a b => a.1.Precedes b.1) (covered.map (·.timestamp.date)) table ∧
    st.daily = signedCounts (table.drop (table.length - 30))
  dailySum : (covered.map (·.timestamp.date)).dedup.length ≤ 30 →
    (st.daily.map Prod.snd).sum = st.totalEvents

/-! ## The report of a store -/

theorem sum_signedCounts {κ : Type} (counts : List (κ × Nat)) :
    ((signedCounts counts).map Prod.snd).sum = ((counts.map Prod.snd).sum : Nat) := by
  induction counts with
  | nil => rfl
  | cons row counts ih =>
    simp only [signedCounts, List.map_cons, List.sum_cons] at ih ⊢
    rw [ih]
    omega

theorem Counts.length_eq {κ : Type} [DecidableEq κ] {values : List κ} {counts : List (κ × Nat)}
    (h : Counts values counts) : counts.length = values.dedup.length := by
  rw [← List.length_map Prod.fst]
  refine List.Perm.length_eq ((List.perm_ext_iff_of_nodup h.once (List.nodup_dedup _)).mpr ?_)
  intro k
  rw [h.mem_keys, List.mem_dedup]

namespace RowOrder

theorem enumerates_ranking {κ : Type} [DecidableEq κ] (o : RowOrder κ)
    {compareKeys : κ → κ → Ordering} [Std.TransCmp compareKeys] [Std.LawfulEqCmp compareKeys]
    {precedes : κ → κ → Prop} (h : ∀ j k, compareKeys j k = .lt → precedes j k) (values : List κ) :
    Enumerates (Above precedes) values (o.ranking compareKeys values) :=
  (o.counts_rows values).enumerates_rank h

/-- All days with their counts, in the order of days. -/
def allDays (o : RowOrder Int) (days : List Int) : List (Date × Nat) :=
  ((o.rows (tally days)).mergeSort fun a b => b.1 ≤ a.1).reverse.map fun (day, n) =>
    (Date.ofDayNumber day, n)

theorem enumerates_allDays (o : RowOrder Int) (days : List Int) :
    Enumerates (fun a b => a.1.Precedes b.1) (days.map Date.ofDayNumber) (o.allDays days) := by
  have h := (o.counts_rows days).enumerates_days
  refine ⟨h.toCounts.rename fun _ _ => Date.ofDayNumber_injective, ?_⟩
  exact List.pairwise_map.mpr (h.ordered.imp Date.precedes_ofDayNumber)

theorem recentDays_eq (o : RowOrder Int) (limit : Nat) (days : List Int) :
    (o.recentDays limit days).map (fun (day, n) => (Date.ofDayNumber day, n)) =
      (o.allDays days).drop ((o.allDays days).length - limit) := by
  simp only [recentDays, allDays, List.reverse_take, List.map_drop, List.length_map,
    List.length_reverse]

end RowOrder

/-- The statistics of the records in a range, worked out from tables with these orders of rows. -/
def RowOrders.report (o : RowOrders) (range : DateRange) (covered : List Record) : Statistics where
  range
  totalEvents := covered.length
  byCategory := signedCounts (o.categories.ranking compareTexts (covered.map (·.category)))
  daily := signedCounts
    ((o.days.recentDays dailyLimit (covered.map (·.timestamp.dayNumber))).map
      fun (day, n) => (Date.ofDayNumber day, n))
  topEventTypes := signedCounts
    ((o.eventTypes.ranking compareTexts (covered.map (·.eventType))).take topLimit)
  topActors := signedCounts
    ((o.actors.ranking compareActors (covered.map (·.actor))).take topLimit)

theorem run_statistics (o : RowOrders) (storedAt : Instant) (limits : Limits) (range : DateRange)
    (memory : Memory) :
    (Ledger.statistics ⟨Memory.hashedStore o storedAt, limits⟩ range).run memory =
      (.ok (o.report range (range.covered memory.records)), memory) := by
  rw [← memory.inRange_eq]
  rfl

theorem tells_report (o : RowOrders) (range : DateRange) (covered : List Record) :
    (o.report range covered).Tells range covered := by
  have hcategories := o.categories.enumerates_ranking lt_of_compareTexts (covered.map (·.category))
  have hdays := o.days.enumerates_allDays (covered.map (·.timestamp.dayNumber))
  rw [List.map_map] at hdays
  have hdaily : (o.report range covered).daily = signedCounts
      ((o.days.allDays (covered.map (·.timestamp.dayNumber))).drop
        ((o.days.allDays (covered.map (·.timestamp.dayNumber))).length - 30)) := by
    rw [RowOrders.report, RowOrder.recentDays_eq, dailyLimit]
  refine
    { range_eq := rfl
      total := rfl
      categories := ⟨_, hcategories, rfl⟩
      categorySum := ?_
      eventTypes := ⟨_, o.eventTypes.enumerates_ranking lt_of_compareTexts _, rfl⟩
      actors := ⟨_, o.actors.enumerates_ranking precedes_of_compareActors _, rfl⟩
      daily := ⟨_, hdays, hdaily⟩
      dailySum := fun hfew => ?_ }
  · rw [RowOrders.report, sum_signedCounts, hcategories.toCounts.sum, List.length_map]
  -- with no more than thirty days none is dropped
  · have hall : (o.days.allDays (covered.map (·.timestamp.dayNumber))).length - 30 = 0 := by
      rw [hdays.toCounts.length_eq]
      exact Nat.sub_eq_zero_of_le hfew
    rw [hdaily, hall, List.drop_zero, sum_signedCounts, hdays.toCounts.sum, List.length_map]
    rfl

/-! ## Nothing is left open -/

/-- **There is one report on given records, in whatever order they are.** -/
theorem Statistics.Tells.unique {st other : Statistics} {range : DateRange}
    {covered others : List Record} (h : st.Tells range covered) (ho : other.Tells range others)
    (hperm : covered.Perm others) : st = other := by
  obtain ⟨categories, hcategories, hc⟩ := h.categories
  obtain ⟨categories', hcategories', hc'⟩ := ho.categories
  obtain ⟨types, htypes, ht⟩ := h.eventTypes
  obtain ⟨types', htypes', ht'⟩ := ho.eventTypes
  obtain ⟨actors, hactors, ha⟩ := h.actors
  obtain ⟨actors', hactors', ha'⟩ := ho.actors
  obtain ⟨days, hdays, hd⟩ := h.daily
  obtain ⟨days', hdays', hd'⟩ := ho.daily
  have htexts : ∀ a b : String × Nat, Above (· < ·) a b → ¬ Above (· < ·) b a :=
    Above.asymm fun _ _ => lt_asymm
  obtain rfl := hcategories.unique hcategories' (hperm.map _) htexts
  obtain rfl := htypes.unique htypes' (hperm.map _) htexts
  obtain rfl := hactors.unique hactors' (hperm.map _) (Above.asymm Actor.Precedes.asymm)
  obtain rfl := hdays.unique hdays' (hperm.map _) fun a b => Date.Precedes.asymm a.1 b.1
  have hrange := h.range_eq.trans ho.range_eq.symm
  have htotal : st.totalEvents = other.totalEvents := by
    rw [h.total, ho.total, hperm.length_eq]
  cases st
  cases other
  simp only at *
  subst_vars
  rfl

/-- **Statistics are exact, and told by the records of the range alone**: whatever the order of the
records and of the rows of the tables in which they are counted. -/
theorem statistics_exact (storedAt : Instant) (limits : Limits) (range : DateRange)
    (memory : Memory) :
    ∃ report : Statistics,
      report.Tells range (range.covered memory.records) ∧
      (Ledger.statistics ⟨Memory.store storedAt, limits⟩ range).run memory =
        (.ok report, memory) ∧
      ∀ (orders : RowOrders) (other : Memory),
        (range.covered other.records).Perm (range.covered memory.records) →
        (Ledger.statistics ⟨Memory.hashedStore orders storedAt, limits⟩ range).run other =
          (.ok report, other) := by
  refine ⟨_, tells_report ⟨.met, .met, .met, .met⟩ range _, ?_, fun orders other hperm => ?_⟩
  · rw [← Memory.hashedStore_met, run_statistics]
  · rw [run_statistics, (tells_report orders range _).unique (tells_report _ range _) hperm]

end EventLedger
