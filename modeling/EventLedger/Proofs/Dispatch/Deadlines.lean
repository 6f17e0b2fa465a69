import EventLedger.Dispatch.Delivery
import EventLedger.Proofs.Dispatch.Chronicle
import Mathlib.Tactic.ByContra

/-!
# Handlers under a time limit

A handler is a plan of changes and waits that ends by itself or never. Under a time limit it does
what its plan says in front of the limit and nothing of what stands behind. At the very limit
itself, where no time is left, waits of no time are passed over only as long as the turn has room
for them.

* `PlanStep`, `Plan`: a handler written down, with the moments of its steps;
* `Moment.inTime`: what comes in time;
* `Abreast`, **`Abreast.passage_inTime`**, `Abreast.passage_late`: one wait under a limit;
* **`Plan.chronicle_within`**: a whole plan, by recursion on its steps.
-/

namespace EventLedger

open EventLedger.Task

variable {σ : Type}

/-! ## Plans -/

/-- One thing that a handler does. -/
inductive PlanStep (σ : Type) where
  | change (f : σ → σ)
  | wait (ms : Nat)

/-- A handler as a sequence of steps, and how it ends; nothing if it never does. -/
structure Plan (σ : Type) where
  steps : List (PlanStep σ)
  ending : Option Completion

/-- A moment of a plan: the milliseconds since its beginning, and the waits of no time since the
last of them began. -/
structure Moment where
  ms : Nat
  pauses : Nat
  deriving DecidableEq, Repr

namespace Moment

/-- The moment behind a wait. -/
def behind (m : Moment) (ms : Nat) : Moment :=
  if ms = 0 then ⟨m.ms, m.pauses + 1⟩ else ⟨m.ms + ms, 0⟩

/-- The moment lies in front of the limit, or at the limit where no more than `room` waits of no
time have to be passed over. -/
def inTime (limit room : Nat) (m : Moment) : Bool :=
  m.ms < limit || (m.ms == limit && m.pauses ≤ room)

variable {limit room : Nat} {m : Moment} {ms : Nat}

theorem inTime_iff : m.inTime limit room = true ↔ m.ms < limit ∨ m.ms = limit ∧ m.pauses ≤ room := by
  simp [inTime]

@[simp] theorem ms_behind : (m.behind ms).ms = m.ms + ms := by
  unfold behind
  split <;> simp_all

theorem inTime_of_behind (h : (m.behind ms).inTime limit room = true) :
    m.inTime limit room = true := by
  rw [inTime_iff] at *
  unfold behind at h
  split at h
  · dsimp only at h
    omega
  · dsimp only at h
    omega

theorem eq_limit_of_late (hfits : m.ms + ms ≤ limit)
    (h : (m.behind ms).inTime limit room = false) : ms = 0 ∧ m.ms = limit := by
  rw [← Bool.not_eq_true, inTime_iff] at h
  unfold behind at h
  split at h
  · dsimp only at h
    omega
  · dsimp only at h
    omega

end Moment

namespace Plan

/-- The task of a handler that has come so far. -/
def taskFrom (ending : Option Completion) : List (PlanStep σ) → Task σ Completion
  | [] => match ending with
    | some c => .done c
    | none => .never
  | .change f :: steps => .step f fun _ => taskFrom ending steps
  | .wait ms :: steps => .wait ms [] fun _ => taskFrom ending steps

/-- The task of a handler that follows the plan. -/
def task (x : Plan σ) : Task σ Completion := taskFrom x.ending x.steps

/-- The changes of these steps with their moments. -/
def changesFrom (m : Moment) : List (PlanStep σ) → List (Moment × (σ → σ))
  | [] => []
  | .change f :: steps => (m, f) :: changesFrom m steps
  | .wait ms :: steps => changesFrom (m.behind ms) steps

/-- The moment at which these steps are done. -/
def endFrom (m : Moment) : List (PlanStep σ) → Moment
  | [] => m
  | .change _ :: steps => endFrom m steps
  | .wait ms :: steps => endFrom (m.behind ms) steps

/-- All changes of a plan with their moments. -/
def changes (x : Plan σ) : List (Moment × (σ → σ)) := changesFrom ⟨0, 0⟩ x.steps

/-- The moment at which a plan is done. -/
def finish (x : Plan σ) : Moment := endFrom ⟨0, 0⟩ x.steps

theorem ms_le_endFrom (m : Moment) (steps : List (PlanStep σ)) : m.ms ≤ (endFrom m steps).ms := by
  induction steps generalizing m with
  | nil => exact Nat.le_refl _
  | cons d steps ih =>
    cases d with
    | change f => exact ih m
    | wait ms =>
      have h := ih (m.behind ms)
      rw [Moment.ms_behind] at h
      exact Nat.le_trans (Nat.le_add_right _ _) h

variable {limit room : Nat} {m : Moment}

theorem late_endFrom (h : m.inTime limit room = false) (steps : List (PlanStep σ)) :
    (endFrom m steps).inTime limit room = false := by
  induction steps generalizing m with
  | nil => exact h
  | cons d steps ih =>
    cases d with
    | change f => exact ih h
    | wait ms =>
      refine ih (Bool.eq_false_iff.mpr fun hin => ?_)
      rw [Moment.inTime_of_behind hin] at h
      cases h

theorem late_changesFrom (h : m.inTime limit room = false) (steps : List (PlanStep σ)) :
    (changesFrom m steps).filter (fun c => c.1.inTime limit room) = [] := by
  induction steps generalizing m with
  | nil => rfl
  | cons d steps ih =>
    cases d with
    | change f => rw [changesFrom, List.filter_cons_of_neg (by simp [h]), ih h]
    | wait ms =>
      refine ih (Bool.eq_false_iff.mpr fun hin => ?_)
      rw [Moment.inTime_of_behind hin] at h
      cases h

end Plan

/-! ## One wait under a limit -/

/-- How many waits of no time are passed over at a limit, if the turn came to the handler with so
much of its budget. -/
def roomAt (limit budget : Nat) : Nat :=
  if 0 < limit then wokenBudget else if budget = 0 then turnBudget else budget

theorem roomAt_of_pos {limit budget : Nat} (h : 0 < limit) : roomAt limit budget = wokenBudget :=
  if_pos h

theorem roomAt_zero (budget : Nat) : roomAt 0 budget = if budget = 0 then turnBudget else budget :=
  if_neg (Nat.lt_irrefl 0)

/-- A handler under its limit is at a moment: it has not waited yet, or its alarm is armed and the
budget is what the pauses have left of the room as soon as the limit is reached. -/
inductive Abreast (limit room : Nat) : Moment → (fresh : Bool) → (budget : Nat) → List Alarm → Prop
  | atStart {budget : Nat} {alarms : List Alarm} : room = roomAt limit budget →
    Abreast limit room ⟨0, 0⟩ true budget alarms
  | underWay {m : Moment} {budget : Nat} {a : Alarm} : a.armed = true → m.ms ≤ limit →
    (0 < limit → room = wokenBudget) → (m.ms = limit → budget + m.pauses = room) →
    Abreast limit room m false budget [a]

namespace Abreast

variable {limit room budget : Nat} {m : Moment} {fresh : Bool} {alarms : List Alarm}

theorem le_limit (h : Abreast limit room m fresh budget alarms) : m.ms ≤ limit := by
  cases h with
  | atStart => exact Nat.zero_le _
  | underWay _ h => exact h

theorem room_eq (h : Abreast limit room m fresh budget alarms) (hlimit : 0 < limit) :
    room = wokenBudget := by
  cases h with
  | atStart h => rw [h, roomAt_of_pos hlimit]
  | underWay _ _ h => exact h hlimit

theorem inTime (h : Abreast limit room m fresh budget alarms) : m.inTime limit room = true := by
  rw [Moment.inTime_iff]
  cases h with
  | atStart =>
    dsimp only
    omega
  | underWay _ h1 _ h2 => omega

end Abreast

theorem passage_single (budget ms : Nat) (l : Limit) (a : Alarm) :
    passage budget ms [l] [a] =
      if budget = 0 then (if l.left = 0 ∧ a.armed = true then .cut 0 else .yield)
      else if ms = 0 then .over else .wait := by
  unfold passage cutter?
  by_cases h : l.left = 0 ∧ a.armed = true
  · simp [h]
  · have hnone : (l.left == 0 && a.armed) = false := by simpa using h
    simp [h, hnone]

section Wait

variable {α : Type} {limit room budget ms : Nat} {m : Moment} {fresh : Bool} {alarms : List Alarm}
  (h : Abreast limit room m fresh budget alarms)

include h

/-- The alarm under which a wait begins; at the limit it is armed and the budget is what is left of
the room, or the turn came to the handler with no budget at all. -/
theorem Abreast.alarm (left : Nat) :
    ∃ a, alarmsOf budget [⟨left, fresh⟩] alarms = [a] ∧ (0 < budget → a.armed = true) ∧
      (m.ms = limit →
        a.armed = true ∧ budget + m.pauses = room ∨
          a.armed = false ∧ budget = 0 ∧ m.pauses = 0 ∧ room = turnBudget) := by
  cases h with
  | atStart hroom =>
    refine ⟨.new budget, rfl, decide_eq_true, ?_⟩
    rintro rfl
    rw [roomAt_zero] at hroom
    by_cases hbudget : budget = 0
    · exact .inr ⟨by simp [Alarm.new, hbudget], hbudget, rfl, by rw [hroom, if_pos hbudget]⟩
    · refine .inl ⟨by simp [Alarm.new]; omega, ?_⟩
      rw [hroom, if_neg hbudget]
      rfl
  | underWay harmed _ _ hroom => exact ⟨_, rfl, fun _ => harmed, fun hm => .inl ⟨harmed, hroom hm⟩⟩

/-- **A wait that comes in time passes**, and the handler is abreast of its limit behind it. -/
theorem Abreast.passage_inTime (hfits : m.ms + ms ≤ limit)
    (hin : (m.behind ms).inTime limit room = true) :
    ∃ alarms', Abreast limit room (m.behind ms) false (budgetBehind budget ms) alarms' ∧
      ∀ (next : Ending → Task σ α) (now : Nat) (s : σ),
        (Task.wait ms [⟨limit - m.ms, fresh⟩] next).chronicleFrom budget alarms now s =
          ((next .over).chronicleFrom (budgetBehind budget ms) alarms' (now + ms) s).after
            [ms] [] := by
  obtain ⟨a, ha, harmed, hroom⟩ := h.alarm (limit - m.ms)
  have hwoken := h.room_eq
  rw [Moment.inTime_iff] at hin
  by_cases hpause : ms = 0 ∧ 0 < budget
  · obtain ⟨rfl, hbudget⟩ := hpause
    rw [Moment.behind, if_pos rfl, budgetBehind, if_pos ⟨rfl, hbudget⟩] at *
    refine ⟨[a], .underWay (harmed hbudget) hfits hwoken fun hm => ?_, fun next now s => ?_⟩
    · dsimp only at *
      omega
    · rw [chronicleFrom, ha, passage_single, if_neg (by omega), if_pos rfl]
  · -- a wait at the limit that comes in time though the budget is gone is the first one of all
    have hfirst : m.ms = limit → budget = 0 →
        a.armed = false ∧ m.pauses = 0 ∧ room = turnBudget ∧ ms = 0 := by
      intro hm hbudget
      have hms : ms = 0 := by omega
      rw [Moment.behind, if_pos hms] at hin
      dsimp only at hin
      rcases hroom hm with ⟨-, hleft⟩ | ⟨harmed', -, hpauses, hfull⟩
      · omega
      · exact ⟨harmed', hpauses, hfull, hms⟩
    rw [budgetBehind, if_neg hpause]
    refine ⟨[a.next], .underWay rfl (by rwa [Moment.ms_behind]) hwoken fun hm => ?_,
      fun next now s => ?_⟩
    · rw [Moment.ms_behind] at hm
      by_cases hms : ms = 0
      · obtain ⟨-, hpauses, hfull, -⟩ := hfirst (by omega) (by omega)
        rw [Moment.behind, if_pos hms, hfull]
        simp [hpauses, wokenBudget, turnBudget]
      · rw [Moment.behind, if_neg hms, hwoken (by omega)]
        rfl
    · rw [chronicleFrom, ha, passage_single]
      by_cases hbudget : budget = 0
      · have hcut : ¬ (limit - m.ms = 0 ∧ a.armed = true) := by
          rintro ⟨hleft, harmed'⟩
          have hunarmed := (hfirst (by omega) hbudget).1
          rw [harmed'] at hunarmed
          cases hunarmed
        rw [if_pos hbudget, if_neg hcut]
        rfl
      · rw [if_neg hbudget, if_neg (by omega)]
        rfl

/-- **A wait that comes too late is cut off.** -/
theorem Abreast.passage_late (hfits : m.ms + ms ≤ limit)
    (hlate : (m.behind ms).inTime limit room = false)
    (next : Ending → Task σ α) (now : Nat) (s : σ) :
    (Task.wait ms [⟨limit - m.ms, fresh⟩] next).chronicleFrom budget alarms now s =
      (next (.cut 0)).chronicleFrom budget [] now s := by
  obtain ⟨rfl, hlimit⟩ := Moment.eq_limit_of_late hfits hlate
  obtain ⟨a, ha, -, hroom⟩ := h.alarm (limit - m.ms)
  rw [← Bool.not_eq_true, Moment.inTime_iff, Moment.behind, if_pos rfl] at hlate
  dsimp only at hlate
  rcases hroom hlimit with ⟨harmed, hbudget⟩ | ⟨-, -, hpauses, hfull⟩
  · have hzero : budget = 0 := by omega
    have hcut : limit - m.ms = 0 ∧ a.armed = true := ⟨by omega, harmed⟩
    rw [chronicleFrom, ha, passage_single, if_pos hzero, if_pos hcut]
    rfl
  · unfold turnBudget at hfull
    omega

end Wait

/-! ## A plan under a limit -/

namespace Plan

/-- The changes that these come to, with the states that they bring about. -/
def replay : σ → List (Nat × (σ → σ)) → List (Nat × σ)
  | _, [] => []
  | s, (now, f) :: rest => (now, f s) :: replay (f s) rest

/-- The state behind these changes. -/
def stateBehind (s : σ) (changes : List (Nat × (σ → σ))) : σ :=
  changes.foldl (fun s c => c.2 s) s

theorem stateBehind_append (s : σ) (earlier later : List (Nat × (σ → σ))) :
    stateBehind s (earlier ++ later) = stateBehind (stateBehind s earlier) later :=
  List.foldl_append

theorem replay_append (s : σ) (earlier later : List (Nat × (σ → σ))) :
    replay s (earlier ++ later) = replay s earlier ++ replay (stateBehind s earlier) later := by
  induction earlier generalizing s with
  | nil => rfl
  | cons c earlier ih => exact congrArg (_ :: ·) (ih (c.2 s))

variable (limit room : Nat)

/-- How steps that go on at `m` end under a limit; nothing if they are cut off. -/
def outcomeFrom (ending : Option Completion) (m : Moment) (steps : List (PlanStep σ)) :
    Option Completion :=
  if (endFrom m steps).inTime limit room then ending else none

/-- The changes of these steps that come in time, with their instants in a plan that began at
`start`. -/
def inTimeFrom (start : Nat) (m : Moment) (steps : List (PlanStep σ)) : List (Nat × (σ → σ)) :=
  ((changesFrom m steps).filter fun c => c.1.inTime limit room).map fun c => (start + c.1.ms, c.2)

/-- When these steps are over or cut off. -/
def overFrom (ending : Option Completion) (m : Moment) (steps : List (PlanStep σ)) : Nat :=
  if ending.isSome then min (endFrom m steps).ms limit else limit

variable {limit room}

theorem outcomeFrom_wait (ending : Option Completion) (m : Moment) (ms : Nat)
    (steps : List (PlanStep σ)) : outcomeFrom limit room ending m (.wait ms :: steps) =
      outcomeFrom limit room ending (m.behind ms) steps := rfl

theorem inTimeFrom_wait (start : Nat) (m : Moment) (ms : Nat) (steps : List (PlanStep σ)) :
    inTimeFrom limit room start m (.wait ms :: steps) =
      inTimeFrom limit room start (m.behind ms) steps := rfl

theorem overFrom_wait (ending : Option Completion) (m : Moment) (ms : Nat)
    (steps : List (PlanStep σ)) :
    overFrom limit ending m (.wait ms :: steps) = overFrom limit ending (m.behind ms) steps := rfl

theorem cut_of_late {m : Moment} (h : m.inTime limit room = false) (hlimit : limit ≤ m.ms)
    (ending : Option Completion) (steps : List (PlanStep σ)) (start : Nat) :
    outcomeFrom limit room ending m steps = none ∧ inTimeFrom limit room start m steps = [] ∧
      overFrom limit ending m steps = limit := by
  refine ⟨?_, ?_, ?_⟩
  · rw [outcomeFrom, late_endFrom h, if_neg Bool.false_ne_true]
  · rw [inTimeFrom, late_changesFrom h, List.map_nil]
  · have hend := ms_le_endFrom m steps
    rw [overFrom, Nat.min_eq_right (Nat.le_trans hlimit hend), ite_self]

theorem chronicle_cut {m : Moment} {fresh : Bool} {budget : Nat} {alarms : List Alarm}
    (h : Abreast limit room m fresh budget alarms) (next : Ending → Task σ (Option Completion))
    (hover : next .over = .done none) (hcut : next (.cut 0) = .done none) (now : Nat) (s : σ) :
    ∃ waits, (Task.wait (limit - m.ms) [⟨limit - m.ms, fresh⟩] next).chronicleFrom budget alarms
        now s = ⟨⟨some none, s, waits⟩, []⟩ ∧ m.ms + waits.sum = limit := by
  have hle := h.le_limit
  have hfits : m.ms + (limit - m.ms) ≤ limit := by omega
  cases hin : (m.behind (limit - m.ms)).inTime limit room with
  | true =>
    obtain ⟨alarms', -, hpassed⟩ := h.passage_inTime (α := Option Completion) (σ := σ) hfits hin
    exact ⟨[limit - m.ms], by rw [hpassed, hover]; rfl, by simp; omega⟩
  | false =>
    obtain ⟨-, hlimit⟩ := Moment.eq_limit_of_late hfits hin
    exact ⟨[], by rw [h.passage_late hfits hin, hcut]; rfl, by simpa using hlimit⟩

/-- **A plan under a limit**, by recursion on what is left of its steps. -/
theorem chronicle_withinFrom (ending : Option Completion) (steps : List (PlanStep σ)) (start : Nat)
    {m : Moment} {fresh : Bool} {budget : Nat} {alarms : List Alarm}
    (h : Abreast limit room m fresh budget alarms) (s : σ) :
    ∃ waits, ((taskFrom ending steps).withinFrom fresh (limit - m.ms)).chronicleFrom budget alarms
        (start + m.ms) s =
        ⟨⟨some (outcomeFrom limit room ending m steps),
          stateBehind s (inTimeFrom limit room start m steps), waits⟩,
          replay s (inTimeFrom limit room start m steps)⟩ ∧
      m.ms + waits.sum = overFrom limit ending m steps := by
  induction steps generalizing m fresh budget alarms s with
  | nil =>
    cases ending with
    | some c =>
      refine ⟨[], ?_, ?_⟩
      · rw [outcomeFrom, endFrom, h.inTime, if_pos rfl]
        rfl
      · have hle := h.le_limit
        simp [overFrom, endFrom, hle]
    | none =>
      obtain ⟨waits, hwaits, hsum⟩ := chronicle_cut h (fun _ => .done none) rfl rfl
        (start + m.ms) s
      refine ⟨waits, ?_, hsum⟩
      rw [outcomeFrom, ite_self]
      exact hwaits
  | cons d steps ih =>
    cases d with
    | change f =>
      obtain ⟨waits, hwaits, hsum⟩ := ih h (f s)
      have hchanges : inTimeFrom limit room start m (.change f :: steps) =
          (start + m.ms, f) :: inTimeFrom limit room start m steps := by
        rw [inTimeFrom, changesFrom, List.filter_cons_of_pos (by exact h.inTime), List.map_cons]
        rfl
      refine ⟨waits, ?_, hsum⟩
      rw [taskFrom, withinFrom, chronicleFrom, hwaits, hchanges]
      rfl
    | wait ms =>
      have hle := h.le_limit
      rw [taskFrom, withinFrom, outcomeFrom_wait, inTimeFrom_wait, overFrom_wait]
      -- a wait that is longer than what is left is cut short by `withinFrom` itself
      by_cases hfits : m.ms + ms ≤ limit
      · have hmin : min ms (limit - m.ms) = ms := by omega
        rw [hmin]
        cases hin : (m.behind ms).inTime limit room with
        | true =>
          obtain ⟨alarms', hbehind, hpassed⟩ :=
            h.passage_inTime (α := Option Completion) (σ := σ) hfits hin
          obtain ⟨waits, hwaits, hsum⟩ := ih hbehind s
          rw [Moment.ms_behind] at hwaits hsum
          refine ⟨ms :: waits, ?_, ?_⟩
          · rw [hpassed, if_pos (by omega), Nat.sub_sub, Nat.add_assoc, hwaits]
            rfl
          · rw [List.sum_cons, ← Nat.add_assoc, hsum]
        | false =>
          obtain ⟨-, hlimit⟩ := Moment.eq_limit_of_late hfits hin
          obtain ⟨hout, hchanges, hover⟩ :=
            cut_of_late hin (by rw [Moment.ms_behind]; omega) ending steps start
          rw [hout, hchanges, hover, h.passage_late hfits hin]
          exact ⟨[], rfl, hlimit⟩
      · have hmin : min ms (limit - m.ms) = limit - m.ms := by omega
        have hlate : (m.behind ms).inTime limit room = false := by
          rw [← Bool.not_eq_true, Moment.inTime_iff, Moment.ms_behind]
          omega
        obtain ⟨hout, hchanges, hover⟩ :=
          cut_of_late hlate (by rw [Moment.ms_behind]; omega) ending steps start
        rw [hmin, hout, hchanges, hover]
        exact chronicle_cut h _ (if_neg (by omega)) rfl (start + m.ms) s

/-! ## Whole plans -/

variable (x : Plan σ)

/-- How long a plan takes under a limit. -/
def timeUnder (limit : Nat) : Nat := if x.ending = none then limit else min x.finish.ms limit

theorem timeUnder_le (limit : Nat) : x.timeUnder limit ≤ limit := by
  unfold timeUnder
  split
  · exact Nat.le_refl _
  · exact Nat.min_le_right _ _

/-- What a plan comes to under a limit, begun at `start` in a turn that has room for `room` waits
at the limit. -/
structure Kept (limit room start : Nat) (outcome : Option Completion)
    (changes : List (Nat × (σ → σ))) (time : Nat) : Prop where
  /-- It is cut off exactly if it has not ended in time. -/
  cut_iff : outcome = none ↔
    x.ending = none ∨ limit < x.finish.ms ∨ x.finish.ms = limit ∧ room < x.finish.pauses
  ended : ∀ c, outcome = some c → x.ending = some c
  /-- What comes in time is done, at its instant and in order, and nothing else is. -/
  changes_eq : changes =
    (x.changes.filter fun c => c.1.inTime limit room).map fun c => (start + c.1.ms, c.2)
  /-- A plan that ends by itself is done as a whole. -/
  whole : outcome ≠ none → changes = x.changes.map fun c => (start + c.1.ms, c.2)
  time_eq : time = x.timeUnder limit

theorem inTime_of_mem_changesFrom {m : Moment} {steps : List (PlanStep σ)}
    (h : (endFrom m steps).inTime limit room = true) {c : Moment × (σ → σ)}
    (hc : c ∈ changesFrom m steps) : c.1.inTime limit room = true := by
  induction steps generalizing m with
  | nil => cases hc
  | cons d steps ih =>
    cases d with
    | change f =>
      rcases List.mem_cons.mp hc with rfl | hc
      · by_contra hlate
        rw [endFrom, late_endFrom (Bool.eq_false_iff.mpr hlate)] at h
        cases h
      · exact ih h hc
    | wait ms => exact ih h hc

theorem kept_outcome (limit room start : Nat) :
    x.Kept limit room start (outcomeFrom limit room x.ending ⟨0, 0⟩ x.steps)
      (inTimeFrom limit room start ⟨0, 0⟩ x.steps) (overFrom limit x.ending ⟨0, 0⟩ x.steps) := by
  have hlate : x.finish.inTime limit room = false ↔
      limit < x.finish.ms ∨ x.finish.ms = limit ∧ room < x.finish.pauses := by
    rw [← Bool.not_eq_true, Moment.inTime_iff]
    omega
  have houtcome : outcomeFrom limit room x.ending ⟨0, 0⟩ x.steps =
      if x.finish.inTime limit room then x.ending else none := rfl
  refine ⟨?_, fun c hc => ?_, rfl, fun hended => ?_, ?_⟩
  · rw [houtcome, ← hlate]
    cases x.finish.inTime limit room <;> simp
  · rw [houtcome] at hc
    split at hc
    · exact hc
    · cases hc
  · rw [houtcome] at hended
    have hin : x.finish.inTime limit room = true := by
      by_contra hnot
      exact hended (if_neg hnot)
    have hall : x.changes.filter (fun c => c.1.inTime limit room) = x.changes :=
      List.filter_eq_self.mpr fun c hc => inTime_of_mem_changesFrom hin hc
    rw [inTimeFrom, ← changes, hall]
  · unfold overFrom timeUnder
    cases x.ending <;> rfl

/-- **What becomes of a plan under a limit.** -/
theorem chronicle_within (limit budget start : Nat) (alarms : List Alarm) (s : σ) :
    ∃ outcome changes waits, (x.task.within limit).chronicleFrom budget alarms start s =
        ⟨⟨some outcome, stateBehind s changes, waits⟩, replay s changes⟩ ∧
      x.Kept limit (roomAt limit budget) start outcome changes waits.sum := by
  have habreast : Abreast limit (roomAt limit budget) ⟨0, 0⟩ true budget alarms := .atStart rfl
  obtain ⟨waits, hwaits, hsum⟩ := chronicle_withinFrom x.ending x.steps start habreast s
  rw [Nat.zero_add] at hsum
  exact ⟨_, _, waits, hwaits, hsum ▸ x.kept_outcome limit (roomAt limit budget) start⟩

theorem heedless_within (limit : Nat) : (x.task.within limit).Heedless := by
  obtain ⟨steps, ending⟩ := x
  change ((taskFrom ending steps).withinFrom true limit).Heedless
  induction steps with
  | nil => cases ending <;> simp [taskFrom, withinFrom, Heedless]
  | cons d steps ih =>
    cases d with
    | change f => exact fun _ => ih
    | wait ms => simp [taskFrom, withinFrom, Heedless]

end Plan

end EventLedger
