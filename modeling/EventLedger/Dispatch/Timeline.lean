import EventLedger.Dispatch.Turn

/-!
# One clock for many tasks

One task runs in the foreground. Whenever it waits or gives way, the tasks of the background have
their turns, in the order in which they got ready. Time passes only when none is ready and none gave
way.

Turns come in rounds. A round ends when no task is ready, and after some number of turns at the
latest; then those that gave way get ready again, the last one first. In every round the foreground
goes first if it can go on.

A waiting task has an alarm for its wait and one for each of its time limits. Alarms of the same
instant go off in the order in which they were set. A task is woken by the first of its alarms that
goes off.

* `Ready`, `Sleeper`: a task that can go on, and one that waits for its instant;
* `Timeline`: all of them with the clock;
* `Background`: where new tasks come from;
* `Timeline.settle`: the background up to the moment when the foreground goes on;
* `Timeline.perform`: a task in the foreground up to its end.
-/

namespace EventLedger

/-- A task of the background that can go on. -/
structure Ready (σ : Type) where
  /-- The budget of its turn. -/
  budget : Nat
  alarms : List Alarm
  rest : Task σ Unit

/-- A task of the background that goes on at an instant. -/
structure Sleeper (σ : Type) where
  /-- In milliseconds of the clock. -/
  due : Nat
  /-- The turn in which the alarm that wakes it was set. -/
  waking : Nat
  alarms : List Alarm
  rest : Task σ Unit

/-- The state of all tasks but the one in the foreground. -/
structure Timeline (σ : Type) where
  /-- The clock in milliseconds. -/
  now : Nat
  /-- The number of turns so far. -/
  turns : Nat
  /-- The tasks that can go on, the first one in front. -/
  ready : List (Ready σ)
  /-- The tasks that gave way, the last one in front. -/
  yielded : List (Ready σ)
  sleepers : List (Sleeper σ)

/-- The tasks that have been begun, taken from the state. -/
abbrev Background (σ : Type) := σ → List (Task σ Unit) × σ

namespace Timeline

variable {σ α : Type}

/-- The beginning of time. -/
def start : Timeline σ := ⟨0, 0, [], [], []⟩

/-- The tasks that have been begun get ready. -/
def takeBegun (background : Background σ) (t : Timeline σ) (s : σ) : Timeline σ × σ :=
  let (tasks, s) := background s
  ({ t with ready := t.ready ++ tasks.map fun task => ⟨turnBudget, [], task⟩ }, s)

/-- A turn of a task, which is ready no more. -/
def advance (t : Timeline σ) (r : Ready σ) (s : σ) : Timeline σ × σ :=
  let number := t.turns
  let t := { t with turns := number + 1 }
  match r.rest.turn number r.budget r.alarms s with
  | (.waiting ms waking alarms rest, s) =>
    ({ t with sleepers := ⟨t.now + ms, waking, alarms, rest⟩ :: t.sleepers }, s)
  | (.yielded alarms rest, s) =>
    ({ t with yielded := ⟨turnBudget, alarms, rest⟩ :: t.yielded }, s)
  | (.ended (), s) => (t, s)
  | (.stopped, s) => (t, s)

/-- The end of a round: the tasks that gave way get ready. -/
def endRound (t : Timeline σ) : Timeline σ :=
  { t with ready := t.ready ++ t.yielded, yielded := [] }

/-- A sleeper woken. -/
def wake (s : Sleeper σ) : Ready σ := ⟨wokenBudget, s.alarms, s.rest⟩

/-- The clock put forward; the tasks that wait for this instant get ready. -/
def reach (instant : Nat) (t : Timeline σ) : Timeline σ :=
  let (due, later) := t.sleepers.partition fun s => s.due ≤ instant
  let woken := due.mergeSort fun a b => a.waking ≤ b.waking
  { t with now := instant, ready := t.ready ++ woken.map wake, sleepers := later }

/-- The earliest instant up to `target` that is waited for. -/
def nextInstant (target : Nat) (t : Timeline σ) : Nat :=
  t.sleepers.foldl (fun earliest s => min earliest s.due) target

/-- When the foreground goes on. -/
inductive Goal where
  /-- In the next round. -/
  | nextRound
  | instant (target : Nat)

/-- The turns of a round. -/
def roundLength : Nat := 61

/-- The background up to the moment when the foreground goes on, `turns` turns being left in the
round. Nothing if that takes too long: `fuel` bounds turns and rounds. -/
def settle (background : Background σ) (goal : Goal) :
    (fuel turns : Nat) → Timeline σ → σ → Option (Timeline σ × σ)
  | 0, _, _, _ => none
  | fuel + 1, turns + 1, ⟨now, number, r :: ready, yielded, sleepers⟩, s =>
    let (t, s) := advance ⟨now, number, ready, yielded, sleepers⟩ r s
    let (t, s) := t.takeBegun background s
    settle background goal fuel turns t s
  | fuel + 1, _, t, s =>
    match goal with
    | .nextRound => some (t.endRound, s)
    | .instant target =>
      if t.ready.isEmpty && t.yielded.isEmpty then
        let instant := t.nextInstant target
        if instant = target then some (t.reach target, s)
        else settle background goal fuel roundLength (t.reach instant) s
      else settle background goal fuel roundLength t.endRound s

/-- The background while the foreground waits. -/
def elapse (background : Background σ) (fuel ms : Nat) (t : Timeline σ) (s : σ) :
    Option (Timeline σ × σ) :=
  let (t, s) := t.takeBegun background s
  settle background (.instant (t.now + ms)) fuel roundLength t s

/-- The background while the foreground gives way. -/
def giveWay (background : Background σ) (fuel : Nat) (t : Timeline σ) (s : σ) :
    Option (Timeline σ × σ) :=
  let (t, s) := t.takeBegun background s
  settle background .nextRound fuel roundLength t s

/-- A task that goes on in the foreground up to its end, with what is left of its budget; nothing if
it never ends. -/
def performFrom (background : Background σ) (fuel : Nat) :
    Task σ α → (budget : Nat) → List Alarm → Timeline σ → σ → Option (α × Timeline σ × σ)
  | .done a, _, _, t, s => some (a, t, s)
  | .step change next, budget, alarms, t, s =>
    performFrom background fuel (next s) budget alarms t (change s)
  | .wait ms limits next, budget, before, t, s =>
    let alarms := alarmsOf budget limits before
    match passage budget ms limits alarms with
    | .over => performFrom background fuel (next .over) (budget - 1) alarms t s
    | .cut limit => performFrom background fuel (next (.cut limit)) budget (alarms.take limit) t s
    | .wait =>
      match elapse background fuel ms t s with
      | some (t, s) => performFrom background fuel (next .over) wokenBudget (alarms.map .next) t s
      | none => none
    | .yield =>
      match giveWay background fuel t s with
      | some (t, s) =>
        match if ms = 0 then some (t, s) else elapse background fuel ms t s with
        | some (t, s) => performFrom background fuel (next .over) wokenBudget (alarms.map .next) t s
        | none => none
      | none => none
  | .never, _, _, _, _ => none

/-- A task in the foreground up to its end, begun in a turn of its own; nothing if it never ends. -/
def perform (background : Background σ) (fuel : Nat) (task : Task σ α) (t : Timeline σ) (s : σ) :
    Option (α × Timeline σ × σ) := performFrom background fuel task turnBudget [] t s

end Timeline

end EventLedger
