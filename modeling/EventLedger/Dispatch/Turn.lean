import EventLedger.Dispatch.Task

/-!
# Turns of tasks

A task goes on in turns. In a turn it goes on until it has to wait. Waits of no time are passed
over, but a turn has a budget for that: when it is used up, the task gives way to the others, even
if it could go on, and continues in a turn of its own later. A limit of which no time is left cuts a
wait off that would have to give way.

* `turnBudget`: the budget of a turn;
* `Alarm`, `alarmsOf`: what a turn knows about time limits;
* `Passage`, `passage`: what becomes of a wait;
* `Task.turn`, `Halt`: a task in one turn, and where it stops;
* `Task.run`, `Outcome`: a task run alone to its end, with its waits.
-/

namespace EventLedger

/-- The waits that a turn has room for. -/
def turnBudget : Nat := 128

/-- What a turn knows about a time limit under way. -/
structure Alarm where
  /-- The turn in which its time began to count. -/
  set : Option Nat
  /-- The turn had some budget when it came to the limit, so that the limit may cut off. -/
  armed : Bool
  deriving DecidableEq, Repr

namespace Alarm

/-- The alarm of a limit that a turn with some budget comes to. -/
def new (budget : Nat) : Alarm := ⟨none, 0 < budget⟩

/-- The alarm set, unless it has been. -/
def setIn (turn : Nat) (a : Alarm) : Alarm := { a with set := a.set.or (some turn) }

/-- The alarm as the next turn finds it. -/
def next (a : Alarm) : Alarm := { a with armed := true }

end Alarm

/-- The alarms of limits, the outermost first: new ones for fresh limits, the others as before. -/
def alarmsOf (budget : Nat) : List Limit → (before : List Alarm) → List Alarm
  | [], _ => []
  | l :: limits, before =>
    (if l.fresh then .new budget else before.headD (.new budget)) ::
      alarmsOf budget limits before.tail

/-- The innermost limit of which no time is left and which may cut off. -/
def cutter? (limits : List Limit) (alarms : List Alarm) : Option Nat :=
  ((limits.zip alarms).zipIdx.filter fun ((l, a), _) => l.left == 0 && a.armed).getLast?.map (·.2)

/-- What becomes of a wait. -/
inductive Passage where
  /-- It takes no time and is passed over. -/
  | over
  /-- A limit cuts it off. -/
  | cut (limit : Nat)
  /-- Time has to pass. -/
  | wait
  /-- The others have their turn first. -/
  | yield
  deriving DecidableEq, Repr

/-- What becomes of a wait when so much of the budget is left. -/
def passage (budget ms : Nat) (limits : List Limit) (alarms : List Alarm) : Passage :=
  if budget = 0 then
    match cutter? limits alarms with
    | some limit => .cut limit
    | none => .yield
  else if ms = 0 then .over
  else .wait

/-- The budget of a turn that begins with the end of a wait. -/
def wokenBudget : Nat := turnBudget - 1

/-- Where a task stops in a turn. -/
inductive Halt (σ α : Type) where
  | ended (result : α)
  /-- It goes on after a wait; the alarm that wakes it was set in the turn `waking`. -/
  | waiting (ms waking : Nat) (alarms : List Alarm) (rest : Task σ α)
  /-- It gave way. -/
  | yielded (alarms : List Alarm) (rest : Task σ α)
  | stopped

/-- When the alarm was set that ends a wait of `ms`: the earliest of those that go off then. -/
def wakingTurn (turn ms : Nat) (limits : List Limit) (alarms : List Alarm) : Nat :=
  (limits.zip alarms).foldl
    (fun first (l, a) => if l.left = ms then min first (a.set.getD turn) else first) turn

namespace Task

variable {σ α : Type}

/-- A task in the turn of the given number, with what is left of its budget. -/
def turn (number : Nat) : Task σ α → (budget : Nat) → List Alarm → σ → Halt σ α × σ
  | done a, _, _, s => (.ended a, s)
  | step change next, budget, alarms, s => turn number (next s) budget alarms (change s)
  | wait ms limits next, budget, before, s =>
    let alarms := alarmsOf budget limits before
    match passage budget ms limits alarms with
    | .over => turn number (next .over) (budget - 1) alarms s
    | .cut limit => turn number (next (.cut limit)) budget (alarms.take limit) s
    | .wait =>
      let set := alarms.map (·.setIn number)
      (.waiting ms (wakingTurn number ms limits set) (set.map .next) (next .over), s)
    | .yield =>
      let set := alarms.map fun a => if a.armed then a.setIn number else a
      let known := limits.map fun l => { l with fresh := false }
      (.yielded (set.map .next) (wait ms known next), s)
  | never, _, _, s => (.stopped, s)

/-- What a task did: its result, if it ended, the last state and its waits. -/
structure Outcome (σ α : Type) where
  result : Option α
  state : σ
  waits : List Nat

/-- A task that goes on alone with what is left of its budget. -/
def runFrom : Task σ α → (budget : Nat) → List Alarm → σ → Outcome σ α
  | done a, _, _, s => ⟨some a, s, []⟩
  | step change next, budget, alarms, s => runFrom (next s) budget alarms (change s)
  | wait ms limits next, budget, before, s =>
    let alarms := alarmsOf budget limits before
    match passage budget ms limits alarms with
    | .over =>
      let o := runFrom (next .over) (budget - 1) alarms s
      { o with waits := ms :: o.waits }
    | .cut limit => runFrom (next (.cut limit)) budget (alarms.take limit) s
    | .wait | .yield =>
      let o := runFrom (next .over) wokenBudget (alarms.map .next) s
      { o with waits := ms :: o.waits }
  | never, _, _, s => ⟨none, s, []⟩

/-- A task run alone. -/
def run (t : Task σ α) (s : σ) : Outcome σ α := runFrom t turnBudget [] s

/-- How long a task ran. -/
def Outcome.elapsed (o : Outcome σ α) : Nat := o.waits.foldr (· + ·) 0

end Task

end EventLedger
