/-!
# Tasks in virtual time

A task changes a state, waits and ends with a result, or waits for ever. Waiting takes virtual
milliseconds and nothing else.

* `Limit`: a time limit that a wait stands under;
* `Ending`: how a wait ends;
* `Task`, `Task.bind`: tasks, and one task after another;
* `Task.act`, `Task.pause`: a change of the state and a pause as tasks;
* `Task.within`: a task with a time limit.
-/

namespace EventLedger

/-- A time limit under way when a wait begins. -/
structure Limit where
  /-- The milliseconds until it cuts off. -/
  left : Nat
  /-- This wait is the first one under it. -/
  fresh : Bool
  deriving DecidableEq, Repr

/-- How a wait ends. -/
inductive Ending where
  /-- All of its time has passed. -/
  | over
  /-- One of its limits cut it off before it began; the outermost limit is number zero. -/
  | cut (limit : Nat)
  deriving DecidableEq, Repr

/-- A task over a state `σ` with a result in `α`. -/
inductive Task (σ α : Type) : Type where
  | done (result : α)
  /-- The state is changed; what follows depends on the state found before. -/
  | step (change : σ → σ) (next : σ → Task σ α)
  /-- Time passes under the limits of the tasks around, the outermost first. -/
  | wait (ms : Nat) (limits : List Limit) (next : Ending → Task σ α)
  /-- Nothing happens any more. -/
  | never

namespace Task

variable {σ α β : Type}

/-- One task after another. -/
def bind : Task σ α → (α → Task σ β) → Task σ β
  | done a, f => f a
  | step change next, f => step change fun s => (next s).bind f
  | wait ms limits next, f => wait ms limits fun ending => (next ending).bind f
  | never, _ => never

instance : Monad (Task σ) where
  pure := done
  bind := bind

/-- A change of the state that yields a result. -/
def act (action : StateM σ α) : Task σ α := step (fun s => (action s).2) fun s => done (action s).1

/-- The state as it is. -/
def look : Task σ σ := step id done

/-- A change of the state. -/
def change (f : σ → σ) : Task σ Unit := step f fun _ => done ()

/-- No pause is longer than thirty years of 365 days. -/
def longestPause : Nat := 30 * 365 * 86400 * 1000

/-- A pause; one that is too long is cut short. -/
def pause (ms : Nat) : Task σ Unit := wait (min ms longestPause) [] fun _ => done ()

/-- The rest of a task with a time limit, of which `left` milliseconds are left; `fresh` as long as
there has been no wait under it. A limit further inside counts from the task's own limits on. -/
def withinFrom : (fresh : Bool) → (left : Nat) → Task σ α → Task σ (Option α)
  | _, _, done a => done (some a)
  | fresh, left, step change next => step change fun s => withinFrom fresh left (next s)
  | fresh, left, wait ms limits next =>
    wait (min ms left) (⟨left, fresh⟩ :: limits) fun
      | .over => if ms ≤ left then withinFrom false (left - ms) (next .over) else done none
      | .cut 0 => done none
      | .cut (limit + 1) => withinFrom false left (next (.cut limit))
  | fresh, left, never => wait left [⟨left, fresh⟩] fun _ => done none

/-- A task with a time limit: it is cut off at the limit unless it has ended by then. -/
def within (limit : Nat) (t : Task σ α) : Task σ (Option α) := withinFrom true limit t

end Task

end EventLedger
