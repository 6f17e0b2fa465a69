import EventLedger.Dispatch.Task

/-!
# Trying again

* `Backoff`: how often and after which waits an operation is tried again;
* `retry`: an operation tried until it succeeds, fails for good or has used up its attempts.
-/

namespace EventLedger

/-- How often and how patiently an operation is repeated. -/
structure Backoff where
  /-- All attempts, the first one included; none counts as one. -/
  maxAttempts : Nat
  /-- Milliseconds before the second attempt; each later wait is twice as long. -/
  initialWait : Nat
  /-- The bound of the later waits. -/
  maxWait : Nat
  deriving DecidableEq, Repr

namespace Backoff

/-- Three attempts. -/
def standard : Backoff := ⟨3, 100, 5000⟩

/-- A single attempt. -/
def single : Backoff := { standard with maxAttempts := 1 }

/-- The wait behind a wait of `ms`. -/
def nextWait (b : Backoff) (ms : Nat) : Nat := min (2 * ms) b.maxWait

end Backoff

variable {σ ε α : Type}

/-- An operation tried once and then up to `left` times more, the next wait being `ms`. -/
def retryFrom (b : Backoff) (retryable : ε → Bool) (operation : Task σ (Except ε α)) :
    (left ms : Nat) → Task σ (Except ε α)
  | 0, _ => operation
  | left + 1, ms => operation.bind fun
    | .ok a => .done (.ok a)
    | .error e =>
      if retryable e then
        (Task.pause ms).bind fun _ => retryFrom b retryable operation left (b.nextWait ms)
      else .done (.error e)

/-- An operation tried until it succeeds, fails for good or has used up its attempts. -/
def retry (b : Backoff) (retryable : ε → Bool) (operation : Task σ (Except ε α)) :
    Task σ (Except ε α) :=
  retryFrom b retryable operation (max 1 b.maxAttempts - 1) b.initialWait

end EventLedger
