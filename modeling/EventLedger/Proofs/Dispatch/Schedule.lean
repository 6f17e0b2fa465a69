import EventLedger.Dispatch.Backoff
import EventLedger.Proofs.Dispatch.Chronicle
import Mathlib.Algebra.BigOperators.Group.List.Basic

/-!
# The schedule of a repeated operation

An operation that fails for the time being is called again until its attempts are used up, each time
behind a wait. The first wait is as long as it is given, the bound of the waits holds from the second
one on.

* `Backoff.wait`, `Backoff.callTime`: the waits in closed form, and when each call happens;
* `calling`: an operation with given outcomes that counts its calls;
* `again`: the outcomes behind which there is another call, if attempts are left;
* `chronicleFrom_retryFrom`: the rest of a schedule, by induction on the attempts left;
* **`retry_follows_schedule`**: the whole schedule;
* **`retry_waits_bounded`**: how far the bound of the waits is kept.
-/

namespace EventLedger

open EventLedger.Task

variable {σ ε α : Type}

/-! ## Waits -/

namespace Backoff

variable (b : Backoff)

/-- The attempts there are. -/
def attempts : Nat := max 1 b.maxAttempts

/-- The wait asked for behind a call, the first call being number zero. -/
def wait : Nat → Nat
  | 0 => b.initialWait
  | n + 1 => min (b.initialWait * Nat.pow 2 (n + 1)) b.maxWait

theorem nextWait_wait (n : Nat) : b.nextWait (b.wait n) = b.wait (n + 1) := by
  unfold nextWait
  cases n with
  | zero => simp [wait, Nat.mul_comm]
  | succ n =>
    have hpow : b.initialWait * Nat.pow 2 (n + 2) = 2 * (b.initialWait * Nat.pow 2 (n + 1)) := by
      rw [show Nat.pow 2 (n + 2) = Nat.pow 2 (n + 1) * 2 from rfl, Nat.mul_comm 2, Nat.mul_assoc]
    simp only [wait, hpow]
    omega

theorem wait_succ_le (n : Nat) : b.wait (n + 1) ≤ b.maxWait := Nat.min_le_right _ _

/-- The pause behind a call: the wait asked for, if it is not too long for a pause. -/
def pauseBehind (n : Nat) : Nat := min (b.wait n) longestPause

theorem pauseBehind_succ_le (n : Nat) : b.pauseBehind (n + 1) ≤ b.maxWait :=
  (Nat.min_le_left _ _).trans (b.wait_succ_le n)

/-- When a call happens, since the first one: behind all pauses in front of it. -/
def callTime (n : Nat) : Nat := ((List.range n).map b.pauseBehind).sum

theorem callTime_succ (n : Nat) : b.callTime (n + 1) = b.callTime n + b.pauseBehind n := by
  simp [callTime, List.range_succ]

theorem callTime_succ_le (n : Nat) : b.callTime (n + 1) ≤ b.pauseBehind 0 + n * b.maxWait := by
  induction n with
  | zero => simp [callTime]
  | succ n ih =>
    have hlast := b.pauseBehind_succ_le n
    rw [callTime_succ, Nat.succ_mul]
    omega

/-! ### Lengths of time

A length of time has 64 bits of seconds; its milliseconds are told in 64 bits, attempts in 32. -/

/-- The wait behind a wait of `ms`, if the double of it is a length of time. -/
def nextWait? (ms : Nat) : Option Nat :=
  if 2 * ms / 1000 < Nat.pow 2 64 then some (b.nextWait ms) else none

/-- The numbers have the width that they are given in. -/
structure Fits : Prop where
  maxAttempts : b.maxAttempts < Nat.pow 2 32
  initialWait : b.initialWait < Nat.pow 2 64
  maxWait : b.maxWait < Nat.pow 2 64

variable {b}

theorem Fits.attempts_lt (fits : b.Fits) : b.attempts < Nat.pow 2 32 :=
  Nat.max_lt.mpr ⟨by decide, fits.maxAttempts⟩

theorem Fits.wait_lt (fits : b.Fits) : ∀ n, b.wait n < Nat.pow 2 64
  | 0 => fits.initialWait
  | n + 1 => (b.wait_succ_le n).trans_lt fits.maxWait

theorem Fits.nextWait?_wait (fits : b.Fits) (n : Nat) :
    b.nextWait? (b.wait n) = some (b.wait (n + 1)) := by
  have h := fits.wait_lt n
  rw [nextWait?, if_pos (by omega), nextWait_wait]

end Backoff

/-! ## Calls -/

/-- An operation with these outcomes, one for each call; the state is the number of calls. -/
def calling (outcome : Nat → Except ε α) : Task Nat (Except ε α) :=
  act fun n => (outcome n, n + 1)

/-- The outcome is a failure for the time being. -/
def again (retryable : ε → Bool) : Except ε α → Bool
  | .ok _ => false
  | .error e => retryable e

theorem passage_ne_cut (budget ms limit : Nat) : passage budget ms [] [] ≠ .cut limit := by
  unfold passage
  split_ifs <;> simp [cutter?]

theorem chronicleFrom_pause_bind (ms : Nat) (f : Unit → Task σ α) (budget : Nat)
    (alarms : List Alarm) (now : Nat) (s : σ) :
    ∃ later, ((pause ms).bind f).chronicleFrom budget alarms now s =
      ((f ()).chronicleFrom later [] (now + min ms longestPause) s).after
        [min ms longestPause] [] := by
  simp only [pause, Task.bind, chronicleFrom, alarmsOf, List.map_nil]
  cases hp : passage budget (min ms longestPause) [] [] with
  | «over» => exact ⟨_, rfl⟩
  | cut limit => exact absurd hp (passage_ne_cut _ _ _)
  | wait => exact ⟨_, rfl⟩
  | yield => exact ⟨_, rfl⟩

section

variable (b : Backoff) (retryable : ε → Bool) (outcome : Nat → Except ε α)

theorem chronicleFrom_retryFrom_succ (left ms budget : Nat) (alarms : List Alarm) (now n : Nat) :
    (again retryable (outcome n) = false ∧
      (retryFrom b retryable (calling outcome) (left + 1) ms).chronicleFrom budget alarms now n =
        ⟨⟨some (outcome n), n + 1, []⟩, [(now, n + 1)]⟩) ∨
    (again retryable (outcome n) = true ∧ ∃ later,
      (retryFrom b retryable (calling outcome) (left + 1) ms).chronicleFrom budget alarms now n =
        ((retryFrom b retryable (calling outcome) left (b.nextWait ms)).chronicleFrom later []
          (now + min ms longestPause) (n + 1)).after [min ms longestPause] [(now, n + 1)]) := by
  rw [retryFrom]
  simp only [calling, act, Task.bind, chronicleFrom]
  cases houtcome : outcome n with
  | ok a => exact .inl ⟨rfl, rfl⟩
  | error e =>
    cases hretry : retryable e with
    | false => exact .inl ⟨hretry, by simp [hretry, chronicleFrom, Chronicle.after]⟩
    | true =>
      obtain ⟨later, h⟩ := chronicleFrom_pause_bind ms
        (fun _ => retryFrom b retryable (calling outcome) left (b.nextWait ms)) budget alarms now
        (n + 1)
      refine .inr ⟨hretry, later, ?_⟩
      simp only [hretry, if_true]
      exact (congrArg (Chronicle.after [] _) h).trans (Chronicle.after_after _ _ _ _ _)

/-- **The rest of a schedule**: call number `n` and those that follow. -/
theorem chronicleFrom_retryFrom (start left n budget : Nat) (alarms : List Alarm) :
    ∃ more ≤ left,
      (∀ i < more, again retryable (outcome (n + i)) = true) ∧
      (more < left → again retryable (outcome (n + more)) = false) ∧
      (retryFrom b retryable (calling outcome) left (b.wait n)).chronicleFrom budget alarms
          (start + b.callTime n) n =
        ⟨⟨some (outcome (n + more)), n + more + 1, (List.range' n more).map b.pauseBehind⟩,
          (List.range' n (more + 1)).map fun i => (start + b.callTime i, i + 1)⟩ := by
  induction left generalizing n budget alarms with
  | zero => exact ⟨0, Nat.le_refl 0, by simp, by simp, rfl⟩
  | succ left ih =>
    rcases chronicleFrom_retryFrom_succ b retryable outcome left (b.wait n) budget alarms
      (start + b.callTime n) n with ⟨hfinal, hrun⟩ | ⟨hagain, later, hrun⟩
    · exact ⟨0, by omega, by simp, fun _ => hfinal, hrun⟩
    · obtain ⟨more, hmore, hbefore, hlast, hrest⟩ := ih (n + 1) later []
      -- call `n + 1` happens behind the pause that follows call `n`
      have htime : start + b.callTime n + min (b.wait n) longestPause =
          start + b.callTime (n + 1) := by
        rw [b.callTime_succ, Backoff.pauseBehind]
        omega
      rw [b.nextWait_wait, htime, hrest] at hrun
      refine ⟨more + 1, by omega, fun i hi => ?_, fun h => ?_, ?_⟩
      · cases i with
        | zero => exact hagain
        | succ i => simpa [Nat.add_assoc, Nat.add_comm 1] using hbefore i (by omega)
      · simpa [Nat.add_assoc, Nat.add_comm 1] using hlast (by omega)
      · rw [hrun]
        simp [Chronicle.after, List.range'_succ, Backoff.pauseBehind, Nat.add_assoc, Nat.add_comm 1]

theorem chronicleFrom_retry (budget : Nat) (alarms : List Alarm) (start : Nat) :
    ∃ last < b.attempts,
      (∀ i < last, again retryable (outcome i) = true) ∧
      (last + 1 < b.attempts → again retryable (outcome last) = false) ∧
      (retry b retryable (calling outcome)).chronicleFrom budget alarms start 0 =
        ⟨⟨some (outcome last), last + 1, (List.range last).map b.pauseBehind⟩,
          (List.range (last + 1)).map fun i => (start + b.callTime i, i + 1)⟩ := by
  obtain ⟨last, hle, hbefore, hlast, h⟩ := chronicleFrom_retryFrom b retryable outcome start
    (max 1 b.maxAttempts - 1) 0 budget alarms
  simp only [Nat.zero_add] at hbefore hlast
  refine ⟨last, ?_, hbefore, fun hlt => hlast ?_, ?_⟩
  · unfold Backoff.attempts
    omega
  · unfold Backoff.attempts at hlt
    omega
  · simpa [retry, List.range_eq_range', Backoff.callTime, Backoff.wait] using h

end

/-! ## The schedule -/

/-- **The schedule of a repeated operation.** The last call is the first one that brings a success
or a failure for good, or the last attempt; its outcome is returned. Every call in front of it is
followed by its pause, every call happens behind the pauses so far, and no length of time is out of
bounds. -/
theorem retry_follows_schedule {b : Backoff} (fits : b.Fits) (retryable : ε → Bool)
    (outcome : Nat → Except ε α) (budget : Nat) (alarms : List Alarm) (start : Nat) :
    ∃ last < b.attempts,
      (∀ i < last, again retryable (outcome i) = true) ∧
      (last + 1 < b.attempts → again retryable (outcome last) = false) ∧
      (retry b retryable (calling outcome)).runFrom budget alarms 0 =
        ⟨some (outcome last), last + 1, (List.range last).map b.pauseBehind⟩ ∧
      ((retry b retryable (calling outcome)).chronicleFrom budget alarms start 0).changes =
        (List.range (last + 1)).map (fun i => (start + b.callTime i, i + 1)) ∧
      last + 1 < Nat.pow 2 32 ∧
      ∀ i ≤ last, b.wait i < Nat.pow 2 64 ∧ b.nextWait? (b.wait i) = some (b.wait (i + 1)) := by
  obtain ⟨last, hlt, hbefore, hlast, h⟩ :=
    chronicleFrom_retry b retryable outcome budget alarms start
  refine ⟨last, hlt, hbefore, hlast, ?_, by rw [h], ?_, ?_⟩
  · rw [← chronicleFrom_toOutcome _ budget alarms start, h]
  · have := fits.attempts_lt
    omega
  · exact fun i _ => ⟨fits.wait_lt i, fits.nextWait?_wait i⟩

theorem third_call_answered :
    (⟨5, 10, 15⟩ : Backoff).Fits ∧
    ((retry ⟨5, 10, 15⟩ (· == "down")
      (calling fun n => if n < 2 then .error "down" else .ok n)).run 0).waits = [10, 15] := by
  have fits : (⟨5, 10, 15⟩ : Backoff).Fits := ⟨by decide, by decide, by decide⟩
  obtain ⟨last, -, hbefore, hlast, hrun, -⟩ := retry_follows_schedule fits (· == "down")
    (fun n => if n < 2 then .error "down" else .ok n) turnBudget [] 0
  have hle : last ≤ 2 := Nat.le_of_not_lt fun h => by simpa [again] using hbefore 2 h
  have hge : 2 ≤ last := Nat.le_of_not_lt fun h => by
    have hattempts : last + 1 < (⟨5, 10, 15⟩ : Backoff).attempts := by
      simp only [Backoff.attempts]
      omega
    simpa [again, h] using hlast hattempts
  obtain rfl : last = 2 := Nat.le_antisymm hle hge
  exact ⟨fits, (congrArg Outcome.waits hrun).trans (by decide)⟩

/-- A wait of thirty years and a millisecond is over a millisecond early. -/
theorem longest_wait_cut_short :
    (⟨2, 946080000001, 946080000001⟩ : Backoff).Fits ∧
    (⟨2, 946080000001, 946080000001⟩ : Backoff).wait 0 = 946080000001 ∧
    ((retry ⟨2, 946080000001, 946080000001⟩ (fun _ => true)
      (calling fun _ => (.error "down" : Except String Unit))).chronicleFrom turnBudget [] 0
        0).changes = [(0, 1), (946080000000, 2)] :=
  ⟨⟨by decide, by decide, by decide⟩, rfl, by decide +kernel⟩

/-- **How far the bound of the waits is kept**: by every pause but the first one, and by the first
one unless it is longer from the beginning; by so much the whole of the pauses may be longer. -/
theorem retry_waits_bounded (b : Backoff) (retryable : ε → Bool) (outcome : Nat → Except ε α)
    (budget : Nat) (alarms : List Alarm) :
    let o := (retry b retryable (calling outcome)).runFrom budget alarms 0
    o.waits.length < b.attempts ∧
    (∀ ms ∈ o.waits.head?, ms = min b.initialWait longestPause) ∧
    (∀ ms ∈ o.waits.tail, ms ≤ b.maxWait) ∧
    ((∀ ms ∈ o.waits, ms ≤ b.maxWait) ↔
      o.waits = [] ∨ min b.initialWait longestPause ≤ b.maxWait) ∧
    o.elapsed ≤ (b.attempts - 1) * b.maxWait + (min b.initialWait longestPause - b.maxWait) := by
  obtain ⟨last, hlt, -, -, h⟩ := chronicleFrom_retry b retryable outcome budget alarms 0
  have hrun : (retry b retryable (calling outcome)).runFrom budget alarms 0 =
      ⟨some (outcome last), last + 1, (List.range last).map b.pauseBehind⟩ := by
    rw [← chronicleFrom_toOutcome _ budget alarms 0, h]
  have helapsed : (⟨some (outcome last), last + 1, (List.range last).map b.pauseBehind⟩ :
      Outcome Nat (Except ε α)).elapsed = b.callTime last := rfl
  dsimp only
  rw [hrun, helapsed]
  cases last with
  | zero => simp [Backoff.callTime, hlt]
  | succ last =>
    have hlater : ∀ ms ∈ (List.range last).map fun i => b.pauseBehind (i + 1), ms ≤ b.maxWait := by
      simpa using fun i _ => b.pauseBehind_succ_le i
    have hwaits : (List.range (last + 1)).map b.pauseBehind =
        min b.initialWait longestPause :: (List.range last).map fun i => b.pauseBehind (i + 1) := by
      rw [List.range_succ_eq_map, List.map_cons, List.map_map]
      rfl
    rw [hwaits]
    refine ⟨by simpa using hlt, by simp, hlater, ?_, ?_⟩
    · simpa using fun _ => hlater
    · have htime := b.callTime_succ_le last
      have hmul : (last + 1) * b.maxWait ≤ (b.attempts - 1) * b.maxWait :=
        Nat.mul_le_mul_right _ (by omega)
      have hfirst : b.pauseBehind 0 = min b.initialWait longestPause := rfl
      rw [Nat.succ_mul] at hmul
      omega

/-- A first wait of 700 milliseconds under a bound of 300. -/
theorem first_wait_above_bound :
    let o := (retry ⟨2, 700, 300⟩ (fun _ => true)
      (calling fun _ => (.error "down" : Except String Unit))).run 0
    (∃ ms ∈ o.waits, 300 < ms) ∧ (2 - 1) * 300 < o.elapsed := by
  decide +kernel

end EventLedger
