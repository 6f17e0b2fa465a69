import EventLedger.Dispatch.Timeline
import EventLedger.Proofs.Dispatch.Likeness

/-!
# The foreground alone

As long as nothing is begun in the background, a task in the foreground does what it does when it is run
alone, and the clock is put forward by its waits. A task that is performed begins a turn of its own,
whatever was performed before it.

* `Background.Idle`, `Timeline.quiet`: no task but the one in the foreground;
* `elapse_quiet`, `giveWay_quiet`: the clock while the foreground waits;
* `performFrom_quiet`, **`perform_quiet`**, `perform_of_account`.
-/

namespace EventLedger

open EventLedger.Task

variable {σ α : Type}

/-- Nothing is ever begun in the background. -/
def Background.Idle (background : Background σ) : Prop := ∀ s, background s = ([], s)

theorem eq_zero_of_passage_over {budget ms : Nat} {limits : List Limit} {alarms : List Alarm}
    (h : passage budget ms limits alarms = .over) : ms = 0 := by
  unfold passage at h
  split at h
  · split at h <;> cases h
  · split at h
    · assumption
    · cases h

namespace Timeline

/-- Only the task in the foreground is there. -/
def quiet (now turns : Nat) : Timeline σ := ⟨now, turns, [], [], []⟩

section

variable {background : Background σ} (hidle : background.Idle)

include hidle

theorem takeBegun_idle (t : Timeline σ) (s : σ) : t.takeBegun background s = (t, s) := by
  rw [takeBegun, hidle s]
  simp

theorem elapse_quiet (fuel ms now turns : Nat) (s : σ) :
    elapse background (fuel + 1) ms (quiet now turns) s = some (quiet (now + ms) turns, s) := by
  rw [elapse, takeBegun_idle hidle]
  simp [quiet, settle, nextInstant, reach]

theorem giveWay_quiet (fuel now turns : Nat) (s : σ) :
    giveWay background (fuel + 1) (quiet now turns) s = some (quiet now turns, s) := by
  rw [giveWay, takeBegun_idle hidle]
  simp [quiet, settle, endRound]

theorem performFrom_quiet (fuel : Nat) (task : Task σ α) (budget : Nat) (alarms : List Alarm)
    (now turns : Nat) (s : σ) :
    performFrom background (fuel + 1) task budget alarms (quiet now turns) s =
      let o := task.runFrom budget alarms s
      o.result.map fun a => (a, quiet (now + o.elapsed) turns, o.state) := by
  induction task generalizing budget alarms now s with
  | done a => rfl
  | step change next ih => exact ih s budget alarms now (change s)
  | wait ms limits next ih =>
    rw [performFrom, runFrom]
    dsimp only
    have hbehind (o : Outcome σ α) : now + Outcome.elapsed { o with waits := ms :: o.waits } =
        now + ms + o.elapsed := (Nat.add_assoc now ms o.elapsed).symm
    cases hp : passage budget ms limits (alarmsOf budget limits alarms) with
    | «over» =>
      dsimp only
      rw [ih, hbehind, eq_zero_of_passage_over hp]
      rfl
    | cut limit => exact ih (.cut limit) budget _ now s
    | wait =>
      dsimp only
      rw [elapse_quiet hidle, hbehind]
      exact ih .over _ _ (now + ms) s
    | yield =>
      dsimp only
      rw [giveWay_quiet hidle, hbehind]
      by_cases hms : ms = 0
      · rw [hms]
        exact ih .over _ _ now s
      · dsimp only
        rw [if_neg hms, elapse_quiet hidle]
        exact ih .over _ _ (now + ms) s
  | never => rfl

/-- **A task that is performed is run alone from the beginning of a turn**, as long as nothing is begun
in the background. -/
theorem perform_quiet (fuel : Nat) (task : Task σ α) (now turns : Nat) (s : σ) :
    (quiet now turns).perform background (fuel + 1) task s =
      (task.run s).result.map fun a =>
        (a, quiet (now + (task.run s).elapsed) turns, (task.run s).state) :=
  performFrom_quiet hidle fuel task turnBudget [] now turns s

/-- What can be told of a task comes true when it is performed. -/
theorem perform_of_account {ω : Type} {task : Task σ α} {view : σ → ω} {s : σ} {a : α} {seen : ω}
    {changes : List (Nat × ω)} {time : Nat}
    (h : (task.chronicleFrom turnBudget [] 0 s).account view = ⟨some a, seen, changes, time⟩)
    (fuel now turns : Nat) :
    ∃ last, (quiet now turns).perform background (fuel + 1) task s =
      some (a, quiet (now + time) turns, last) ∧ view last = seen := by
  obtain ⟨hresult, hseen, -, htime⟩ := Account.mk.inj h
  have hrun : (task.chronicleFrom turnBudget [] 0 s).toOutcome = task.run s :=
    chronicleFrom_toOutcome task turnBudget [] 0 s
  rw [hrun] at hresult hseen htime
  exact ⟨(task.run s).state, by rw [perform_quiet hidle, hresult, htime]; rfl, hseen⟩

end

end Timeline

end EventLedger
