import EventLedger.Dispatch.Turn
import Mathlib.Algebra.Ring.Nat

/-!
# What a task did and when

A chronicle is the outcome of a task run alone together with its changes of the state, each with the
instant at which it happened. One task after another has one chronicle after the other, provided that
the second one begins under limits of its own.

* `Chronicle`, `chronicleFrom`: every change with its instant;
* **`chronicleFrom_toOutcome`**: the rest is what `runFrom` says;
* `budgetBehind`: what a wait leaves of the budget;
* `Heedless`: a task that does not look at alarms set before it;
* **`chronicleFrom_bind`**: one task after another.
-/

namespace EventLedger.Task

variable {σ α β : Type}

/-- What a task run alone did, with the states that its changes brought about and their instants. -/
structure Chronicle (σ α : Type) extends Outcome σ α where
  changes : List (Nat × σ)

namespace Chronicle

/-- Waits and changes in front of everything else. -/
def after (waits : List Nat) (changes : List (Nat × σ)) (c : Chronicle σ α) : Chronicle σ α :=
  ⟨⟨c.result, c.state, waits ++ c.waits⟩, changes ++ c.changes⟩

theorem after_after (ws vs : List Nat) (cs ds : List (Nat × σ)) (c : Chronicle σ α) :
    (c.after vs ds).after ws cs = c.after (ws ++ vs) (cs ++ ds) := by
  simp [after]

theorem toOutcome_after (ws : List Nat) (cs : List (Nat × σ)) (c : Chronicle σ α) :
    (c.after ws cs).toOutcome =
      ⟨c.toOutcome.result, c.toOutcome.state, ws ++ c.toOutcome.waits⟩ := rfl

end Chronicle

/-- A task that goes on alone at an instant, with what is left of its budget. -/
def chronicleFrom : Task σ α → (budget : Nat) → List Alarm → (now : Nat) → σ → Chronicle σ α
  | done a, _, _, _, s => ⟨⟨some a, s, []⟩, []⟩
  | step change next, budget, alarms, now, s =>
    (chronicleFrom (next s) budget alarms now (change s)).after [] [(now, change s)]
  | wait ms limits next, budget, before, now, s =>
    let alarms := alarmsOf budget limits before
    match passage budget ms limits alarms with
    | .over => (chronicleFrom (next .over) (budget - 1) alarms (now + ms) s).after [ms] []
    | .cut limit => chronicleFrom (next (.cut limit)) budget (alarms.take limit) now s
    | .wait | .yield =>
      (chronicleFrom (next .over) wokenBudget (alarms.map .next) (now + ms) s).after [ms] []
  | never, _, _, _, s => ⟨⟨none, s, []⟩, []⟩

/-- **A chronicle tells of the run**, which does not depend on the clock. -/
theorem chronicleFrom_toOutcome (t : Task σ α) (budget : Nat) (alarms : List Alarm) (now : Nat)
    (s : σ) : (t.chronicleFrom budget alarms now s).toOutcome = t.runFrom budget alarms s := by
  induction t generalizing budget alarms now s with
  | done a => rfl
  | step change next ih => exact ih s budget alarms now (change s)
  | wait ms limits next ih =>
    rw [chronicleFrom, runFrom]
    dsimp only
    rcases passage budget ms limits (alarmsOf budget limits alarms) with _ | limit | _ | _
    · rw [Chronicle.toOutcome_after, ih]
      rfl
    · exact ih _ _ _ _ _
    · rw [Chronicle.toOutcome_after, ih]
      rfl
    · rw [Chronicle.toOutcome_after, ih]
      rfl
  | never => rfl

/-- What a wait that passes leaves of the budget. -/
def budgetBehind (budget ms : Nat) : Nat :=
  if ms = 0 ∧ 0 < budget then budget - 1 else wokenBudget

theorem budgetBehind_of_over {budget ms : Nat} {limits : List Limit} {alarms : List Alarm}
    (h : passage budget ms limits alarms = .over) : budgetBehind budget ms = budget - 1 := by
  unfold passage at h
  split at h
  · split at h <;> cases h
  · split at h
    · rw [budgetBehind, if_pos (by omega)]
    · cases h

theorem budgetBehind_of_stop {budget ms : Nat} {limits : List Limit} {alarms : List Alarm}
    (h : passage budget ms limits alarms = .wait ∨ passage budget ms limits alarms = .yield) :
    budgetBehind budget ms = wokenBudget := by
  unfold passage at h
  split at h
  · rw [budgetBehind, if_neg (by omega)]
  · split at h
    · rcases h with h | h <;> cases h
    · rw [budgetBehind, if_neg (by omega)]

/-! ## One task after another -/

/-- The first wait of the task stands under new limits only. -/
def Heedless : Task σ α → Prop
  | .done _ => True
  | .step _ next => ∀ s, (next s).Heedless
  | .wait _ limits _ => ∀ l ∈ limits, l.fresh = true
  | .never => True

theorem heedless_done (a : α) : (done a : Task σ α).Heedless := trivial

theorem Heedless.bind {t : Task σ α} {f : α → Task σ β} (ht : t.Heedless)
    (hf : ∀ a, (f a).Heedless) : (t.bind f).Heedless := by
  induction t with
  | done a => exact hf a
  | step change next ih => exact fun s => ih s (ht s)
  | wait ms limits next _ => exact ht
  | never => trivial

theorem alarmsOf_of_fresh {limits : List Limit} (h : ∀ l ∈ limits, l.fresh = true) (budget : Nat)
    (before : List Alarm) : alarmsOf budget limits before = alarmsOf budget limits [] := by
  induction limits generalizing before with
  | nil => rfl
  | cons l limits ih =>
    have hl : l.fresh = true := h l List.mem_cons_self
    have hrest := ih fun l hl => h l (List.mem_cons_of_mem _ hl)
    simp only [alarmsOf, hl, if_true, List.tail_nil]
    rw [hrest]

theorem Heedless.chronicleFrom_eq {t : Task σ α} (h : t.Heedless) (budget : Nat)
    (alarms : List Alarm) (now : Nat) (s : σ) :
    t.chronicleFrom budget alarms now s = t.chronicleFrom budget [] now s := by
  induction t generalizing s with
  | done a => rfl
  | step change next ih => exact congrArg (Chronicle.after [] _) (ih s (h s) (change s))
  | wait ms limits next _ =>
    rw [chronicleFrom, chronicleFrom, alarmsOf_of_fresh h]
  | never => rfl

/-- **The second task goes on where the first one ended.** -/
theorem chronicleFrom_bind (t : Task σ α) {f : α → Task σ β} (hf : ∀ a, (f a).Heedless) {a : α}
    {budget now : Nat} {alarms : List Alarm} {s : σ}
    (h : (t.chronicleFrom budget alarms now s).result = some a) :
    (t.bind f).chronicleFrom budget alarms now s =
      ((f a).chronicleFrom
        ((t.chronicleFrom budget alarms now s).waits.foldl budgetBehind budget) []
        (now + (t.chronicleFrom budget alarms now s).waits.sum)
        (t.chronicleFrom budget alarms now s).state).after
        (t.chronicleFrom budget alarms now s).waits
        (t.chronicleFrom budget alarms now s).changes := by
  induction t generalizing budget alarms now s with
  | done b =>
    obtain rfl := Option.some.inj h
    exact (hf _).chronicleFrom_eq budget alarms now s
  | step change next ih =>
    rw [bind, chronicleFrom, ih s h, Chronicle.after_after]
    rfl
  | wait ms limits next ih =>
    rw [chronicleFrom] at h
    rw [bind, chronicleFrom, chronicleFrom]
    -- the wait passes: it stands in front of what the first task did behind it
    have hpassed : ∀ later alarms', budgetBehind budget ms = later →
        ((next .over).chronicleFrom later alarms' (now + ms) s).result = some a →
        (((next .over).bind f).chronicleFrom later alarms' (now + ms) s).after [ms] [] =
          ((f a).chronicleFrom
            ((ms :: ((next .over).chronicleFrom later alarms' (now + ms) s).waits).foldl
              budgetBehind budget) []
            (now + (ms :: ((next .over).chronicleFrom later alarms' (now + ms) s).waits).sum)
            ((next .over).chronicleFrom later alarms' (now + ms) s).state).after
            (ms :: ((next .over).chronicleFrom later alarms' (now + ms) s).waits)
            ((next .over).chronicleFrom later alarms' (now + ms) s).changes := by
      intro later alarms' hlater hresult
      rw [ih .over hresult, Chronicle.after_after, List.foldl_cons, List.sum_cons, hlater,
        ← Nat.add_assoc]
      rfl
    cases hp : passage budget ms limits (alarmsOf budget limits alarms) with
    | «over» =>
      rw [hp] at h
      exact hpassed _ _ (budgetBehind_of_over hp) h
    | cut limit =>
      rw [hp] at h
      exact ih (.cut limit) h
    | wait =>
      rw [hp] at h
      exact hpassed _ _ (budgetBehind_of_stop (.inl hp)) h
    | yield =>
      rw [hp] at h
      exact hpassed _ _ (budgetBehind_of_stop (.inr hp)) h
  | never => cases h

theorem chronicleFrom_bind_of_eq {t : Task σ α} {f : α → Task σ β} (hf : ∀ a, (f a).Heedless)
    {a : α} {budget now : Nat} {alarms : List Alarm} {s mid : σ} {waits : List Nat}
    {changes : List (Nat × σ)}
    (h : t.chronicleFrom budget alarms now s = ⟨⟨some a, mid, waits⟩, changes⟩) :
    (t.bind f).chronicleFrom budget alarms now s =
      ((f a).chronicleFrom (waits.foldl budgetBehind budget) [] (now + waits.sum) mid).after
        waits changes := by
  rw [chronicleFrom_bind t hf (congrArg (·.result) h), h]

theorem chronicleFrom_bind_done {t : Task σ α} (f : α → β) {a : α} {budget now : Nat}
    {alarms : List Alarm} {s mid : σ} {waits : List Nat} {changes : List (Nat × σ)}
    (h : t.chronicleFrom budget alarms now s = ⟨⟨some a, mid, waits⟩, changes⟩) :
    (t.bind fun a => .done (f a)).chronicleFrom budget alarms now s =
      ⟨⟨some (f a), mid, waits⟩, changes⟩ := by
  rw [chronicleFrom_bind_of_eq (fun a => heedless_done (f a)) h]
  simp [chronicleFrom, Chronicle.after]

theorem chronicleFrom_look_bind (f : σ → Task σ α) (budget : Nat) (alarms : List Alarm) (now : Nat)
    (s : σ) : (look.bind f).chronicleFrom budget alarms now s =
      ((f s).chronicleFrom budget alarms now s).after [] [(now, s)] := rfl

end EventLedger.Task
