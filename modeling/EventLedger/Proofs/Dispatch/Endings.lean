import EventLedger.Dispatch.Turn

/-!
# How tasks end

What can be said of a task whatever the others do while it waits and however its waits end. To run a
task alone is one of these ways.

* `Task.Ends`: a task ends with a result, the others keeping to a relation;
* `Task.Keeps`, `Task.Ends.kept`: every step of a task keeps to it too, and so does the whole;
* `Task.swift?`, `Task.Ends.eq_of_swift`: a task that never waits;
* `Task.Stops`, **`Task.exists_result_run`**, **`Task.ends_of_run`**: tasks run alone.
-/

namespace EventLedger.Task

variable {σ α β : Type}

theorem bind_assoc {γ : Type} (t : Task σ α) (f : α → Task σ β) (g : β → Task σ γ) :
    (t.bind f).bind g = t.bind fun a => (f a).bind g := by
  induction t with
  | done a => rfl
  | step change next ih => exact congrArg (step change) (funext ih)
  | wait ms limits next ih => exact congrArg (wait ms limits) (funext ih)
  | never => rfl

/-! ## Endings -/

/-- A task begun in a state ends with a result in another. While it waits, others change the state
within `rely`, and a wait may end in any way. -/
inductive Ends (rely : σ → σ → Prop) : Task σ α → σ → α → σ → Prop where
  | done (a : α) (s : σ) : Ends rely (.done a) s a s
  | step {change : σ → σ} {next : σ → Task σ α} {s later : σ} {a : α} :
    Ends rely (next s) (change s) a later → Ends rely (.step change next) s a later
  | wait {ms : Nat} {limits : List Limit} {next : Ending → Task σ α} {s other later : σ} {a : α}
    (ending : Ending) :
    rely s other → Ends rely (next ending) other a later →
    Ends rely (.wait ms limits next) s a later

variable {rely : σ → σ → Prop}

theorem ends_done {a b : α} {s later : σ} (h : Ends rely (.done a) s b later) :
    b = a ∧ later = s := by
  cases h
  exact ⟨rfl, rfl⟩

theorem ends_bind {t : Task σ α} {f : α → Task σ β} {s later : σ} {b : β}
    (h : (t.bind f).Ends rely s b later) :
    ∃ a mid, t.Ends rely s a mid ∧ (f a).Ends rely mid b later := by
  induction t generalizing s with
  | done a => exact ⟨a, s, .done a s, h⟩
  | step change next ih =>
    cases h with
    | step h1 =>
      obtain ⟨a, mid, h2, h3⟩ := ih s h1
      exact ⟨a, mid, .step h2, h3⟩
  | wait ms limits next ih =>
    cases h with
    | wait ending hr h1 =>
      obtain ⟨a, mid, h2, h3⟩ := ih ending h1
      exact ⟨a, mid, .wait ending hr h2, h3⟩
  | never => cases h

theorem ends_look_bind {f : σ → Task σ α} {s later : σ} {a : α}
    (h : (look.bind f).Ends rely s a later) : (f s).Ends rely s a later := by
  cases h with
  | step h1 => exact h1

/-! ## Tasks that keep to a relation -/

/-- Every step of a task keeps to the relation. -/
def Keeps (rely : σ → σ → Prop) : Task σ α → Prop
  | .done _ => True
  | .step change next => ∀ s, rely s (change s) ∧ (next s).Keeps rely
  | .wait _ _ next => ∀ ending, (next ending).Keeps rely
  | .never => True

theorem Keeps.bind {t : Task σ α} {f : α → Task σ β} (ht : t.Keeps rely)
    (hf : ∀ a, (f a).Keeps rely) : (t.bind f).Keeps rely := by
  induction t with
  | done a => exact hf a
  | step change next ih => exact fun s => ⟨(ht s).1, ih s (ht s).2⟩
  | wait ms limits next ih => exact fun ending => ih ending (ht ending)
  | never => trivial

theorem Keeps.withinFrom {t : Task σ α} (ht : t.Keeps rely) (fresh : Bool) (left : Nat) :
    (t.withinFrom fresh left).Keeps rely := by
  induction t generalizing fresh left with
  | done a => trivial
  | step change next ih => exact fun s => ⟨(ht s).1, ih s (ht s).2 fresh left⟩
  | wait ms limits next ih =>
    rw [Task.withinFrom]
    intro ending
    match ending with
    | .over =>
      dsimp only
      by_cases h : ms ≤ left
      · rw [if_pos h]
        exact ih .over (ht .over) false (left - ms)
      · rw [if_neg h]
        trivial
    | .cut 0 => trivial
    | .cut (limit + 1) => exact ih (.cut limit) (ht (.cut limit)) false left
  | never =>
    rw [Task.withinFrom]
    exact fun _ => trivial

/-- **A task that keeps to the relation, among others that do, keeps to it as a whole.** -/
theorem Ends.kept {t : Task σ α} {s later : σ} {a : α} (h : t.Ends rely s a later)
    (hr : ∀ s, rely s s) (ht : ∀ {s mid later}, rely s mid → rely mid later → rely s later)
    (hk : t.Keeps rely) : rely s later := by
  induction h with
  | done a s => exact hr s
  | step _ ih => exact ht (hk _).1 (ih (hk _).2)
  | wait ending ho _ ih => exact ht ho (ih (hk ending))

/-! ## Tasks that never wait -/

/-- What a task ends with, and in which state, unless it waits. -/
def swift? : Task σ α → σ → Option (α × σ)
  | .done a, s => some (a, s)
  | .step change next, s => (next s).swift? (change s)
  | .wait _ _ _, _ => none
  | .never, _ => none

theorem swift?_bind {t : Task σ α} {s mid : σ} {a : α} (h : t.swift? s = some (a, mid))
    (f : α → Task σ β) : (t.bind f).swift? s = (f a).swift? mid := by
  induction t generalizing s with
  | done b =>
    obtain ⟨rfl, rfl⟩ := Prod.mk.inj (Option.some.inj h)
    rfl
  | step change next ih => exact ih s h
  | wait ms limits next _ => cases h
  | never => cases h

theorem swift?_withinFrom {t : Task σ α} {s later : σ} {a : α} (h : t.swift? s = some (a, later))
    (fresh : Bool) (left : Nat) : (t.withinFrom fresh left).swift? s = some (some a, later) := by
  induction t generalizing s with
  | done b =>
    obtain ⟨rfl, rfl⟩ := Prod.mk.inj (Option.some.inj h)
    rfl
  | step change next ih => exact ih s h
  | wait ms limits next _ => cases h
  | never => cases h

theorem Ends.eq_of_swift {t : Task σ α} {s mid later : σ} {a b : α}
    (h : t.Ends rely s b later) (hs : t.swift? s = some (a, mid)) : b = a ∧ later = mid := by
  induction h with
  | done b s =>
    obtain ⟨rfl, rfl⟩ := Prod.mk.inj (Option.some.inj hs)
    exact ⟨rfl, rfl⟩
  | step _ ih => exact ih hs
  | wait => cases hs

/-! ## Tasks run alone -/

/-- A task that always ends, as far as it depends on the task. -/
def Stops : Task σ α → Prop
  | .done _ => True
  | .step _ next => ∀ s, (next s).Stops
  | .wait _ _ next => ∀ ending, (next ending).Stops
  | .never => False

theorem Stops.bind {t : Task σ α} {f : α → Task σ β} (ht : t.Stops) (hf : ∀ a, (f a).Stops) :
    (t.bind f).Stops := by
  induction t with
  | done a => exact hf a
  | step change next ih => exact fun s => ih s (ht s)
  | wait ms limits next ih => exact fun ending => ih ending (ht ending)
  | never => exact ht

theorem stops_withinFrom (t : Task σ α) (fresh : Bool) (left : Nat) :
    (t.withinFrom fresh left).Stops := by
  induction t generalizing fresh left with
  | done a => trivial
  | step change next ih => exact fun s => ih s fresh left
  | wait ms limits next ih =>
    rw [Task.withinFrom]
    intro ending
    match ending with
    | .over =>
      dsimp only
      by_cases h : ms ≤ left
      · rw [if_pos h]
        exact ih .over false (left - ms)
      · rw [if_neg h]
        trivial
    | .cut 0 => trivial
    | .cut (limit + 1) => exact ih (.cut limit) false left
  | never =>
    rw [Task.withinFrom]
    exact fun _ => trivial

theorem exists_result_runFrom {t : Task σ α} (ht : t.Stops) (budget : Nat) (alarms : List Alarm)
    (s : σ) : ∃ a, (t.runFrom budget alarms s).result = some a := by
  induction t generalizing budget alarms s with
  | done a => exact ⟨a, rfl⟩
  | step change next ih => exact ih s (ht s) budget alarms (change s)
  | wait ms limits next ih =>
    rw [runFrom]
    dsimp only
    rcases passage budget ms limits (alarmsOf budget limits alarms) with _ | limit | _ | _
    · exact ih .over (ht .over) _ _ s
    · exact ih (.cut limit) (ht (.cut limit)) _ _ s
    · exact ih .over (ht .over) _ _ s
    · exact ih .over (ht .over) _ _ s
  | never => exact ht.elim

theorem ends_of_runFrom (hr : ∀ s, rely s s) {t : Task σ α} {budget : Nat} {alarms : List Alarm}
    {s : σ} {a : α} (h : (t.runFrom budget alarms s).result = some a) :
    t.Ends rely s a (t.runFrom budget alarms s).state := by
  induction t generalizing budget alarms s with
  | done b =>
    rw [← Option.some.inj h]
    exact .done b s
  | step change next ih => exact .step (ih s h)
  | wait ms limits next ih =>
    rw [runFrom] at h ⊢
    dsimp only at h ⊢
    rcases hp : passage budget ms limits (alarmsOf budget limits alarms) with _ | limit | _ | _
    · rw [hp] at h
      exact .wait .over (hr s) (ih .over h)
    · rw [hp] at h
      exact .wait (.cut limit) (hr s) (ih (.cut limit) h)
    · rw [hp] at h
      exact .wait .over (hr s) (ih .over h)
    · rw [hp] at h
      exact .wait .over (hr s) (ih .over h)
  | never => cases h

theorem exists_result_run {t : Task σ α} (ht : t.Stops) (s : σ) :
    ∃ a, (t.run s).result = some a := exists_result_runFrom ht turnBudget [] s

/-- **A task run alone ends in one of its ways.** -/
theorem ends_of_run (hr : ∀ s, rely s s) {t : Task σ α} {s : σ} {a : α}
    (h : (t.run s).result = some a) : t.Ends rely s a (t.run s).state := ends_of_runFrom hr h

theorem runFrom_of_swift {t : Task σ α} {s later : σ} {a : α} (h : t.swift? s = some (a, later))
    (budget : Nat) (alarms : List Alarm) : t.runFrom budget alarms s = ⟨some a, later, []⟩ := by
  induction t generalizing s with
  | done b =>
    obtain ⟨rfl, rfl⟩ := Prod.mk.inj (Option.some.inj h)
    rfl
  | step change next ih => exact ih s h
  | wait | never => cases h

theorem run_of_swift {t : Task σ α} {s later : σ} {a : α} (h : t.swift? s = some (a, later)) :
    t.run s = ⟨some a, later, []⟩ := runFrom_of_swift h turnBudget []

theorem run_look_bind (f : σ → Task σ α) (s : σ) : (look.bind f).run s = (f s).run s := rfl

end EventLedger.Task
