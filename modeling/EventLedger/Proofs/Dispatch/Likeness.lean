import EventLedger.Proofs.Dispatch.Chronicle

/-!
# Tasks that come to the same

What can be told of a task from outside is its result, what a view shows of the states that it brings
about, the instants of these, and how long it took. Two things may differ between two runs: the part
of the state that the view does not show, and the budget of the turn in which the task is begun.

* `Account`, `Chronicle.account`: what can be told of a task;
* `Alike`, `ConfinedTo`: tasks that do and find alike, as far as a view shows;
* **`Alike.account_eq`**: they come to the same in states that look the same;
* `Unhurried`, **`Unhurried.account_eq`**: tasks that come to the same with any budget;
* `Brisk`: a task that is unhurried under a time limit.
-/

namespace EventLedger.Task

variable {σ α β ω : Type}

/-- What can be told of a task from outside. -/
structure Account (ω α : Type) where
  result : Option α
  state : ω
  /-- What the state looked like after each change, with the instants. -/
  changes : List (Nat × ω)
  elapsed : Nat
  deriving DecidableEq

/-- Time and changes in front of everything else. -/
def Account.after (ms : Nat) (changes : List (Nat × ω)) (c : Account ω α) : Account ω α :=
  ⟨c.result, c.state, changes ++ c.changes, ms + c.elapsed⟩

theorem Account.after_zero (c : Account ω α) : c.after 0 [] = c := by
  simp [after]

/-- What the changes look like. -/
def shown (view : σ → ω) (changes : List (Nat × σ)) : List (Nat × ω) :=
  changes.map fun c => (c.1, view c.2)

/-- A chronicle as it is told by one who sees this much of the state. -/
def Chronicle.account (view : σ → ω) (c : Chronicle σ α) : Account ω α :=
  ⟨c.result, view c.state, shown view c.changes, c.elapsed⟩

theorem Chronicle.account_after (view : σ → ω) (waits : List Nat) (changes : List (Nat × σ))
    (c : Chronicle σ α) : (c.after waits changes).account view =
      (c.account view).after waits.sum (shown view changes) := by
  have helapsed : (c.after waits changes).elapsed = waits.sum + c.elapsed := List.sum_append_nat
  rw [account, helapsed]
  simp [after, account, Account.after, shown]

theorem account_bind_done {t : Task σ α} (f : α → β) {view : σ → ω} {a : α} {budget now : Nat}
    {alarms : List Alarm} {s : σ} {seen : ω} {changes : List (Nat × ω)} {elapsed : Nat}
    (h : (t.chronicleFrom budget alarms now s).account view = ⟨some a, seen, changes, elapsed⟩) :
    ((t.bind fun a => .done (f a)).chronicleFrom budget alarms now s).account view =
      ⟨some (f a), seen, changes, elapsed⟩ := by
  generalize hc : t.chronicleFrom budget alarms now s = c at h
  obtain ⟨⟨result, mid, waits⟩, done⟩ := c
  obtain ⟨rfl, rfl, rfl, rfl⟩ := Account.mk.inj h
  rw [chronicleFrom_bind_done f hc]
  rfl

/-! ## States that look the same -/

/-- Tasks that do alike, as far as the view shows, in states that look the same. -/
inductive Alike (view : σ → ω) : Task σ α → Task σ α → Prop
  | done (a : α) : Alike view (.done a) (.done a)
  | step {f g : σ → σ} {next other : σ → Task σ α} :
    (∀ s s', view s = view s' → view (f s) = view (g s')) →
    (∀ s s', view s = view s' → Alike view (next s) (other s')) →
    Alike view (.step f next) (.step g other)
  | wait (ms : Nat) (limits : List Limit) {next other : Ending → Task σ α} :
    (∀ ending, Alike view (next ending) (other ending)) →
    Alike view (.wait ms limits next) (.wait ms limits other)
  | never : Alike view .never .never

/-- What a task does and finds depends on nothing but what the view shows. -/
def ConfinedTo (view : σ → ω) (t : Task σ α) : Prop := Alike view t t

namespace Alike

variable {view : σ → ω} {t u : Task σ α}

theorem bind (h : Alike view t u) {f g : α → Task σ β} (hf : ∀ a, Alike view (f a) (g a)) :
    Alike view (t.bind f) (u.bind g) := by
  induction h with
  | done a => exact hf a
  | step hchange _ ih => exact .step hchange ih
  | wait ms limits _ ih => exact .wait ms limits ih
  | never => exact .never

theorem withinFrom (h : Alike view t u) (fresh : Bool) (left : Nat) :
    Alike view (t.withinFrom fresh left) (u.withinFrom fresh left) := by
  induction h generalizing fresh left with
  | done a => exact .done _
  | step hchange _ ih => exact .step hchange fun s s' hs => ih s s' hs fresh left
  | wait ms limits _ ih =>
    rw [Task.withinFrom, Task.withinFrom]
    refine .wait _ _ fun ending => ?_
    match ending with
    | .over =>
      dsimp only
      split
      · exact ih .over false (left - ms)
      · exact .done none
    | .cut 0 => exact .done none
    | .cut (limit + 1) => exact ih (.cut limit) false left
  | never =>
    rw [Task.withinFrom]
    exact .wait _ _ fun _ => .done none

/-- **Alike tasks come to the same** in states that look the same. -/
theorem account_eq (h : Alike view t u) {s s' : σ} (hs : view s = view s') (budget : Nat)
    (alarms : List Alarm) (now : Nat) :
    (t.chronicleFrom budget alarms now s).account view =
      (u.chronicleFrom budget alarms now s').account view := by
  induction h generalizing s s' budget alarms now with
  | done a => simp [chronicleFrom, Chronicle.account, Outcome.elapsed, hs]
  | step hchange _ ih =>
    have hs' := hchange s s' hs
    rw [chronicleFrom, chronicleFrom, Chronicle.account_after, Chronicle.account_after,
      ih s s' hs hs']
    simp [shown, hs']
  | wait ms limits _ ih =>
    rw [chronicleFrom, chronicleFrom]
    cases passage budget ms limits (alarmsOf budget limits alarms) with
    | cut limit => exact ih (.cut limit) hs _ _ _
    | «over» | wait | yield =>
      dsimp only
      rw [Chronicle.account_after, Chronicle.account_after, ih .over hs]
  | never => simp [chronicleFrom, Chronicle.account, Outcome.elapsed, hs]

end Alike

/-! ## Budgets that do not matter -/

/-- A wait that a limit cuts off comes to the same as one that passes: it takes no time, and what
follows is the same. -/
def Unhurried : Task σ α → Prop
  | .done _ => True
  | .step _ next => ∀ s, (next s).Unhurried
  | .wait ms limits next =>
    (∀ i l, limits[i]? = some l → l.left = 0 → ms = 0 ∧ next (.cut i) = next .over) ∧
      (next .over).Unhurried
  | .never => True

namespace Unhurried

theorem bind {t : Task σ α} (ht : t.Unhurried) {f : α → Task σ β} (hf : ∀ a, (f a).Unhurried) :
    (t.bind f).Unhurried := by
  induction t with
  | done a => exact hf a
  | step change next ih => exact fun s => ih s (ht s)
  | wait ms limits next ih =>
    refine ⟨fun i l hl hleft => ?_, ih .over ht.2⟩
    obtain ⟨hms, hnext⟩ := ht.1 i l hl hleft
    exact ⟨hms, congrArg (·.bind f) hnext⟩
  | never => trivial

end Unhurried

theorem left_of_cut {budget ms i : Nat} {limits : List Limit} {alarms : List Alarm}
    (h : passage budget ms limits alarms = .cut i) : ∃ l, limits[i]? = some l ∧ l.left = 0 := by
  unfold passage at h
  split at h
  · split at h
    · rename_i limit hcutter
      cases h
      obtain ⟨⟨⟨l, a⟩, j⟩, hlast, rfl⟩ := Option.map_eq_some_iff.mp hcutter
      obtain ⟨hmem, hcuts⟩ := List.mem_filter.mp (List.mem_of_getLast? hlast)
      have hzip := List.mem_zipIdx_iff_getElem?.mp hmem
      have hleft := (Bool.and_eq_true_iff.mp hcuts).1
      rw [List.getElem?_zip_eq_some] at hzip
      exact ⟨l, hzip.1, by simpa using hleft⟩
    · cases h
  · split at h <;> cases h

theorem Unhurried.account_wait {ms : Nat} {limits : List Limit} {next : Ending → Task σ α}
    (h : (Task.wait ms limits next).Unhurried) (view : σ → ω) (budget : Nat) (alarms : List Alarm)
    (now : Nat) (s : σ) :
    ∃ budget' alarms', ((Task.wait ms limits next).chronicleFrom budget alarms now s).account view =
      (((next .over).chronicleFrom budget' alarms' (now + ms) s).after [ms] []).account view := by
  rw [chronicleFrom]
  cases hp : passage budget ms limits (alarmsOf budget limits alarms) with
  | «over» | wait | yield => exact ⟨_, _, rfl⟩
  | cut i =>
    obtain ⟨l, hl, hleft⟩ := left_of_cut hp
    obtain ⟨rfl, hnext⟩ := h.1 i l hl hleft
    refine ⟨budget, (alarmsOf budget limits alarms).take i, ?_⟩
    rw [Chronicle.account_after]
    exact hnext ▸ (Account.after_zero _).symm

/-- **An unhurried task comes to the same with any budget.** -/
theorem Unhurried.account_eq {t : Task σ α} (h : t.Unhurried) (view : σ → ω)
    (budget budget' : Nat) (alarms alarms' : List Alarm) (now : Nat) (s : σ) :
    (t.chronicleFrom budget alarms now s).account view =
      (t.chronicleFrom budget' alarms' now s).account view := by
  induction t generalizing budget budget' alarms alarms' now s with
  | done a => rfl
  | step change next ih =>
    rw [chronicleFrom, chronicleFrom, Chronicle.account_after, Chronicle.account_after,
      ih s (h s) budget budget' alarms alarms']
  | wait ms limits next ih =>
    obtain ⟨_, _, h1⟩ := h.account_wait view budget alarms now s
    obtain ⟨_, _, h2⟩ := h.account_wait view budget' alarms' now s
    rw [h1, h2, Chronicle.account_after, Chronicle.account_after, ih .over h.2]
  | never => rfl

/-- A task with no time limits of its own, of which no wait of no time begins when nothing is left of
`left` milliseconds. -/
def Brisk : (left : Nat) → Task σ α → Prop
  | _, .done _ => True
  | left, .step _ next => ∀ s, Brisk left (next s)
  | left, .wait ms limits next =>
    limits = [] ∧ (left = 0 → 0 < ms) ∧ (ms ≤ left → Brisk (left - ms) (next .over))
  | _, .never => True

theorem Brisk.unhurried {t : Task σ α} {left : Nat} (h : t.Brisk left) (fresh : Bool) :
    (t.withinFrom fresh left).Unhurried := by
  induction t generalizing left fresh with
  | done a => trivial
  | step change next ih => exact fun s => ih s (h s) fresh
  | wait ms limits next ih =>
    obtain ⟨rfl, hlasts, hrest⟩ := h
    rw [withinFrom]
    refine ⟨fun i l hl hleft => ?_, ?_⟩
    · simp only [List.getElem?_singleton, Option.ite_none_right_eq_some, Option.some.injEq] at hl
      obtain ⟨rfl, rfl⟩ := hl
      dsimp only at hleft
      -- a wait that would last is cut short to no time, whatever becomes of it
      have hms := hlasts hleft
      exact ⟨by omega, (if_neg (by omega)).symm⟩
    · dsimp only
      split
      · exact ih .over (hrest ‹_›) false
      · trivial
  | never =>
    rw [withinFrom]
    refine ⟨fun i l hl hleft => ⟨?_, rfl⟩, trivial⟩
    simp only [List.getElem?_singleton, Option.ite_none_right_eq_some, Option.some.injEq] at hl
    obtain ⟨rfl, rfl⟩ := hl
    exact hleft

end EventLedger.Task
