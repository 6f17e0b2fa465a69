import EventLedger.Proofs.Dispatch.Endings

/-!
# Tasks under way

A task is seen at any moment from its beginning to its end. Others change the state not only while
it waits, but between any two of its moments.

* `Task.Course`: how far a task has come;
* **`course_bind`**, `course_map`, `course_look_bind`, `course_withinFrom`: the course of a whole is
  made of courses of its parts;
* `Course.kept`: all that happened keeps to a relation;
* `exists_end_of_stops`, `course_of_swift`: tasks that come to an end.
-/

namespace EventLedger.Task

variable {σ α β : Type} {rely : σ → σ → Prop}

/-- A task begun in a state has come to `rest`, which is what is left of it, in another state. At any
moment others may have changed the state within `rely`, and a wait may have ended in any way. -/
inductive Course (rely : σ → σ → Prop) : Task σ α → σ → (rest : Task σ α) → σ → Prop where
  | here (t : Task σ α) (s : σ) : Course rely t s t s
  | step {change : σ → σ} {next : σ → Task σ α} {s now : σ} {rest : Task σ α} :
    Course rely (next s) (change s) rest now → Course rely (.step change next) s rest now
  | wait {ms : Nat} {limits : List Limit} {next : Ending → Task σ α} {s now : σ} {rest : Task σ α}
    (ending : Ending) :
    Course rely (next ending) s rest now → Course rely (.wait ms limits next) s rest now
  | others {t rest : Task σ α} {s mid now : σ} :
    rely s mid → Course rely t mid rest now → Course rely t s rest now

/-- A task that has not ended. -/
def AtWork (t : Task σ α) : Prop := ∀ a, t ≠ .done a

theorem done_or_atWork (t : Task σ α) : (∃ a, t = .done a) ∨ t.AtWork := by
  cases t with
  | done a => exact Or.inl ⟨a, rfl⟩
  | step | wait | never => exact Or.inr nofun

theorem AtWork.bind {t : Task σ α} (h : t.AtWork) (f : α → Task σ β) : (t.bind f).AtWork := by
  cases t with
  | done a => exact absurd rfl (h a)
  | step | wait | never => nofun

theorem Course.trans {t u v : Task σ α} {s mid now : σ} (h : t.Course rely s u mid)
    (hu : u.Course rely mid v now) : t.Course rely s v now := by
  induction h with
  | here => exact hu
  | step _ ih => exact .step (ih hu)
  | wait ending _ ih => exact .wait ending (ih hu)
  | others ho _ ih => exact .others ho (ih hu)

theorem eq_of_course_done {a : α} {rest : Task σ α} {s now : σ}
    (h : (done a).Course rely s rest now) : rest = .done a := by
  generalize hd : done a = t at h
  induction h with
  | here => rfl
  | step => cases hd
  | wait => cases hd
  | others _ _ ih => exact ih hd

theorem not_atWork_of_course_done {a : α} {rest : Task σ α} {s now : σ}
    (h : (done a).Course rely s rest now) : ¬ rest.AtWork := fun hw =>
  hw a (eq_of_course_done h)

/-! ## All that happened -/

section

variable (hr : ∀ s, rely s s) (ht : ∀ {s mid later}, rely s mid → rely mid later → rely s later)
include hr ht

/-- **What all steps of a task and all others keep to**, the course of the task keeps to. -/
theorem Course.kept {t rest : Task σ α} {s now : σ} (h : t.Course rely s rest now)
    (hk : t.Keeps rely) : rely s now ∧ rest.Keeps rely := by
  induction h with
  | here t s => exact ⟨hr s, hk⟩
  | step _ ih => exact (ih (hk _).2).imp (ht (hk _).1) id
  | wait ending _ ih => exact ih (hk ending)
  | others ho _ ih => exact (ih hk).imp (ht ho) id

theorem course_done {a : α} {rest : Task σ α} {s now : σ} (h : (done a).Course rely s rest now) :
    rest = .done a ∧ rely s now :=
  ⟨eq_of_course_done h, (h.kept hr ht trivial).1⟩

theorem course_look_bind {f : σ → Task σ α} {rest : Task σ α} {s now : σ}
    (h : (look.bind f).Course rely s rest now) :
    (rest = look.bind f ∧ rely s now) ∨
      ∃ start, rely s start ∧ (f start).Course rely start rest now := by
  generalize hd : look.bind f = t at h
  induction h with
  | here t s => exact Or.inl ⟨rfl, hr s⟩
  | step h1 =>
    cases hd
    exact Or.inr ⟨_, hr _, h1⟩
  | wait => cases hd
  | others ho _ ih =>
    rcases ih hd with ⟨h1, h2⟩ | ⟨start, h1, h2⟩
    · exact Or.inl ⟨h1, ht ho h2⟩
    · exact Or.inr ⟨start, ht ho h1, h2⟩

theorem course_change {f : σ → σ} {rest : Task σ Unit} {s now : σ}
    (h : (change f).Course rely s rest now) :
    (rest.AtWork ∧ rely s now) ∨
      (rest = .done () ∧ ∃ mid, rely s mid ∧ rely (f mid) now) := by
  generalize hd : change f = t at h
  induction h with
  | here t s =>
    cases hd
    exact Or.inl ⟨nofun, hr s⟩
  | step h1 =>
    cases hd
    obtain ⟨h2, h3⟩ := course_done hr ht h1
    exact Or.inr ⟨h2, _, hr _, h3⟩
  | wait => cases hd
  | others ho _ ih =>
    rcases ih hd with ⟨h1, h2⟩ | ⟨h1, mid, h2, h3⟩
    · exact Or.inl ⟨h1, ht ho h2⟩
    · exact Or.inr ⟨h1, mid, ht ho h2, h3⟩

end

/-! ## Parts of a task -/

/-- **Of two tasks one after the other**, the first is under way, or it has ended and the second has
begun. -/
theorem course_bind {t : Task σ α} {f : α → Task σ β} {rest : Task σ β} {s now : σ}
    (h : (t.bind f).Course rely s rest now) :
    (∃ u, u.AtWork ∧ rest = u.bind f ∧ t.Course rely s u now) ∨
      ∃ a mid, t.Course rely s (.done a) mid ∧ (f a).Course rely mid rest now := by
  generalize hd : t.bind f = w at h
  induction h generalizing t with
  | here w s =>
    rcases done_or_atWork t with ⟨a, rfl⟩ | hw
    · exact Or.inr ⟨a, s, .here _ _, hd ▸ .here _ _⟩
    · exact Or.inl ⟨t, hw, hd.symm, .here _ _⟩
  | step h1 ih =>
    cases t with
    | done a =>
      refine Or.inr ⟨a, _, .here _ _, ?_⟩
      rw [show f a = _ from hd]
      exact .step h1
    | step change next =>
      cases hd
      rcases ih rfl with ⟨u, hw, h2, h3⟩ | ⟨a, mid, h2, h3⟩
      · exact Or.inl ⟨u, hw, h2, .step h3⟩
      · exact Or.inr ⟨a, mid, .step h2, h3⟩
    | wait => cases hd
    | never => cases hd
  | wait ending h1 ih =>
    cases t with
    | done a =>
      refine Or.inr ⟨a, _, .here _ _, ?_⟩
      rw [show f a = _ from hd]
      exact .wait ending h1
    | step => cases hd
    | wait ms limits next =>
      cases hd
      rcases ih rfl with ⟨u, hw, h2, h3⟩ | ⟨a, mid, h2, h3⟩
      · exact Or.inl ⟨u, hw, h2, .wait ending h3⟩
      · exact Or.inr ⟨a, mid, .wait ending h2, h3⟩
    | never => cases hd
  | others ho _ ih =>
    rcases ih hd with ⟨u, hw, h2, h3⟩ | ⟨a, mid, h2, h3⟩
    · exact Or.inl ⟨u, hw, h2, .others ho h3⟩
    · exact Or.inr ⟨a, mid, .others ho h2, h3⟩

theorem course_map (hr : ∀ s, rely s s)
    (ht : ∀ {s mid later}, rely s mid → rely mid later → rely s later) {t : Task σ α} {f : α → β}
    {rest : Task σ β} {s now : σ} (h : (t.bind fun a => .done (f a)).Course rely s rest now) :
    (rest.AtWork ∧ ∃ u, u.AtWork ∧ t.Course rely s u now) ∨
      ∃ a, rest = .done (f a) ∧ t.Course rely s (.done a) now := by
  rcases course_bind h with ⟨u, hw, rfl, h1⟩ | ⟨a, mid, h1, h2⟩
  · exact Or.inl ⟨hw.bind _, u, hw, h1⟩
  · obtain ⟨rfl, h3⟩ := course_done hr ht h2
    exact Or.inr ⟨a, rfl, h1.trans (.others h3 (.here _ _))⟩

theorem course_withinFrom {t : Task σ α} {fresh : Bool} {left : Nat} {rest : Task σ (Option α)}
    {s now : σ} (h : (t.withinFrom fresh left).Course rely s rest now) (hw : rest.AtWork) :
    ∃ u fresh left, rest = Task.withinFrom fresh left u ∧ t.Course rely s u now := by
  generalize hd : t.withinFrom fresh left = w at h
  induction h generalizing t fresh left with
  | here => exact ⟨t, fresh, left, hd.symm, .here _ _⟩
  | step h1 ih =>
    cases t with
    | step change next =>
      cases hd
      obtain ⟨u, fresh, left, h2, h3⟩ := ih hw rfl
      exact ⟨u, fresh, left, h2, .step h3⟩
    | done => cases hd
    | wait | never =>
      rw [Task.withinFrom] at hd
      cases hd
  | wait ending h1 ih =>
    cases t with
    | wait ms limits next =>
      rw [Task.withinFrom] at hd
      cases hd
      -- all of the time has passed, or this limit cuts off, or one further inside
      rcases ending with _ | _ | limit
      · dsimp only at h1 ih
        by_cases hl : ms ≤ left
        · rw [if_pos hl] at ih
          obtain ⟨u, fresh, left, h2, h3⟩ := ih hw rfl
          exact ⟨u, fresh, left, h2, .wait .over h3⟩
        · rw [if_neg hl] at h1
          exact absurd hw (not_atWork_of_course_done h1)
      · exact absurd hw (not_atWork_of_course_done h1)
      · obtain ⟨u, fresh, left, h2, h3⟩ := ih hw rfl
        exact ⟨u, fresh, left, h2, .wait (.cut limit) h3⟩
    | never =>
      rw [Task.withinFrom] at hd
      cases hd
      exact absurd hw (not_atWork_of_course_done h1)
    | done | step => cases hd
  | others ho _ ih =>
    obtain ⟨u, fresh, left, h2, h3⟩ := ih hw hd
    exact ⟨u, fresh, left, h2, .others ho h3⟩

/-! ## Ends -/

theorem Course.stops {t rest : Task σ α} {s now : σ} (h : t.Course rely s rest now)
    (hs : t.Stops) : rest.Stops := by
  induction h with
  | here => exact hs
  | step _ ih => exact ih (hs _)
  | wait ending _ ih => exact ih (hs ending)
  | others _ _ ih => exact ih hs

theorem exists_end_of_stops {t : Task σ α} (h : t.Stops) (s : σ) :
    ∃ a later, t.Course rely s (.done a) later := by
  induction t generalizing s with
  | done a => exact ⟨a, s, .here _ _⟩
  | step change next ih =>
    obtain ⟨a, later, h1⟩ := ih s (h s) (change s)
    exact ⟨a, later, .step h1⟩
  | wait ms limits next ih =>
    obtain ⟨a, later, h1⟩ := ih .over (h .over) s
    exact ⟨a, later, .wait .over h1⟩
  | never => exact h.elim

theorem course_of_swift {t : Task σ α} {s later : σ} {a : α} (h : t.swift? s = some (a, later)) :
    t.Course rely s (.done a) later := by
  induction t generalizing s with
  | done b =>
    obtain ⟨rfl, rfl⟩ := Prod.mk.inj (Option.some.inj h)
    exact .here _ _
  | step change next ih => exact .step (ih s h)
  | wait | never => cases h

end EventLedger.Task
