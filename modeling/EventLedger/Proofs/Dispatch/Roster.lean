import EventLedger.Dispatch.Dispatcher

/-!
# Subscriptions in one list

What a registry does, told without its tables: subscriptions stand in one list, the oldest in front.

* `Entry`, `Roster`: a subscription with its event type, and the list;
* `Use`, `Answer`, `Use.enter`: what is done with a list, and what is answered;
* `Roster.after`, `Roster.answers`: many uses one after the other;
* `Roster.Sound`: entries are numbered in the order of registration;
* **`Roster.only_after`**, **`Roster.none_after_release`**: what becomes of the entry of a handle;
* **`Roster.disposed_after`**: a list once disposed stays so.
-/

namespace EventLedger

variable {η : Type}

/-- A subscription: a handler registered for an event type or for all. -/
structure Entry (η : Type) where
  eventType : String
  registration : Registration η

/-- The subscription wants events of this type. -/
def Entry.isFor (eventType : String) (x : Entry η) : Bool :=
  x.eventType == eventType || x.eventType == wildcardType

/-- All subscriptions. -/
structure Roster (η : Type) where
  /-- The oldest in front. -/
  entries : List (Entry η)
  /-- The number of subscriptions so far; the next entry is identified by it. -/
  made : Nat
  disposed : Bool

namespace Roster

/-- No subscription yet. -/
def empty : Roster η := ⟨[], 0, false⟩

/-- A subscription put behind all others, unless the list is disposed. -/
def subscribe (settings : DispatcherSettings) (generated : Uuid) (eventType : String)
    (options : SubscribeOptions) (handler : η) (roster : Roster η) :
    Except DispatchError Handle × Roster η :=
  if roster.disposed then (.error .disposed, roster)
  else
    let name := options.subscriptionId.getD generated.text
    let r : Registration η :=
      ⟨roster.made, name, options.priority.getD settings.defaultPriority, options.continueOnError,
        handler⟩
    (.ok ⟨name, eventType, roster.made⟩,
      { roster with entries := roster.entries ++ [⟨eventType, r⟩], made := roster.made + 1 })

/-- The first entry that satisfies `p` removed, and whether there was one. -/
def remove (p : Registration η → Bool) (roster : Roster η) : Bool × Roster η :=
  (roster.entries.any fun x => p x.registration,
    { roster with entries := roster.entries.eraseP fun x => p x.registration })

/-- All entries removed. -/
def clear (roster : Roster η) : Roster η := { roster with entries := [] }

/-- All entries removed for good. -/
def dispose (roster : Roster η) : Roster η := { roster with entries := [], disposed := true }

/-- The handlers of an event type and those of all, in the order of registration. -/
def matching (eventType : String) (roster : Roster η) : List (Registration η) :=
  (roster.entries.filter (·.isFor eventType)).map (·.registration)

/-- The handlers that an event type is delivered to: sorted by priority and, among equals, left in
the order of registration. -/
def handlersFor (eventType : String) (roster : Roster η) : List (Registration η) :=
  (roster.matching eventType).mergeSort fun a b => a.priority ≤ b.priority

end Roster

/-! ## Uses -/

/-- What can be done with subscriptions. -/
inductive Use (η : Type) where
  | subscribe (generated : Uuid) (eventType : String) (options : SubscribeOptions) (handler : η)
  | unsubscribe (subscriptionId : String)
  | release (h : Handle)
  | clear
  | dispose

/-- What is answered. -/
inductive Answer where
  | subscribed (outcome : Except DispatchError Handle)
  | removed (found : Bool)
  | done

/-- A use of a list, with the answer. -/
def Use.enter (settings : DispatcherSettings) : Use η → Roster η → Answer × Roster η
  | subscribe generated eventType options handler, roster =>
    let (outcome, roster) := roster.subscribe settings generated eventType options handler
    (.subscribed outcome, roster)
  | unsubscribe subscriptionId, roster =>
    let (found, roster) := roster.remove fun r => r.subscriptionId == subscriptionId
    (.removed found, roster)
  | release h, roster =>
    let (found, roster) := roster.remove fun r => r.ordinal == h.ordinal
    (.removed found, roster)
  | clear, roster => (.done, roster.clear)
  | dispose, roster => (.done, roster.dispose)

namespace Roster

variable (settings : DispatcherSettings)

/-- The list after some uses. -/
def after (uses : List (Use η)) (roster : Roster η) : Roster η :=
  uses.foldl (fun roster u => (u.enter settings roster).2) roster

/-- The answers to some uses. -/
def answers : List (Use η) → Roster η → List Answer
  | [], _ => []
  | u :: uses, roster => (u.enter settings roster).1 :: answers uses (u.enter settings roster).2

variable {settings} {roster : Roster η}

theorem after_append (uses more : List (Use η)) :
    roster.after settings (uses ++ more) = (roster.after settings uses).after settings more :=
  List.foldl_append

theorem answers_append (uses more : List (Use η)) :
    roster.answers settings (uses ++ more) =
      roster.answers settings uses ++ (roster.after settings uses).answers settings more := by
  induction uses generalizing roster with
  | nil => rfl
  | cons u uses ih => exact congrArg (_ :: ·) ih

theorem length_answers (uses : List (Use η)) :
    (roster.answers settings uses).length = uses.length := by
  induction uses generalizing roster with
  | nil => rfl
  | cons u uses ih => exact congrArg (· + 1) ih

theorem after_induction {P : Roster η → Prop} (h : P roster)
    (hstep : ∀ (u : Use η) roster, P roster → P (u.enter settings roster).2) (uses : List (Use η)) :
    P (roster.after settings uses) := by
  induction uses generalizing roster with
  | nil => exact h
  | cons u uses ih => exact ih (hstep u roster h)

theorem enter_cases (settings : DispatcherSettings) (u : Use η) (roster : Roster η) :
    (u.enter settings roster).2 = roster ∨
    (roster.disposed = false ∧ ∃ x : Entry η, x.registration.ordinal = roster.made ∧
      (u.enter settings roster).2 =
        { roster with entries := roster.entries ++ [x], made := roster.made + 1 }) ∨
    (∃ p, (u.enter settings roster).2 = (roster.remove p).2) ∨
    ∃ d, (u.enter settings roster).2 = { roster with entries := [], disposed := d } := by
  cases u with
  | subscribe generated eventType options handler =>
    dsimp only [Use.enter]
    rw [subscribe]
    cases hd : roster.disposed with
    | true => exact Or.inl rfl
    | false => exact Or.inr (Or.inl ⟨rfl, _, rfl, rfl⟩)
  | unsubscribe subscriptionId =>
    exact Or.inr (Or.inr (Or.inl ⟨fun r => r.subscriptionId == subscriptionId, rfl⟩))
  | release handle => exact Or.inr (Or.inr (Or.inl ⟨fun r => r.ordinal == handle.ordinal, rfl⟩))
  | clear => exact Or.inr (Or.inr (Or.inr ⟨_, rfl⟩))
  | dispose => exact Or.inr (Or.inr (Or.inr ⟨true, rfl⟩))

/-! ## Entries and their numbers -/

/-- Entries are numbered in the order of registration, and a disposed list has none. -/
structure Sound (roster : Roster η) : Prop where
  ascending : roster.entries.Pairwise fun x y => x.registration.ordinal < y.registration.ordinal
  below : ∀ x ∈ roster.entries, x.registration.ordinal < roster.made
  vacant : roster.disposed = true → roster.entries = []

theorem sound_empty : (empty : Roster η).Sound :=
  ⟨.nil, fun _ h => absurd h List.not_mem_nil, fun _ => rfl⟩

theorem Sound.remove (h : roster.Sound) (p : Registration η → Bool) : (roster.remove p).2.Sound where
  ascending := h.ascending.sublist List.eraseP_sublist
  below x hx := h.below x (List.mem_of_mem_eraseP hx)
  vacant hd := by
    show roster.entries.eraseP _ = []
    rw [h.vacant hd]
    rfl

theorem Sound.enter (h : roster.Sound) (u : Use η) : (u.enter settings roster).2.Sound := by
  rcases enter_cases settings u roster with h1 | ⟨hd, x, hx, h1⟩ | ⟨p, h1⟩ | ⟨d, h1⟩
  · rw [h1]
    exact h
  · rw [h1]
    refine ⟨List.pairwise_append.mpr ⟨h.ascending, List.pairwise_singleton _ _, ?_⟩, ?_, ?_⟩
    · intro y hy z hz
      rw [List.mem_singleton.mp hz, hx]
      exact h.below y hy
    · intro y hy
      rcases List.mem_append.mp hy with hy | hy
      · exact Nat.lt_succ_of_lt (h.below y hy)
      · rw [List.mem_singleton.mp hy, hx]
        exact Nat.lt_succ_self _
    · intro hd'
      exact absurd (hd.symm.trans hd') Bool.false_ne_true
  · rw [h1]
    exact h.remove p
  · rw [h1]
    exact ⟨.nil, fun _ hy => absurd hy List.not_mem_nil, fun _ => rfl⟩

theorem sound_after (uses : List (Use η)) : (empty.after settings uses).Sound :=
  after_induction sound_empty (fun u _ h => h.enter u) uses

theorem Sound.eq_of_ordinal (h : roster.Sound) {x y : Entry η} (hx : x ∈ roster.entries)
    (hy : y ∈ roster.entries) (hn : x.registration.ordinal = y.registration.ordinal) : x = y := by
  obtain ⟨i, hi, rfl⟩ := List.mem_iff_getElem.mp hx
  obtain ⟨j, hj, rfl⟩ := List.mem_iff_getElem.mp hy
  have h1 := List.pairwise_iff_getElem.mp h.ascending
  rcases Nat.lt_trichotomy i j with hij | rfl | hij
  · exact absurd hn (Nat.ne_of_lt (h1 i j hi hj hij))
  · rfl
  · exact absurd hn (Nat.ne_of_gt (h1 j i hj hi hij))

theorem eraseP_eq_filter {entries : List (Entry η)}
    (h : entries.Pairwise fun x y => x.registration.ordinal < y.registration.ordinal)
    {p : Entry η → Bool} {x : Entry η} (hx : entries.find? p = some x) :
    entries.eraseP p = entries.filter fun y => y.registration.ordinal != x.registration.ordinal := by
  induction entries with
  | nil => cases hx
  | cons y rest ih =>
    obtain ⟨h1, h2⟩ := List.pairwise_cons.mp h
    by_cases hy : p y = true
    · rw [List.find?_cons_of_pos hy] at hx
      obtain rfl := Option.some.inj hx
      rw [List.eraseP_cons_of_pos hy, List.filter_cons_of_neg (by simp)]
      refine (List.filter_eq_self.mpr fun z hz => ?_).symm
      exact bne_iff_ne.mpr (Nat.ne_of_gt (h1 z hz))
    · rw [List.find?_cons_of_neg hy] at hx
      have h3 : y.registration.ordinal ≠ x.registration.ordinal :=
        Nat.ne_of_lt (h1 x (List.mem_of_find?_eq_some hx))
      rw [List.eraseP_cons_of_neg hy, List.filter_cons, if_pos (bne_iff_ne.mpr h3), ih h2 hx]

theorem Sound.remove_cases (h : roster.Sound) (p : Registration η → Bool) :
    (∃ x, roster.entries.find? (fun x => p x.registration) = some x ∧
      roster.remove p = (true, { roster with
        entries := roster.entries.filter
          fun y => y.registration.ordinal != x.registration.ordinal })) ∨
    (roster.entries.find? (fun x => p x.registration) = none ∧ roster.remove p = (false, roster)) := by
  cases hx : roster.entries.find? fun x => p x.registration with
  | some x =>
    refine Or.inl ⟨x, rfl, ?_⟩
    have h1 : (roster.entries.any fun x => p x.registration) = true :=
      List.any_eq_true.mpr ⟨x, List.mem_of_find?_eq_some hx,
        List.find?_some (p := fun x : Entry η => p x.registration) hx⟩
    rw [Roster.remove, h1, eraseP_eq_filter h.ascending hx]
  | none =>
    refine Or.inr ⟨rfl, ?_⟩
    have h1 := List.find?_eq_none.mp hx
    have h2 : (roster.entries.any fun x => p x.registration) = false :=
      List.any_eq_false.mpr h1
    rw [Roster.remove, h2, List.eraseP_of_forall_not h1]

/-! ## Disposal -/

theorem disposed_enter (u : Use η) :
    (u.enter settings roster).2.disposed = true ↔ roster.disposed = true ∨ .dispose = u := by
  cases u with
  | subscribe generated eventType options handler =>
    have h1 : (roster.subscribe settings generated eventType options handler).2.disposed =
        roster.disposed := by
      rw [subscribe]
      split <;> rfl
    show (roster.subscribe settings generated eventType options handler).2.disposed = true ↔ _
    rw [h1]
    exact ⟨Or.inl, fun h => h.resolve_right nofun⟩
  | unsubscribe subscriptionId => exact ⟨Or.inl, fun h => h.resolve_right nofun⟩
  | release handle => exact ⟨Or.inl, fun h => h.resolve_right nofun⟩
  | clear => exact ⟨Or.inl, fun h => h.resolve_right nofun⟩
  | dispose => exact ⟨fun _ => Or.inr rfl, fun _ => rfl⟩

/-- **A list is disposed for good**, and not otherwise. -/
theorem disposed_after (uses : List (Use η)) :
    (roster.after settings uses).disposed = true ↔ roster.disposed = true ∨ .dispose ∈ uses := by
  induction uses generalizing roster with
  | nil => exact ⟨Or.inl, fun h => h.resolve_right List.not_mem_nil⟩
  | cons u uses ih =>
    show ((u.enter settings roster).2.after settings uses).disposed = true ↔ _
    rw [ih, disposed_enter, List.mem_cons, or_assoc]

/-! ## The entry of a handle -/

/-- A number has been given away, and if an entry still bears it, that entry satisfies `P`. -/
def Only (n : Nat) (P : Entry η → Prop) (roster : Roster η) : Prop :=
  n < roster.made ∧ ∀ x ∈ roster.entries, x.registration.ordinal = n → P x

theorem Only.enter {n : Nat} {P : Entry η → Prop} (h : roster.Only n P) (u : Use η) :
    (u.enter settings roster).2.Only n P := by
  rcases enter_cases settings u roster with h1 | ⟨-, x, hx, h1⟩ | ⟨p, h1⟩ | ⟨d, h1⟩
  · rw [h1]
    exact h
  · rw [h1]
    refine ⟨Nat.lt_succ_of_lt h.1, fun y hy hn => ?_⟩
    rcases List.mem_append.mp hy with hy | hy
    · exact h.2 y hy hn
    · -- the new entry bears the next number, and `n` was given away before
      rw [List.mem_singleton.mp hy, hx] at hn
      exact absurd hn (Nat.ne_of_gt h.1)
  · rw [h1]
    exact ⟨h.1, fun y hy => h.2 y (List.mem_of_mem_eraseP hy)⟩
  · rw [h1]
    exact ⟨h.1, fun _ hy => absurd hy List.not_mem_nil⟩

theorem enter_subscribed {u : Use η} {h : Handle}
    (ha : (u.enter settings roster).1 = .subscribed (.ok h)) :
    ∃ own, (u.enter settings roster).2.entries = roster.entries ++ [own] ∧
      own.registration.ordinal = h.ordinal ∧ h.ordinal = roster.made ∧
      (u.enter settings roster).2.made = roster.made + 1 := by
  cases u with
  | subscribe generated eventType options handler =>
    change Answer.subscribed (roster.subscribe settings generated eventType options handler).1 = _
      at ha
    show ∃ own, (roster.subscribe settings generated eventType options handler).2.entries = _ ∧ _ ∧ _
      ∧ (roster.subscribe settings generated eventType options handler).2.made = _
    rw [subscribe] at ha ⊢
    split at ha
    · cases ha
    · rename_i hd
      rw [if_neg hd]
      cases ha
      exact ⟨_, rfl, rfl, rfl, rfl⟩
  | unsubscribe subscriptionId => cases ha
  | release handle => cases ha
  | clear => cases ha
  | dispose => cases ha

/-- **A handle belongs to one entry for ever**: no later entry bears its number. -/
theorem only_after {u : Use η} {h : Handle}
    (ha : (u.enter settings roster).1 = .subscribed (.ok h)) (hs : roster.Sound) :
    ∃ own, (u.enter settings roster).2.entries = roster.entries ++ [own] ∧
      own.registration.ordinal = h.ordinal ∧
      ∀ uses, ((u.enter settings roster).2.after settings uses).Only h.ordinal (· = own) := by
  obtain ⟨own, h1, h2, h3, h4⟩ := enter_subscribed ha
  refine ⟨own, h1, h2, after_induction ⟨?_, fun x hx hn => ?_⟩ fun u _ h => h.enter u⟩
  · rw [h3, h4]
    exact Nat.lt_succ_self _
  · rw [h1] at hx
    rcases List.mem_append.mp hx with hx | hx
    · rw [h3] at hn
      exact absurd hn (Nat.ne_of_lt (hs.below x hx))
    · exact List.mem_singleton.mp hx

theorem none_after_release {h : Handle} (hs : roster.Sound) (hm : h.ordinal < roster.made)
    {uses : List (Use η)} (hr : .release h ∈ uses) :
    (roster.after settings uses).Only h.ordinal fun _ => False := by
  obtain ⟨before, rest, rfl⟩ := List.append_of_mem hr
  rw [after_append]
  have h1 : (roster.after settings before).Sound :=
    after_induction hs (fun u _ h => h.enter u) before
  have h2 : (roster.after settings before).Only h.ordinal fun _ => True :=
    after_induction ⟨hm, fun _ _ _ => trivial⟩ (fun u _ h => h.enter u) before
  have h3 : ((Use.release h).enter settings (roster.after settings before)).2.Only h.ordinal
      fun _ => False := by
    refine ⟨h2.1, fun x hx hn => ?_⟩
    change x ∈ ((roster.after settings before).remove fun r => r.ordinal == h.ordinal).2.entries
      at hx
    rcases h1.remove_cases fun r => r.ordinal == h.ordinal with ⟨y, hy, h4⟩ | ⟨hy, h4⟩
    · rw [h4] at hx
      have h5 : y.registration.ordinal = h.ordinal :=
        beq_iff_eq.mp (List.find?_some (p := fun x : Entry η => x.registration.ordinal == h.ordinal) hy)
      exact bne_iff_ne.mp (List.mem_filter.mp hx).2 (hn.trans h5.symm)
    · rw [h4] at hx
      exact List.find?_eq_none.mp hy x hx (beq_iff_eq.mpr hn)
  exact after_induction h3 (fun u _ h => h.enter u) rest

end Roster

end EventLedger
