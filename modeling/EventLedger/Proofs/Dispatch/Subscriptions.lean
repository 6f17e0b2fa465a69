import EventLedger.Proofs.Dispatch.Roster
import EventLedger.Proofs.Dispatch.Serving

/-!
# The registry as one list

A registry keeps its subscriptions in a table by event type and in a list of their own for all
types. It behaves as one list in the order of registration, whatever the order of the table.

* `Registry.entries`: all subscriptions of a registry, table first;
* `Represents`: a registry keeps the subscriptions of a list;
* `Represents.enter`: what is done with one is done with the other, with one answer;
* `Represents.handlersFor`, `Represents.count`: they serve the same handlers;
* `Use.perform`, `Ran`: a registry in use, its table shuffled at any time;
* `Handle.Owns`, **`registry_refines_roster`**;
* `Use.turnover`: an example with a shared name and a handle released too late.
-/

namespace EventLedger

variable {η : Type}

namespace Registry

/-! ## The entries of a registry -/

/-- A table of handlers by event type. -/
abbrev Table (η : Type) := List (String × List (Registration η))

/-- The event types that stand in a table. -/
def keys (table : Table η) : List String := table.map (·.1)

/-- The subscriptions in a table. -/
def tableEntries (table : Table η) : List (Entry η) :=
  table.flatMap fun (eventType, rs) => rs.map (Entry.mk eventType)

/-- All subscriptions, those of single types first. -/
def entries (g : Registry η) : List (Entry η) :=
  tableEntries g.byType ++ g.wildcard.map (Entry.mk wildcardType)

theorem tableEntries_cons (eventType : String) (rs : List (Registration η)) (rest : Table η) :
    tableEntries ((eventType, rs) :: rest) = rs.map (Entry.mk eventType) ++ tableEntries rest := rfl

theorem map_registration (eventType : String) (rs : List (Registration η)) :
    (rs.map (Entry.mk eventType)).map (·.registration) = rs := by
  rw [List.map_map]
  exact List.map_id rs

theorem map_tableEntries (table : Table η) :
    (tableEntries table).map (·.registration) = table.flatMap (·.2) := by
  induction table with
  | nil => rfl
  | cons row rest ih =>
    rw [tableEntries_cons, List.map_append, map_registration, ih, List.flatMap_cons]

theorem all_eq (g : Registry η) : g.all = g.entries.map (·.registration) := by
  rw [entries, List.map_append, map_tableEntries, map_registration, all]

/-! ## Registering -/

-- The row of a type may stand anywhere in the table, so the entries agree up to their order only.
theorem tableEntries_addTo (eventType : String) (r : Registration η) (table : Table η) :
    (tableEntries (addTo eventType r table)).Perm (tableEntries table ++ [⟨eventType, r⟩]) := by
  induction table with
  | nil => exact .refl _
  | cons row rest ih =>
    obtain ⟨t, rs⟩ := row
    rw [addTo]
    split
    · rename_i h
      rw [h, tableEntries_cons, tableEntries_cons, List.map_append, List.append_assoc,
        List.append_assoc]
      exact List.perm_append_comm.append_left _
    · rw [tableEntries_cons, tableEntries_cons, List.append_assoc]
      exact ih.append_left _

theorem mem_keys_addTo {eventType t : String} {r : Registration η} {table : Table η} :
    t ∈ keys (addTo eventType r table) ↔ t = eventType ∨ t ∈ keys table := by
  induction table with
  | nil => simp [keys, addTo]
  | cons row rest ih =>
    obtain ⟨k, rs⟩ := row
    rw [addTo]
    split
    · rename_i h
      simp [keys, h]
    · have h1 : ∀ (rs : List (Registration η)) rest,
          t ∈ keys ((k, rs) :: rest) ↔ t = k ∨ t ∈ keys rest := fun _ _ => List.mem_cons
      rw [h1, h1, ih, or_left_comm]

theorem nodup_keys_addTo {eventType : String} {r : Registration η} {table : Table η}
    (h : (keys table).Nodup) : (keys (addTo eventType r table)).Nodup := by
  induction table with
  | nil => exact List.nodup_cons.mpr ⟨List.not_mem_nil, h⟩
  | cons row rest ih =>
    obtain ⟨k, rs⟩ := row
    obtain ⟨h1, h2⟩ := List.nodup_cons.mp h
    rw [addTo]
    split
    · exact h
    · rename_i hk
      refine List.nodup_cons.mpr ⟨fun hm => ?_, ih h2⟩
      rcases mem_keys_addTo.mp hm with h3 | h3
      · exact hk h3
      · exact h1 h3

theorem entries_register (eventType subscriptionId : String) (priority : Int)
    (continueOnError : Bool) (handler : η) (g : Registry η) :
    (g.register eventType subscriptionId priority continueOnError handler).2.entries.Perm
      (g.entries ++
        [⟨eventType, ⟨g.nextOrdinal, subscriptionId, priority, continueOnError, handler⟩⟩]) := by
  rw [register]
  by_cases h : eventType = wildcardType
  · rw [if_pos h, entries, entries, List.map_append, List.append_assoc, h]
    exact .refl _
  · rw [if_neg h, entries, entries, List.append_assoc]
    refine ((tableEntries_addTo eventType _ g.byType).append_right _).trans ?_
    rw [List.append_assoc]
    exact List.perm_append_comm.append_left _

/-! ## Removing -/

theorem tableEntries_without (n : Nat) (table : Table η) :
    tableEntries ((table.map fun (t, rs) => (t, rs.filter (·.ordinal != n))).filter
        fun (_, rs) => !rs.isEmpty) =
      (tableEntries table).filter fun x => x.registration.ordinal != n := by
  induction table with
  | nil => rfl
  | cons row rest ih =>
    obtain ⟨t, rs⟩ := row
    have h1 : (rs.map (Entry.mk t)).filter (fun x => x.registration.ordinal != n) =
        (rs.filter (·.ordinal != n)).map (Entry.mk t) := List.filter_map
    rw [tableEntries_cons, List.filter_append, h1, List.map_cons, ← ih]
    dsimp only
    -- the row stays exactly if something is left in it
    cases rs.filter (·.ordinal != n) <;> rfl

theorem entries_withoutOrdinal (n : Nat) (g : Registry η) :
    (g.withoutOrdinal n).entries = g.entries.filter fun x => x.registration.ordinal != n := by
  rw [entries, entries, List.filter_append, List.filter_map, ← tableEntries_without]
  rfl

theorem keys_withoutOrdinal (n : Nat) (g : Registry η) :
    (keys (g.withoutOrdinal n).byType).Sublist (keys g.byType) := by
  have h1 : keys (g.byType.map fun (t, rs) => (t, rs.filter (·.ordinal != n))) = keys g.byType := by
    rw [keys, List.map_map]
    rfl
  rw [← h1]
  exact List.filter_sublist.map _

theorem foldl_older {n : Nat} {later : List Nat} (h : ∀ m ∈ later, n < m) :
    later.foldl older (some n) = some n := by
  induction later with
  | nil => rfl
  | cons m rest ih =>
    obtain ⟨h1, h2⟩ := List.forall_mem_cons.mp h
    rw [List.foldl_cons, older, Nat.min_eq_left (Nat.le_of_lt h1)]
    exact ih h2

theorem older_comm (o : Option Nat) (m n : Nat) : older (older o m) n = older (older o n) m := by
  cases o with
  | none => exact congrArg some (Nat.min_comm m n)
  | some k =>
    show some (min (min k m) n) = some (min (min k n) m)
    rw [Nat.min_assoc, Nat.min_comm m n, ← Nat.min_assoc]

/-! ## Serving -/

theorem filter_isFor (eventType k : String) (rs : List (Registration η)) :
    (rs.map (Entry.mk k)).filter (·.isFor eventType) =
      if k = eventType ∨ k = wildcardType then rs.map (Entry.mk k) else [] := by
  have h1 : ∀ x ∈ rs.map (Entry.mk k),
      x.isFor eventType = true ↔ k = eventType ∨ k = wildcardType := by
    intro x hx
    obtain ⟨r, -, rfl⟩ := List.mem_map.mp hx
    rw [Entry.isFor, Bool.or_eq_true, beq_iff_eq, beq_iff_eq]
  split
  · rename_i h
    exact List.filter_eq_self.mpr fun x hx => (h1 x hx).mpr h
  · rename_i h
    exact List.filter_eq_nil_iff.mpr fun x hx hf => h ((h1 x hx).mp hf)

theorem lookup_eq_none {table : Table η} {eventType : String} (h : eventType ∉ keys table) :
    table.lookup eventType = none := by
  refine List.lookup_eq_none_iff.mpr fun row hrow => bne_iff_ne.mpr fun he => h ?_
  exact List.mem_map.mpr ⟨row, hrow, he.symm⟩

theorem filter_tableEntries {table : Table η} (hk : (keys table).Nodup)
    (hw : wildcardType ∉ keys table) (eventType : String) :
    ((tableEntries table).filter (·.isFor eventType)).map (·.registration) =
      (table.lookup eventType).getD [] := by
  induction table with
  | nil => rfl
  | cons row rest ih =>
    obtain ⟨k, rs⟩ := row
    obtain ⟨h1, h2⟩ := List.nodup_cons.mp hk
    have h3 : k ≠ wildcardType := fun h => hw (h ▸ List.mem_cons_self)
    have h4 : wildcardType ∉ keys rest := fun h => hw (List.mem_cons_of_mem _ h)
    rw [tableEntries_cons, List.filter_append, List.map_append, filter_isFor, ih h2 h4,
      List.lookup_cons]
    by_cases h : k = eventType
    · rw [if_pos (Or.inl h), map_registration, lookup_eq_none (h ▸ h1), h, beq_self_eq_true]
      exact List.append_nil rs
    · rw [if_neg (not_or.mpr ⟨h, h3⟩), beq_eq_false_iff_ne.mpr (Ne.symm h)]
      rfl

theorem specific_wildcard {g : Registry η} (hw : wildcardType ∉ keys g.byType) :
    g.specific wildcardType = [] := by
  rw [specific, lookup_eq_none hw]
  rfl

end Registry

/-! ## A registry and a list -/

/-- A registry keeps the subscriptions of a list. -/
structure Represents (g : Registry η) (roster : Roster η) : Prop where
  entries : g.entries.Perm roster.entries
  keys : (Registry.keys g.byType).Nodup
  /-- The type that stands for all has no row of its own. -/
  wildcard : wildcardType ∉ Registry.keys g.byType
  made : g.nextOrdinal = roster.made
  disposed : g.disposed = roster.disposed

namespace Represents

variable {g : Registry η} {roster : Roster η}

theorem empty : Represents (.empty : Registry η) .empty :=
  ⟨.refl _, .nil, List.not_mem_nil, rfl, rfl⟩

theorem shuffled (h : Represents g roster) {table : Registry.Table η}
    (hp : table.Perm g.byType) : Represents { g with byType := table } roster where
  entries := ((hp.flatMap_right _).append_right _).trans h.entries
  keys := (hp.map _).nodup_iff.mpr h.keys
  wildcard hm := h.wildcard ((hp.map _).mem_iff.mp hm)
  made := h.made
  disposed := h.disposed

theorem subscribe (h : Represents g roster) (settings : DispatcherSettings) (generated : Uuid)
    (eventType : String) (options : SubscribeOptions) (handler : η) :
    (EventLedger.subscribe settings generated eventType options handler g).1 =
        (roster.subscribe settings generated eventType options handler).1 ∧
      Represents (EventLedger.subscribe settings generated eventType options handler g).2
        (roster.subscribe settings generated eventType options handler).2 := by
  rw [EventLedger.subscribe, Roster.subscribe, h.disposed]
  cases hd : roster.disposed with
  | true => exact ⟨rfl, h⟩
  | false =>
    rw [if_neg Bool.false_ne_true, if_neg Bool.false_ne_true]
    have h1 := (g.entries_register eventType (options.subscriptionId.getD generated.text)
      (options.priority.getD settings.defaultPriority) options.continueOnError handler).trans
      (h.entries.append_right _)
    rw [Registry.register] at h1 ⊢
    by_cases ht : eventType = wildcardType
    · rw [if_pos ht] at h1 ⊢
      rw [h.made] at h1 ⊢
      exact ⟨rfl, h1, h.keys, h.wildcard, rfl, h.disposed.trans hd⟩
    · rw [if_neg ht] at h1 ⊢
      rw [h.made] at h1 ⊢
      refine ⟨rfl, h1, Registry.nodup_keys_addTo h.keys, fun hm => ?_, rfl, h.disposed.trans hd⟩
      rcases Registry.mem_keys_addTo.mp hm with h2 | h2
      · exact ht h2.symm
      · exact h.wildcard h2

theorem oldest (h : Represents g roster) (hs : roster.Sound) (p : Registration η → Bool) :
    g.oldest p =
      (roster.entries.find? fun x => p x.registration).map (·.registration.ordinal) := by
  have h1 : (g.all.filter p).map (·.ordinal) =
      (g.entries.filter fun x => p x.registration).map (·.registration.ordinal) := by
    rw [g.all_eq, List.filter_map, List.map_map]
    rfl
  have h2 := (h.entries.filter fun x => p x.registration).map (·.registration.ordinal)
  -- the smallest number does not depend on the order of the table
  rw [Registry.oldest, h1, h2.foldl_eq' (fun _ _ _ _ _ => Registry.older_comm _ _ _),
    ← List.head?_filter]
  have h3 := hs.ascending.filter fun x => p x.registration
  cases hf : roster.entries.filter fun x => p x.registration with
  | nil => rfl
  | cons x rest =>
    rw [hf] at h3
    refine Registry.foldl_older fun m hm => ?_
    obtain ⟨y, hy, rfl⟩ := List.mem_map.mp hm
    exact (List.pairwise_cons.mp h3).1 y hy

theorem removeOldest (h : Represents g roster) (hs : roster.Sound) (p : Registration η → Bool) :
    (g.removeOldest p).1 = (roster.remove p).1 ∧
      Represents (g.removeOldest p).2 (roster.remove p).2 := by
  rw [Registry.removeOldest, h.oldest hs]
  rcases hs.remove_cases p with ⟨x, hx, hr⟩ | ⟨hx, hr⟩
  · rw [hx, hr]
    refine ⟨rfl, ?_, (g.keys_withoutOrdinal _).nodup h.keys, fun hm => ?_, h.made, h.disposed⟩
    · rw [Option.map_some]
      dsimp only
      rw [g.entries_withoutOrdinal]
      exact h.entries.filter _
    · exact h.wildcard ((g.keys_withoutOrdinal _).subset hm)
  · rw [hx, hr]
    exact ⟨rfl, h⟩

theorem cleared (h : Represents g roster) : Represents g.clear roster.clear where
  entries := .refl _
  keys := .nil
  wildcard := List.not_mem_nil
  made := h.made
  disposed := h.disposed

theorem disposed_dispose (h : Represents g roster) : Represents g.dispose roster.dispose where
  entries := .refl _
  keys := .nil
  wildcard := List.not_mem_nil
  made := h.made
  disposed := rfl

theorem serves (h : Represents g roster) (hs : roster.Sound) (eventType : String) :
    g.Serves eventType (roster.handlersFor eventType) where
  all := by
    refine (List.mergeSort_perm _ _).trans ?_
    have h1 := (h.entries.filter (·.isFor eventType)).map (·.registration)
    rw [Registry.entries, List.filter_append, List.map_append, Registry.filter_isFor,
      if_pos (Or.inr rfl), Registry.map_registration,
      Registry.filter_tableEntries h.keys h.wildcard] at h1
    exact h1.symm
  ordered := by
    refine Registration.pairwise_mergeSort ?_
    exact List.pairwise_map.mpr (hs.ascending.filter _)

/-- **Both serve the same handlers in the same order.** -/
theorem handlersFor (h : Represents g roster) (hs : roster.Sound) (eventType : String) :
    g.handlersFor eventType = roster.handlersFor eventType := by
  refine ((h.serves hs eventType).unique (g.serves_handlersFor eventType) ?_).symm
  intro a ha b hb hn
  obtain ⟨x, hx, rfl⟩ := List.mem_map.mp (List.mem_mergeSort.mp ha)
  obtain ⟨y, hy, rfl⟩ := List.mem_map.mp (List.mem_mergeSort.mp hb)
  rw [hs.eq_of_ordinal (List.mem_filter.mp hx).1 (List.mem_filter.mp hy).1 hn]

theorem count (h : Represents g roster) (eventType : String) :
    g.count eventType = (g.handlersFor eventType).length := by
  rw [Registry.count, Registry.handlersFor, List.length_mergeSort, List.length_append]
  by_cases ht : eventType = wildcardType
  · rw [if_pos ht, ht, Registry.specific_wildcard h.wildcard]
    rfl
  · rw [if_neg ht]

end Represents

/-! ## Runs -/

/-- A use of a registry, with the answer. -/
def Use.perform (settings : DispatcherSettings) : Use η → Registry η → Answer × Registry η
  | subscribe generated eventType options handler, g =>
    let (outcome, g) := EventLedger.subscribe settings generated eventType options handler g
    (.subscribed outcome, g)
  | unsubscribe subscriptionId, g =>
    let (found, g) := g.unsubscribe subscriptionId
    (.removed found, g)
  | release h, g =>
    let (found, g) := g.release h
    (.removed found, g)
  | clear, g => (.done, g.clear)
  | dispose, g => (.done, g.dispose)

/-- **A registry and a list that it represents answer a use alike**, and it still represents it. -/
theorem Represents.enter {g : Registry η} {roster : Roster η} (h : Represents g roster)
    (hs : roster.Sound) (settings : DispatcherSettings) (u : Use η) :
    (u.perform settings g).1 = (u.enter settings roster).1 ∧
      Represents (u.perform settings g).2 (u.enter settings roster).2 := by
  cases u with
  | subscribe generated eventType options handler =>
    exact (h.subscribe settings generated eventType options handler).imp (congrArg _) id
  | unsubscribe subscriptionId => exact (h.removeOldest hs _).imp (congrArg _) id
  | release handle => exact (h.removeOldest hs _).imp (congrArg _) id
  | clear => exact ⟨rfl, h.cleared⟩
  | dispose => exact ⟨rfl, h.disposed_dispose⟩

/-- A registry in use, with what was answered. The order of its table is nobody's choice: it may be
another one at any time. -/
inductive Ran (settings : DispatcherSettings) :
    Registry η → List (Use η × Answer) → Registry η → Prop
  | unused (g : Registry η) : Ran settings g [] g
  | shuffled {g later : Registry η} {past : List (Use η × Answer)}
    {table : Registry.Table η} :
    table.Perm g.byType → Ran settings { g with byType := table } past later →
    Ran settings g past later
  | used (u : Use η) {g later : Registry η} {past : List (Use η × Answer)} :
    Ran settings (u.perform settings g).2 past later →
    Ran settings g ((u, (u.perform settings g).1) :: past) later

/-- The list that the uses of a registry make of an empty one. -/
def rosterOf (settings : DispatcherSettings) (past : List (Use η × Answer)) : Roster η :=
  Roster.empty.after settings (past.map (·.1))

theorem Ran.represents {settings : DispatcherSettings} {g later : Registry η}
    {past : List (Use η × Answer)} (h : Ran settings g past later) {roster : Roster η}
    (hg : Represents g roster) (hs : roster.Sound) :
    roster.answers settings (past.map (·.1)) = past.map (·.2) ∧
      Represents later (roster.after settings (past.map (·.1))) := by
  induction h generalizing roster with
  | unused g => exact ⟨rfl, hg⟩
  | shuffled hp _ ih => exact ih (hg.shuffled hp) hs
  | used u _ ih =>
    obtain ⟨h1, h2⟩ := hg.enter hs settings u
    obtain ⟨h3, h4⟩ := ih h2 (hs.enter u)
    refine ⟨?_, h4⟩
    show (u.enter settings roster).1 :: _ = _ :: _
    rw [h1, h3]

theorem Ran.answer {settings : DispatcherSettings} {g : Registry η}
    {before rest : List (Use η × Answer)} {u : Use η} {answer : Answer}
    (h : Ran settings .empty (before ++ (u, answer) :: rest) g) :
    (u.enter settings (rosterOf settings before)).1 = answer := by
  have h1 := (h.represents .empty Roster.sound_empty).1
  rw [List.map_append, List.map_append, Roster.answers_append] at h1
  have h2 := List.append_inj h1 (by rw [Roster.length_answers, List.length_map, List.length_map])
  exact (List.cons.inj h2.2).1

/-- An entry belongs to a handle, as the list is now: no other entry can be removed with it, and none
once it has been released. -/
structure Handle.Owns (h : Handle) (own : Entry η) (released : Prop) (roster : Roster η) :
    Prop where
  number : own.registration.ordinal = h.ordinal
  only : ∀ x ∈ roster.entries, x.registration.ordinal = h.ordinal → x = own
  once : released → ∀ x ∈ roster.entries, x.registration.ordinal ≠ h.ordinal

/-- **A registry behaves as one list of subscriptions in the order of registration.** It answers
every use as the list does; what it delivers to and counts is what stands in the list, in order of
priority. Nothing depends on the order of its table. A handle belongs to the entry that was put
behind all others when it was issued. -/
theorem registry_refines_roster (settings : DispatcherSettings) {past : List (Use η × Answer)}
    {g : Registry η} (h : Ran settings .empty past g) :
    past.map (·.2) = Roster.empty.answers settings (past.map (·.1)) ∧
    (∀ eventType,
      g.handlersFor eventType = (rosterOf settings past).handlersFor eventType ∧
      g.count eventType = ((rosterOf settings past).handlersFor eventType).length) ∧
    (g.disposed = true ↔ ∃ answer, (.dispose, answer) ∈ past) ∧
    (g.disposed = true → (rosterOf settings past).entries = []) ∧
    ∀ before u handle rest, past = before ++ (u, .subscribed (.ok handle)) :: rest →
      ∃ own, (u.enter settings (rosterOf settings before)).2.entries =
          (rosterOf settings before).entries ++ [own] ∧
        handle.Owns own (∃ answer, (.release handle, answer) ∈ rest) (rosterOf settings past) := by
  obtain ⟨h1, h2⟩ := h.represents .empty Roster.sound_empty
  have hs : (rosterOf settings past).Sound := Roster.sound_after _
  refine ⟨h1.symm, fun eventType => ⟨h2.handlersFor hs eventType, ?_⟩, ?_, fun hd => ?_, ?_⟩
  · rw [h2.count, h2.handlersFor hs]
    rfl
  · have h3 : g.disposed = (rosterOf settings past).disposed := h2.disposed
    rw [h3, rosterOf, Roster.disposed_after, List.mem_map]
    constructor
    · rintro (hd | ⟨⟨u, answer⟩, hm, rfl⟩)
      · cases hd
      · exact ⟨answer, hm⟩
    · rintro ⟨answer, hm⟩
      exact Or.inr ⟨_, hm, rfl⟩
  · exact hs.vacant (h2.disposed.symm.trans hd)
  · rintro before u handle rest rfl
    have h3 : (rosterOf settings before).Sound := Roster.sound_after _
    obtain ⟨own, h4, h5, h6⟩ := Roster.only_after h.answer h3
    have h7 : rosterOf settings (before ++ (u, .subscribed (.ok handle)) :: rest) =
        (u.enter settings (rosterOf settings before)).2.after settings (rest.map (·.1)) := by
      rw [rosterOf, List.map_append, Roster.after_append]
      rfl
    rw [h7]
    refine ⟨own, h4, h5, (h6 _).2, ?_⟩
    rintro ⟨answer, hm⟩
    exact (Roster.none_after_release (h3.enter u) (h6 []).1
      (List.mem_map.mpr ⟨_, hm, rfl⟩)).2

/-! ## Two handlers of one name -/

namespace Use

/-- A subscription in an example. -/
def named (eventType name handler : String) : Use String :=
  .subscribe ⟨0⟩ eventType { subscriptionId := some name } handler

/-- Two handlers share a name; one is removed by it, and its handle is released too late. Another
handle is released only after all subscriptions were removed and its event type got a new one. -/
def turnover : List (Use String × Answer) :=
  [(named "order.placed" "audit" "first", .subscribed (.ok ⟨"audit", "order.placed", 0⟩)),
    (named wildcardType "audit" "second", .subscribed (.ok ⟨"audit", wildcardType, 1⟩)),
    (named "order.paid" "mail" "third", .subscribed (.ok ⟨"mail", "order.paid", 2⟩)),
    (.unsubscribe "audit", .removed true),
    (.release ⟨"audit", "order.placed", 0⟩, .removed false),
    (.clear, .done),
    (named "order.paid" "mail" "fourth", .subscribed (.ok ⟨"mail", "order.paid", 3⟩)),
    (.release ⟨"mail", "order.paid", 2⟩, .removed false)]

theorem ran_turnover : ∃ g, Ran .standard (.empty : Registry String) turnover g :=
  ⟨_, .used _ (.used _ (.used _ (.shuffled (.swap _ _ _) (.used _ (.used _ (.used _ (.used _
    (.used _ (.unused _)))))))))⟩

end Use

open Use in
/-- The new subscription is not removed with the handle of the old one. -/
theorem turnover_leaves_fourth :
    ∃ g, Ran .standard (.empty : Registry String) turnover g ∧
      g.handlersFor "order.paid" = [⟨3, "mail", 100, true, "fourth"⟩] ∧
      g.count "order.paid" = 1 ∧ g.handlersFor "order.placed" = [] := by
  obtain ⟨g, h⟩ := ran_turnover
  have h1 := (registry_refines_roster .standard h).2.1
  have h2 : (rosterOf .standard turnover).handlersFor "order.paid" =
      [⟨3, "mail", 100, true, "fourth"⟩] := List.mergeSort_singleton _
  have h3 : (rosterOf .standard turnover).handlersFor "order.placed" = [] := List.mergeSort_nil
  refine ⟨g, h, (h1 _).1.trans h2, (h1 _).2.trans ?_, (h1 _).1.trans h3⟩
  rw [h2]
  rfl

end EventLedger
