import EventLedger.Audit.StateDiff
import EventLedger.Proofs.Json.Members
import EventLedger.Proofs.Text.ByteOrder

/-!
# Differences as a patch

The fields that differ lead from the state before to the state after, and back again.

* `mem_sortedNames`, `pairwise_sortedNames`: names sorted, each once;
* `FieldDiff.of?`, **`mem_changedMembers`**: a field is listed exactly if it differs;
* `FieldDiff.applyTo`, `patched`, **`lookup_patched`**: differences applied one after the other;
* `IsPatch`, `isPatch_changedMembers`: what is expected of differences between two objects;
* `StateChange.swap`, `changedFields_swap`: the other way round;
* **`changed_fields_patch`**.
-/

namespace EventLedger

open Json

/-! ## Sorted names -/

theorem mem_insertName {name other : String} {names : List String} :
    other ∈ insertName name names ↔ other = name ∨ other ∈ names := by
  induction names with
  | nil => simp [insertName]
  | cons n rest ih =>
    rw [insertName]
    split
    · simp_all
    · split
      · simp
      · simp only [List.mem_cons, ih]
        tauto

theorem mem_sortedNames {name : String} {names : List String} :
    name ∈ sortedNames names ↔ name ∈ names := by
  induction names with
  | nil => simp [sortedNames]
  | cons n rest ih =>
    rw [sortedNames, List.foldr_cons, mem_insertName, ← sortedNames, ih, List.mem_cons]

theorem pairwise_insertName {name : String} {names : List String} (h : names.Pairwise (· < ·)) :
    (insertName name names).Pairwise (· < ·) := by
  induction names with
  | nil => exact List.pairwise_singleton _ _
  | cons n rest ih =>
    obtain ⟨hfirst, hrest⟩ := List.pairwise_cons.mp h
    rw [insertName]
    split
    · exact h
    · split
      · rename_i hlt
        exact List.pairwise_cons.mpr
          ⟨List.forall_mem_cons.mpr ⟨hlt, fun m hm => lt_trans hlt (hfirst m hm)⟩, h⟩
      · rename_i hne hlt
        refine List.pairwise_cons.mpr ⟨fun m hm => ?_, ih hrest⟩
        rcases mem_insertName.mp hm with rfl | hm
        · exact lt_of_le_of_ne (not_lt.mp hlt) (Ne.symm hne)
        · exact hfirst m hm

theorem pairwise_sortedNames (names : List String) : (sortedNames names).Pairwise (· < ·) := by
  induction names with
  | nil => exact List.Pairwise.nil
  | cons n rest ih => exact pairwise_insertName ih

theorem sortedNames_append_comm (names others : List String) :
    sortedNames (names ++ others) = sortedNames (others ++ names) := by
  have hnodup : ∀ ns, (sortedNames ns).Nodup := fun ns => (pairwise_sortedNames ns).imp ne_of_lt
  refine List.Perm.eq_of_pairwise (fun a b _ _ hab hba => absurd hab (lt_asymm hba))
    (pairwise_sortedNames _) (pairwise_sortedNames _) ?_
  refine (List.perm_ext_iff_of_nodup (hnodup _) (hnodup _)).mpr fun name => ?_
  simp only [mem_sortedNames, List.mem_append]
  exact or_comm

/-! ## Differences between two objects -/

theorem sameOptional_iff (a b : Option Json) :
    sameOptional a b = true ↔ a.map plainZeros = b.map plainZeros := by
  cases a <;> cases b <;> simp [sameOptional, same_iff]

theorem sameOptional_comm (a b : Option Json) : sameOptional a b = sameOptional b a := by
  rw [Bool.eq_iff_iff, sameOptional_iff, sameOptional_iff, eq_comm]

namespace FieldDiff

/-- The difference that the field of a name makes. -/
def of? (before after : List (String × Json)) (name : String) : Option FieldDiff :=
  if sameOptional (before.lookup name) (after.lookup name) then none
  else some ⟨name, before.lookup name, after.lookup name⟩

/-- The difference seen from the other side. -/
def swap (d : FieldDiff) : FieldDiff := ⟨d.field, d.after, d.before⟩

/-- The field set to its later value, or removed if there is none. -/
def applyTo (d : FieldDiff) (members : List (String × Json)) : List (String × Json) :=
  match d.after with
  | some value => insertMember d.field value members
  | none => eraseMember d.field members

theorem lookup_applyTo (d : FieldDiff) (members : List (String × Json)) (name : String) :
    (d.applyTo members).lookup name = if name = d.field then d.after else members.lookup name := by
  unfold applyTo
  split
  · rename_i value h
    rw [lookup_insertMember, h]
  · rename_i h
    rw [lookup_eraseMember, h]

theorem namesIncrease_applyTo (d : FieldDiff) {members : List (String × Json)}
    (h : NamesIncrease members) : NamesIncrease (d.applyTo members) := by
  unfold applyTo
  split
  · exact h.insertMember
  · exact h.eraseMember

end FieldDiff

variable {before after : List (String × Json)}

theorem changedMembers_eq (before after : List (String × Json)) :
    changedMembers before after =
      (sortedNames (before.map (·.1) ++ after.map (·.1))).filterMap (FieldDiff.of? before after) :=
  rfl

theorem lookup_eq_none_of_not_mem {members : List (String × Json)} {name : String}
    (h : name ∉ members.map (·.1)) : members.lookup name = none := by
  refine List.lookup_eq_none_iff.mpr fun m hm => ?_
  simp only [bne_iff_ne, ne_eq]
  rintro rfl
  exact h (List.mem_map_of_mem hm)

theorem mem_names_of_differs {name : String}
    (h : sameOptional (before.lookup name) (after.lookup name) = false) :
    name ∈ sortedNames (before.map (·.1) ++ after.map (·.1)) := by
  rw [mem_sortedNames, List.mem_append]
  by_contra hout
  rw [not_or] at hout
  rw [lookup_eq_none_of_not_mem hout.1, lookup_eq_none_of_not_mem hout.2] at h
  cases h

/-- **A field is listed, with both of its values, exactly if these differ.** -/
theorem mem_changedMembers (d : FieldDiff) :
    d ∈ changedMembers before after ↔
      sameOptional (before.lookup d.field) (after.lookup d.field) = false ∧
        d.before = before.lookup d.field ∧ d.after = after.lookup d.field := by
  rw [changedMembers_eq, List.mem_filterMap]
  constructor
  · rintro ⟨name, -, h⟩
    unfold FieldDiff.of? at h
    split at h
    · cases h
    · rename_i hdiffers
      obtain rfl := Option.some.inj h
      exact ⟨by simpa using hdiffers, rfl, rfl⟩
  · rintro ⟨hdiffers, hbefore, hafter⟩
    refine ⟨d.field, mem_names_of_differs hdiffers, ?_⟩
    rw [FieldDiff.of?, hdiffers, ← hbefore, ← hafter]
    rfl

theorem pairwise_changedMembers (before after : List (String × Json)) :
    (changedMembers before after).Pairwise fun a b => a.field < b.field := by
  have hfield : ∀ {name d}, FieldDiff.of? before after name = some d → d.field = name := by
    intro name d h
    unfold FieldDiff.of? at h
    split at h
    · cases h
    · exact congrArg (·.field) (Option.some.inj h).symm
  refine (pairwise_sortedNames _).filterMap _ fun a b hlt d hd e he => ?_
  rw [hfield hd, hfield he]
  exact hlt

theorem changedMembers_swap (before after : List (String × Json)) :
    changedMembers after before = (changedMembers before after).map FieldDiff.swap := by
  rw [changedMembers_eq, changedMembers_eq, sortedNames_append_comm, List.map_filterMap]
  congr 1
  funext name
  unfold FieldDiff.of?
  rw [sameOptional_comm]
  split <;> rfl

/-! ## Patches -/

/-- Differences applied one after the other. -/
def patched (diffs : List FieldDiff) (members : List (String × Json)) : List (String × Json) :=
  diffs.foldl (fun ms d => d.applyTo ms) members

theorem namesIncrease_patched (diffs : List FieldDiff) {members : List (String × Json)}
    (h : NamesIncrease members) : NamesIncrease (patched diffs members) := by
  induction diffs generalizing members with
  | nil => exact h
  | cons d rest ih => exact ih (d.namesIncrease_applyTo h)

theorem lookup_patched_filterMap (names : List String) (members : List (String × Json))
    (name : String) :
    (patched (names.filterMap (FieldDiff.of? before after)) members).lookup name =
      if name ∈ names ∧ sameOptional (before.lookup name) (after.lookup name) = false
      then after.lookup name else members.lookup name := by
  induction names generalizing members with
  | nil => simp [patched]
  | cons n rest ih =>
    by_cases hn : sameOptional (before.lookup n) (after.lookup n) = true
    · have hnone : FieldDiff.of? before after n = none := if_pos hn
      rw [List.filterMap_cons_none hnone, ih]
      by_cases h : name = n <;> simp [h, hn]
    · have hsome : FieldDiff.of? before after n =
        some ⟨n, before.lookup n, after.lookup n⟩ := if_neg hn
      have hstep : patched ((n :: rest).filterMap (FieldDiff.of? before after)) members =
          patched (rest.filterMap (FieldDiff.of? before after))
            (FieldDiff.applyTo ⟨n, before.lookup n, after.lookup n⟩ members) := by
        rw [List.filterMap_cons_some hsome]
        rfl
      rw [hstep, ih, FieldDiff.lookup_applyTo]
      by_cases h : name = n
      · simp [h, hn]
      · simp [h]

/-- **Behind the patch, a field that differs has its later value, and every other its earlier one.** -/
theorem lookup_patched (before after : List (String × Json)) (name : String) :
    (patched (changedMembers before after) before).lookup name =
      if sameOptional (before.lookup name) (after.lookup name) then before.lookup name
      else after.lookup name := by
  rw [changedMembers_eq, lookup_patched_filterMap]
  cases h : sameOptional (before.lookup name) (after.lookup name) with
  | true => simp
  | false => simp [mem_names_of_differs h]

theorem map_lookup_patched (before after : List (String × Json)) (name : String) :
    ((patched (changedMembers before after) before).lookup name).map plainZeros =
      (after.lookup name).map plainZeros := by
  rw [lookup_patched]
  split
  · rename_i h
    exact (sameOptional_iff _ _).mp h
  · rfl

/-- What is expected of the differences between two objects. Values are equal whatever the signs of
their zeros are. -/
structure IsPatch (before after : List (String × Json)) (diffs : List FieldDiff) : Prop where
  forward : (obj (patched diffs before)).same (obj after) = true
  backward : (obj (patched (diffs.map FieldDiff.swap) after)).same (obj before) = true
  /-- Where no zero has a sign, the patch leads from one object to the other literally. -/
  literal : plainMembers before = before → plainMembers after = after →
    patched diffs before = after ∧ patched (diffs.map FieldDiff.swap) after = before
  /-- Names increase byte by byte. -/
  increasing : diffs.Pairwise fun a b => Utf8.encode a.field.toList < Utf8.encode b.field.toList
  listed : ∀ name, name ∈ diffs.map (·.field) ↔
    sameOptional (before.lookup name) (after.lookup name) = false
  sides : ∀ d ∈ diffs, d.before = before.lookup d.field ∧ d.after = after.lookup d.field

theorem patched_changedMembers_eq (hbefore : NamesIncrease before) (hafter : NamesIncrease after)
    (hb : plainMembers before = before) (ha : plainMembers after = after) :
    patched (changedMembers before after) before = after := by
  refine eq_of_lookup (namesIncrease_patched _ hbefore) hafter fun name => ?_
  have hplain := map_lookup_patched before after name
  rw [lookup_patched] at hplain ⊢
  split
  · rename_i h
    rw [if_pos h, ← lookup_plainMembers, ← lookup_plainMembers, hb, ha] at hplain
    exact hplain
  · rfl

theorem isPatch_changedMembers (hbefore : NamesIncrease before) (hafter : NamesIncrease after) :
    IsPatch before after (changedMembers before after) where
  forward :=
    same_obj_of_lookup (namesIncrease_patched _ hbefore) hafter (map_lookup_patched before after)
  backward := by
    rw [← changedMembers_swap]
    exact same_obj_of_lookup (namesIncrease_patched _ hafter) hbefore
      (map_lookup_patched after before)
  literal hb ha := by
    rw [← changedMembers_swap]
    exact ⟨patched_changedMembers_eq hbefore hafter hb ha,
      patched_changedMembers_eq hafter hbefore ha hb⟩
  increasing := (pairwise_changedMembers before after).imp (Utf8.encode_lt_iff _ _).mpr
  listed name := by
    rw [List.mem_map]
    constructor
    · rintro ⟨d, hd, rfl⟩
      exact ((mem_changedMembers d).mp hd).1
    · intro h
      exact ⟨⟨name, before.lookup name, after.lookup name⟩,
        (mem_changedMembers _).mpr ⟨h, rfl, rfl⟩, rfl⟩
  sides d hd := ((mem_changedMembers d).mp hd).2

/-! ## Changes of a state -/

/-- The members of a state, an absent one having none; nothing if it is no object. -/
def membersOf? : Option Json → Option (List (String × Json))
  | none => some []
  | some (.obj members) => some members
  | some _ => none

namespace StateChange

/-- The change the other way round. -/
def swap (c : StateChange) : StateChange := ⟨c.after, c.before⟩

/-- Objects have their members in the order of their names. -/
def InOrder (c : StateChange) : Prop :=
  ∀ members, c.before = some (.obj members) ∨ c.after = some (.obj members) → NamesIncrease members

theorem InOrder.namesIncrease {c : StateChange} (h : c.InOrder) {side : Option Json}
    (hside : side = c.before ∨ side = c.after) {members : List (String × Json)}
    (hm : membersOf? side = some members) : NamesIncrease members := by
  unfold membersOf? at hm
  split at hm
  · obtain rfl := Option.some.inj hm
    exact List.Pairwise.nil
  · obtain rfl := Option.some.inj hm
    exact h _ (hside.imp Eq.symm Eq.symm)
  · cases hm

theorem changedFields_eq (c : StateChange) :
    c.changedFields =
      match membersOf? c.before, membersOf? c.after with
      | some before, some after => changedMembers before after
      | _, _ =>
        if sameOptional c.before c.after then [] else [⟨"$", c.before, c.after⟩] := by
  obtain ⟨before, after⟩ := c
  rcases before with _ | before
  · rcases after with _ | after
    · rfl
    · cases after <;> rfl
  · rcases after with _ | after
    · cases before <;> rfl
    · cases before <;> cases after <;> rfl

theorem changedFields_swap (c : StateChange) :
    c.swap.changedFields = c.changedFields.map FieldDiff.swap := by
  have hwhole : ∀ before after : Option Json,
      (if sameOptional after before then [] else [⟨"$", after, before⟩]) =
        (if sameOptional before after then [] else [⟨"$", before, after⟩]).map FieldDiff.swap := by
    intro before after
    rw [sameOptional_comm]
    split <;> rfl
  obtain ⟨before, after⟩ := c
  rw [changedFields_eq, changedFields_eq, swap]
  dsimp only
  cases membersOf? before with
  | none => cases membersOf? after <;> exact hwhole before after
  | some bs =>
    cases membersOf? after with
    | none => exact hwhole before after
    | some as => exact changedMembers_swap bs as

end StateChange

/-- **The fields that differ are a faithful patch.** Between objects, an absent one counting as empty,
they lead from the state before to the state after and, seen from the other side, back again; they come
in the order of the bytes of their names, each once; a field is among them exactly if its value
or its presence differs, and then with both sides. Any other two states differ as a whole or not at all.
The differences of the opposite change are the same seen from the other side. -/
theorem changed_fields_patch {c : StateChange} (h : c.InOrder) :
    (match membersOf? c.before, membersOf? c.after with
      | some before, some after => IsPatch before after c.changedFields
      | _, _ =>
        c.changedFields =
          if sameOptional c.before c.after then [] else [⟨"$", c.before, c.after⟩]) ∧
      c.swap.changedFields = c.changedFields.map FieldDiff.swap := by
  refine ⟨?_, c.changedFields_swap⟩
  rw [c.changedFields_eq]
  cases hb : membersOf? c.before with
  | none => rfl
  | some before =>
    cases ha : membersOf? c.after with
    | none => rfl
    | some after =>
      exact isPatch_changedMembers (h.namesIncrease (.inl rfl) hb) (h.namesIncrease (.inr rfl) ha)

/-! ## A booking changed -/

/-- A price is raised, an open note is dropped and an upgrade is added. -/
def StateChange.rebooking : StateChange where
  before := some (.obj [("note", .null), ("price", .int 80), ("seat", .str "12A")])
  after := some (.obj [("price", .int 95), ("seat", .str "12A"), ("upgrade", .bool true)])

/-- The rebooking and its differences. -/
theorem rebooking_patched :
    StateChange.rebooking.InOrder ∧
      IsPatch [("note", .null), ("price", .int 80), ("seat", .str "12A")]
        [("price", .int 95), ("seat", .str "12A"), ("upgrade", .bool true)]
        StateChange.rebooking.changedFields ∧
      StateChange.rebooking.changedFields =
        [⟨"note", some .null, none⟩, ⟨"price", some (.int 80), some (.int 95)⟩,
          ⟨"upgrade", none, some (.bool true)⟩] := by
  have h : StateChange.rebooking.InOrder := by
    rintro members (h | h) <;> obtain rfl := Json.obj.inj (Option.some.inj h) <;>
      (unfold NamesIncrease; decide +kernel)
  exact ⟨h, (changed_fields_patch h).1, rfl⟩

end EventLedger
