import EventLedger.Json.Basic
import Mathlib.Data.String.Basic

/-!
# Members known by their names

The members of an object stand in the order of their names, each name once. Two such objects are equal
exactly if the same value is found under every name, where the sign of a zero does not matter.

* `Json.plainZeros`, **`Json.same_iff`**: equality is to be the same but for the signs of zeros;
* `NamesIncrease`, `eraseMember`, `lookup_insertMember`, `lookup_eraseMember`: members set and removed;
* **`same_obj_of_lookup`**, `eq_of_lookup`: objects told apart by what is found in them.
-/

namespace EventLedger

/-! ## Equality of values -/

theorem Decimal.Binary64.sameValue_iff (x y : Binary64) :
    x.sameValue y = true ↔ x = y ∨ (x.coefficient = 0 ∧ y.coefficient = 0) := by
  simp [sameValue, isZero]

/-- The number, but zero without a sign. -/
def Decimal.Binary64.plainZero (x : Binary64) : Binary64 := if x.isZero then zero false else x

theorem Decimal.Binary64.plainZero_inj (x y : Binary64) :
    x.plainZero = y.plainZero ↔ x.sameValue y = true := by
  obtain ⟨_, _, _⟩ := x
  obtain ⟨_, _, _⟩ := y
  rw [sameValue_iff]
  simp only [plainZero, isZero, zero, beq_iff_eq]
  split <;> split <;> simp_all
  omega

namespace Json

mutual

/-- The value with all zeros that have a fraction freed from their signs. -/
def plainZeros : Json → Json
  | .float x => .float x.plainZero
  | .arr items => .arr (plainItems items)
  | .obj members => .obj (plainMembers members)
  | j => j

/-- The items of an array without signs of zeros. -/
def plainItems : List Json → List Json
  | [] => []
  | x :: xs => x.plainZeros :: plainItems xs

/-- The members of an object without signs of zeros. -/
def plainMembers : List (String × Json) → List (String × Json)
  | [] => []
  | (name, x) :: rest => (name, x.plainZeros) :: plainMembers rest

end

mutual

/-- **Equal values** are the same but for the signs of zeros. -/
theorem same_iff (a b : Json) : a.same b = true ↔ a.plainZeros = b.plainZeros := by
  cases a with
  | float x => cases b <;> simp [same, plainZeros, Decimal.Binary64.plainZero_inj]
  | arr xs =>
    cases b with
    | arr ys => simp [same, plainZeros, sameItems_iff xs ys]
    | _ => simp [same, plainZeros]
  | obj xs =>
    cases b with
    | obj ys => simp [same, plainZeros, sameMembers_iff xs ys]
    | _ => simp [same, plainZeros]
  | _ => cases b <;> simp [same, plainZeros]

theorem sameItems_iff (xs ys : List Json) :
    sameItems xs ys = true ↔ plainItems xs = plainItems ys := by
  cases xs with
  | nil => cases ys <;> simp [sameItems, plainItems]
  | cons x xs =>
    cases ys with
    | nil => simp [sameItems, plainItems]
    | cons y ys => simp [sameItems, plainItems, same_iff x y, sameItems_iff xs ys]

theorem sameMembers_iff (xs ys : List (String × Json)) :
    sameMembers xs ys = true ↔ plainMembers xs = plainMembers ys := by
  cases xs with
  | nil => cases ys <;> simp [sameMembers, plainMembers]
  | cons x xs =>
    cases ys with
    | nil => simp [sameMembers, plainMembers]
    | cons y ys =>
      simp [sameMembers, plainMembers, same_iff x.2 y.2, sameMembers_iff xs ys, and_assoc]

end

/-! ## Members in the order of their names -/

/-- Members in the order of their names, each name once. -/
def NamesIncrease (members : List (String × Json)) : Prop :=
  members.Pairwise fun a b => a.1 < b.1

/-- Members without those of one name. -/
def eraseMember (name : String) (members : List (String × Json)) : List (String × Json) :=
  members.filter fun m => m.1 ≠ name

variable {members others : List (String × Json)} {name : String} {value : Json}

theorem lookup_member (k : String) (v : Json) (other : String) :
    ((k, v) :: members).lookup other = if other = k then some v else members.lookup other := by
  rw [List.lookup_cons]
  by_cases h : other = k
  · simp [h]
  · have hne : (other == k) = false := by simpa using h
    simp [h, hne]

theorem lookup_insertMember (other : String) :
    (insertMember name value members).lookup other =
      if other = name then some value else members.lookup other := by
  induction members with
  | nil => simp [insertMember, lookup_member]
  | cons m rest ih =>
    obtain ⟨k, v⟩ := m
    rw [insertMember]
    split
    · rename_i hk
      by_cases ho : other = name <;> simp [lookup_member, ho, ← hk]
    · split
      · exact lookup_member _ _ _
      · rename_i hk _
        rw [lookup_member, lookup_member, ih]
        by_cases ho : other = name <;> simp [ho, hk]

theorem lookup_eraseMember (other : String) :
    (eraseMember name members).lookup other =
      if other = name then none else members.lookup other := by
  induction members with
  | nil => simp [eraseMember]
  | cons m rest ih =>
    obtain ⟨k, v⟩ := m
    unfold eraseMember at ih ⊢
    by_cases hk : k = name
    · rw [List.filter_cons_of_neg (by simp [hk]), ih]
      by_cases ho : other = name <;> simp [lookup_member, ho, hk]
    · rw [List.filter_cons_of_pos (by simp [hk]), lookup_member, lookup_member, ih]
      by_cases ho : other = name
      · simp [ho, Ne.symm hk]
      · simp [ho]

theorem fst_mem_insertMember {m : String × Json} (h : m ∈ insertMember name value members) :
    m.1 = name ∨ m ∈ members := by
  induction members with
  | nil =>
    rw [insertMember, List.mem_singleton] at h
    exact .inl (congrArg (·.1) h)
  | cons first rest ih =>
    rw [insertMember] at h
    split at h
    · rcases List.mem_cons.mp h with rfl | h
      · exact .inl rfl
      · exact .inr (List.mem_cons_of_mem _ h)
    · split at h
      · rcases List.mem_cons.mp h with rfl | h
        · exact .inl rfl
        · exact .inr h
      · rcases List.mem_cons.mp h with rfl | h
        · exact .inr List.mem_cons_self
        · exact (ih h).imp_right (List.mem_cons_of_mem _)

theorem NamesIncrease.insertMember (h : NamesIncrease members) :
    NamesIncrease (insertMember name value members) := by
  induction members with
  | nil => exact List.pairwise_singleton _ _
  | cons first rest ih =>
    obtain ⟨hfirst, hrest⟩ := List.pairwise_cons.mp h
    rw [Json.insertMember]
    split
    · rename_i hk
      exact List.pairwise_cons.mpr ⟨fun m hm => hk ▸ hfirst m hm, hrest⟩
    · split
      · rename_i hlt
        refine List.pairwise_cons.mpr ⟨List.forall_mem_cons.mpr ⟨hlt, fun m hm => ?_⟩, h⟩
        exact lt_trans hlt (hfirst m hm)
      · rename_i hk hlt
        refine List.pairwise_cons.mpr ⟨fun m hm => ?_, ih hrest⟩
        rcases fst_mem_insertMember hm with hm | hm
        · exact hm ▸ lt_of_le_of_ne (not_lt.mp hlt) (Ne.symm hk)
        · exact hfirst m hm

theorem NamesIncrease.eraseMember (h : NamesIncrease members) :
    NamesIncrease (eraseMember name members) := h.filter _

theorem NamesIncrease.lookup_eq_some_iff (h : NamesIncrease members) :
    members.lookup name = some value ↔ (name, value) ∈ members := by
  induction members with
  | nil => simp
  | cons first rest ih =>
    obtain ⟨k, v⟩ := first
    obtain ⟨hfirst, hrest⟩ := List.pairwise_cons.mp h
    rw [lookup_member]
    by_cases hk : name = k
    · have hout : (name, value) ∉ rest := fun hm => lt_irrefl k (hk ▸ hfirst _ hm)
      simp [hk, eq_comm, hk ▸ hout]
    · simp [hk, ih hrest]

theorem eq_of_lookup (h : NamesIncrease members) (ho : NamesIncrease others)
    (hlookup : ∀ name, members.lookup name = others.lookup name) : members = others := by
  have hnodup : ∀ ms : List (String × Json), NamesIncrease ms → ms.Nodup := by
    intro ms hms
    refine hms.imp fun {a b} hlt heq => ?_
    rw [heq] at hlt
    exact lt_irrefl _ hlt
  refine List.Perm.eq_of_pairwise (fun a b _ _ hab hba => absurd hab (lt_asymm hba)) h ho ?_
  refine (List.perm_ext_iff_of_nodup (hnodup _ h) (hnodup _ ho)).mpr fun (name, value) => ?_
  rw [← h.lookup_eq_some_iff, hlookup, ho.lookup_eq_some_iff]

theorem plainMembers_eq (members : List (String × Json)) :
    plainMembers members = members.map fun m => (m.1, m.2.plainZeros) := by
  induction members with
  | nil => rfl
  | cons m rest ih => simp [plainMembers, ih]

theorem lookup_plainMembers (members : List (String × Json)) (name : String) :
    (plainMembers members).lookup name = (members.lookup name).map plainZeros := by
  induction members with
  | nil => rfl
  | cons m rest ih =>
    obtain ⟨k, v⟩ := m
    rw [plainMembers, lookup_member, lookup_member, ih]
    split <;> rfl

theorem NamesIncrease.plainMembers (h : NamesIncrease members) :
    NamesIncrease (plainMembers members) := by
  rw [plainMembers_eq]
  exact List.pairwise_map.mpr h

/-- **Objects are equal** if equal values are found under every name. -/
theorem same_obj_of_lookup (h : NamesIncrease members) (ho : NamesIncrease others)
    (hlookup : ∀ name,
      (members.lookup name).map plainZeros = (others.lookup name).map plainZeros) :
    (obj members).same (obj others) = true := by
  rw [same, sameMembers_iff]
  refine eq_of_lookup h.plainMembers ho.plainMembers fun name => ?_
  rw [lookup_plainMembers, lookup_plainMembers, hlookup]

end Json

end EventLedger
