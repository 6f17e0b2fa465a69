import EventLedger.Json.Printer
import Mathlib.Data.List.Basic

/-!
# Scalars at every depth

The scalars of a value are the texts, numbers and truth values that stand in it, through any nesting of
arrays and objects. A value has another shape if its members have other names, nulls, empty arrays and
empty objects come or go, and what is left stands in another order or nesting. The scalars stay, and they
are all that stays.

* `Json.scalarText?`, `Json.Within`, `Json.scalars`, `mem_scalars_iff`: scalars and where they stand;
* `Json.Reshaped`: values of another shape;
* `Reshaped.scalars_perm`, `reshaped_scalars`, **`reshaped_iff`**: what all shapes of a value have in
  common.
-/

namespace EventLedger.Json

/-! ## Scalars -/

/-- How a text, a number or a truth value is written. No other value is a scalar. -/
def scalarText? : Json → Option String
  | .str s => some s
  | .int n => some (toString n)
  | .float x => some (floatText x)
  | .bool b => some (boolText b)
  | .null | .arr _ | .obj _ => none

/-- A value stands within another one: it is that value, or it stands within an item or a member. -/
inductive Within (x : Json) : Json → Prop
  | here : Within x x
  | item {items : List Json} {y : Json} : y ∈ items → Within x y → Within x (.arr items)
  | member {members : List (String × Json)} {m : String × Json} :
      m ∈ members → Within x m.2 → Within x (.obj members)

mutual

/-- The scalars of a value from front to back. -/
def scalars : Json → List Json
  | .null => []
  | .bool b => [.bool b]
  | .int n => [.int n]
  | .float x => [.float x]
  | .str s => [.str s]
  | .arr items => itemScalars items
  | .obj members => memberScalars members

/-- The scalars of the items of an array. -/
def itemScalars : List Json → List Json
  | [] => []
  | x :: xs => x.scalars ++ itemScalars xs

/-- The scalars of the values of members. -/
def memberScalars : List (String × Json) → List Json
  | [] => []
  | (_, x) :: rest => x.scalars ++ memberScalars rest

end

theorem sizeOf_lt_of_member {m : String × Json} {members : List (String × Json)} (h : m ∈ members) :
    sizeOf m.2 < sizeOf members := by
  have hmember := List.sizeOf_lt_of_mem h
  have hvalue : sizeOf m.2 < sizeOf m := by
    rw [Prod.mk.sizeOf_spec]
    omega
  omega

/-- Induction over the nesting: what holds of the items or of the values of the members holds of the array
or of the object. -/
@[elab_as_elim]
theorem nested_induction {motive : Json → Prop} (null : motive .null) (bool : ∀ b, motive (.bool b))
    (int : ∀ n, motive (.int n)) (float : ∀ x, motive (.float x)) (str : ∀ s, motive (.str s))
    (arr : ∀ items, (∀ x ∈ items, motive x) → motive (.arr items))
    (obj : ∀ members, (∀ m ∈ members, motive m.2) → motive (.obj members)) (j : Json) : motive j :=
  match j with
  | .null => null
  | .bool b => bool b
  | .int n => int n
  | .float x => float x
  | .str s => str s
  | .arr items => arr items fun x hx =>
    have := List.sizeOf_lt_of_mem hx
    nested_induction null bool int float str arr obj x
  | .obj members => obj members fun m hm =>
    have := sizeOf_lt_of_member hm
    nested_induction null bool int float str arr obj m.2

theorem itemScalars_eq (items : List Json) : itemScalars items = items.flatMap scalars := by
  induction items with
  | nil => rfl
  | cons x xs ih => rw [itemScalars, ih, List.flatMap_cons]

theorem memberScalars_eq (members : List (String × Json)) :
    memberScalars members = members.flatMap fun m => m.2.scalars := by
  induction members with
  | nil => rfl
  | cons m ms ih => rw [memberScalars, ih, List.flatMap_cons]

variable {x y : Json} {t : String}

/-- **The scalars of a value** are those that stand within it. -/
theorem mem_scalars_iff {j : Json} : x ∈ j.scalars ↔ x.Within j ∧ ∃ t, x.scalarText? = some t := by
  constructor
  · induction j using nested_induction with
    | null => exact fun h => absurd h List.not_mem_nil
    | bool | int | float | str =>
      intro h
      rw [scalars, List.mem_singleton] at h
      rw [h]
      exact ⟨.here, _, rfl⟩
    | arr items ih =>
      rw [scalars, itemScalars_eq, List.mem_flatMap]
      rintro ⟨y, hy, hx⟩
      obtain ⟨hwithin, htext⟩ := ih y hy hx
      exact ⟨.item hy hwithin, htext⟩
    | obj members ih =>
      rw [scalars, memberScalars_eq, List.mem_flatMap]
      rintro ⟨m, hm, hx⟩
      obtain ⟨hwithin, htext⟩ := ih m hm hx
      exact ⟨.member hm hwithin, htext⟩
  · rintro ⟨hwithin, t, ht⟩
    induction hwithin with
    | here =>
      cases x with
      | null | arr | obj => cases ht
      | bool | int | float | str => exact List.mem_singleton_self _
    | item hy _ ih =>
      rw [scalars, itemScalars_eq, List.mem_flatMap]
      exact ⟨_, hy, ih⟩
    | member hm _ ih =>
      rw [scalars, memberScalars_eq, List.mem_flatMap]
      exact ⟨_, hm, ih⟩

/-! ## Shapes -/

/-- A null, an empty array or an empty object. -/
inductive Vacant : Json → Prop
  | null : Vacant .null
  | items : Vacant (.arr [])
  | members : Vacant (.obj [])

/-- A value of another shape, which differs from the first one by changes at any depth. -/
inductive Reshaped : Json → Json → Prop
  | refl (x : Json) : Reshaped x x
  | symm {x y : Json} : Reshaped x y → Reshaped y x
  | trans {x y z : Json} : Reshaped x y → Reshaped y z → Reshaped x z
  /-- An item of an array changes. -/
  | item {x y : Json} (xs : List Json) : Reshaped x y → Reshaped (.arr (x :: xs)) (.arr (y :: xs))
  /-- A member of an object changes and may get another name. -/
  | member {x y : Json} (k l : String) (ms : List (String × Json)) :
      Reshaped x y → Reshaped (.obj ((k, x) :: ms)) (.obj ((l, y) :: ms))
  /-- A null, an empty array or an empty object is left out. -/
  | fewerItems {x : Json} (xs : List Json) : Vacant x → Reshaped (.arr (x :: xs)) (.arr xs)
  | fewerMembers {x : Json} (k : String) (ms : List (String × Json)) :
      Vacant x → Reshaped (.obj ((k, x) :: ms)) (.obj ms)
  /-- Items or members change places. -/
  | itemsMoved {xs ys : List Json} : xs.Perm ys → Reshaped (.arr xs) (.arr ys)
  | membersMoved {ms ns : List (String × Json)} : ms.Perm ns → Reshaped (.obj ms) (.obj ns)
  /-- An array of one item is dissolved, and an array within an array. -/
  | single (x : Json) : Reshaped (.arr [x]) x
  | spread (xs ys : List Json) : Reshaped (.arr (.arr xs :: ys)) (.arr (xs ++ ys))
  /-- An object becomes an array. -/
  | unnamed (ms : List (String × Json)) : Reshaped (.obj ms) (.arr (ms.map (·.2)))

theorem Reshaped.scalars_perm (h : Reshaped x y) : x.scalars.Perm y.scalars := by
  induction h with
  | refl => exact .refl _
  | symm _ ih => exact ih.symm
  | trans _ _ ih1 ih2 => exact ih1.trans ih2
  | item xs _ ih => exact ih.append_right _
  | member k l ms _ ih => exact ih.append_right _
  | fewerItems xs hx => cases hx <;> exact .refl _
  | fewerMembers k ms hx => cases hx <;> exact .refl _
  | itemsMoved hperm =>
    rw [scalars, scalars, itemScalars_eq, itemScalars_eq]
    exact hperm.flatMap_right _
  | membersMoved hperm =>
    rw [scalars, scalars, memberScalars_eq, memberScalars_eq]
    exact hperm.flatMap_right _
  | single x =>
    rw [scalars, itemScalars, itemScalars, List.append_nil]
  | spread xs ys =>
    rw [scalars, itemScalars, scalars, scalars, itemScalars_eq, itemScalars_eq, itemScalars_eq,
      List.flatMap_append]
  | unnamed ms =>
    rw [scalars, scalars, memberScalars_eq, itemScalars_eq, List.flatMap_map]

instance : Trans Reshaped Reshaped Reshaped := ⟨.trans⟩

theorem Reshaped.append (zs : List Json) {xs ys : List Json} (h : Reshaped (.arr xs) (.arr ys)) :
    Reshaped (.arr (zs ++ xs)) (.arr (zs ++ ys)) :=
  calc Reshaped (.arr (zs ++ xs)) (.arr (xs ++ zs)) := .itemsMoved List.perm_append_comm
    Reshaped _ (.arr (.arr xs :: zs)) := (spread xs zs).symm
    Reshaped _ (.arr (.arr ys :: zs)) := h.item zs
    Reshaped _ (.arr (ys ++ zs)) := .spread ys zs
    Reshaped _ (.arr (zs ++ ys)) := .itemsMoved List.perm_append_comm

theorem reshaped_items {items : List Json} (h : ∀ x ∈ items, Reshaped x (.arr x.scalars)) :
    Reshaped (.arr items) (.arr (itemScalars items)) := by
  induction items with
  | nil => exact .refl _
  | cons x xs ih =>
    obtain ⟨hx, hxs⟩ := List.forall_mem_cons.mp h
    calc Reshaped (.arr (x :: xs)) (.arr (.arr x.scalars :: xs)) := hx.item xs
      Reshaped _ (.arr (x.scalars ++ xs)) := .spread _ _
      Reshaped _ (.arr (x.scalars ++ itemScalars xs)) := (ih hxs).append _

theorem reshaped_scalars (j : Json) : Reshaped j (.arr j.scalars) := by
  induction j using nested_induction with
  | null =>
    calc Reshaped .null (.arr [.null]) := (Reshaped.single _).symm
      Reshaped _ (.arr []) := .fewerItems [] .null
  | bool | int | float | str => exact (Reshaped.single _).symm
  | arr items ih => exact reshaped_items ih
  | obj members ih =>
    have hvalues : ∀ x ∈ members.map (·.2), Reshaped x (.arr x.scalars) := List.forall_mem_map.mpr ih
    have hscalars : itemScalars (members.map (·.2)) = memberScalars members := by
      rw [itemScalars_eq, memberScalars_eq, List.flatMap_map]
    calc Reshaped (.obj members) (.arr (members.map (·.2))) := .unnamed members
      Reshaped _ (.arr (itemScalars (members.map (·.2)))) := reshaped_items hvalues
      Reshaped _ (.arr (memberScalars members)) := hscalars ▸ .refl _

/-- **Two values are shapes of one another** exactly if they have the same scalars. -/
theorem reshaped_iff : Reshaped x y ↔ x.scalars.Perm y.scalars := by
  refine ⟨Reshaped.scalars_perm, fun h => ?_⟩
  calc Reshaped x (.arr x.scalars) := reshaped_scalars x
    Reshaped _ (.arr y.scalars) := .itemsMoved h
    Reshaped _ y := (reshaped_scalars y).symm

end EventLedger.Json
