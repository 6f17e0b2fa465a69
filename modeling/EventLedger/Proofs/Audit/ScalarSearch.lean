import EventLedger.Audit.Filter
import EventLedger.Proofs.Audit.TamperEvidence
import EventLedger.Proofs.Json.Scalars
import EventLedger.Proofs.Text.Lowercase

/-!
# Searching scalars

A search looks for the lower-case form of a text in that of the description, of the reason and of every
scalar in the metadata, however deep it stands there. Names, nesting and order do not matter to it, and no
other part of the record does.

* `Json.mentions_eq`: the search in a value is one in its scalars;
* `Record.Says`, **`Record.mentions_iff`**: what a record says, and what is found in it;
* `Record.Says.of_reshaped`: metadata of another shape says the same;
* **`search_sees_scalars_only`**.
-/

namespace EventLedger

/-! ## Values -/

theorem Json.itemsMention_eq (needle : List Char) (items : List Json) :
    Json.itemsMention needle items = items.any (Json.mentions needle) := by
  induction items with
  | nil => rfl
  | cons x xs ih => rw [Json.itemsMention, List.any_cons, ih]

theorem Json.membersMention_eq (needle : List Char) (members : List (String × Json)) :
    Json.membersMention needle members = members.any (Json.mentions needle ·.2) := by
  induction members with
  | nil => rfl
  | cons m ms ih => rw [Json.membersMention, List.any_cons, ih]

theorem any_congr_of_mem {α : Type} {xs : List α} {p q : α → Bool} (h : ∀ x ∈ xs, p x = q x) :
    xs.any p = xs.any q := by
  rw [Bool.eq_iff_iff, List.any_eq_true, List.any_eq_true]
  exact exists_congr fun x => and_congr_right fun hx => by rw [h x hx]

theorem Text.foundIn_boolText (needle : List Char) (b : Bool) :
    foundIn needle (Json.boolText b) = occursIn needle (Json.boolText b).toList := by
  cases b <;> rfl

theorem Json.mentions_eq (needle : List Char) (j : Json) :
    j.mentions needle = j.scalars.any fun x => x.scalarText?.any (Text.foundIn needle) := by
  induction j using Json.nested_induction with
  | null => rfl
  | bool b => simp [Json.mentions, Json.scalars, Json.scalarText?, Text.foundIn_boolText]
  | int | float | str => simp [Json.mentions, Json.scalars, Json.scalarText?]
  | arr items ih =>
    rw [Json.mentions, Json.itemsMention_eq, Json.scalars, Json.itemScalars_eq, List.any_flatMap]
    exact any_congr_of_mem ih
  | obj members ih =>
    rw [Json.mentions, Json.membersMention_eq, Json.scalars, Json.memberScalars_eq, List.any_flatMap]
    exact any_congr_of_mem ih

/-! ## Records -/

/-- A record says its description, its reason and the scalars in its metadata. -/
inductive Record.Says (r : Record) (t : String) : Prop
  | description : r.description = some t → r.Says t
  | reason : r.reason = some t → r.Says t
  | scalar {x : Json} : x.Within (.obj r.metadata) → x.scalarText? = some t → r.Says t

variable {r r' : Record} {search : String}

theorem Record.membersMention_iff (needle : List Char) :
    Json.membersMention needle r.metadata = true ↔
      ∃ t, (∃ x : Json, x.Within (.obj r.metadata) ∧ x.scalarText? = some t) ∧
        Text.foundIn needle t = true := by
  have hscalars := Json.mentions_eq needle (.obj r.metadata)
  rw [Json.mentions] at hscalars
  rw [hscalars, List.any_eq_true]
  constructor
  · rintro ⟨x, hx, hfound⟩
    obtain ⟨t, ht, hfound⟩ := (Option.any_eq_true _ _).mp hfound
    exact ⟨t, ⟨x, (Json.mem_scalars_iff.mp hx).1, ht⟩, hfound⟩
  · rintro ⟨t, ⟨x, hx, ht⟩, hfound⟩
    refine ⟨x, Json.mem_scalars_iff.mpr ⟨hx, t, ht⟩, ?_⟩
    exact (Option.any_eq_true _ _).mpr ⟨t, ht, hfound⟩

/-- **Something is found in a record** exactly if it is found in a text that the record says. -/
theorem Record.mentions_iff :
    r.mentions search = true ↔
      ∃ t, r.Says t ∧ Text.lower search.toList <:+: Text.lower t.toList := by
  have hmentions : r.mentions search = true ↔
      ∃ t, r.Says t ∧ Text.foundIn (Text.lower search.toList) t = true := by
    simp only [Record.mentions, Bool.or_eq_true, Option.any_eq_true, Record.membersMention_iff]
    constructor
    · rintro ((⟨t, ht, hfound⟩ | ⟨t, ht, hfound⟩) | ⟨t, ⟨x, hx, ht⟩, hfound⟩)
      · exact ⟨t, .description ht, hfound⟩
      · exact ⟨t, .reason ht, hfound⟩
      · exact ⟨t, .scalar hx ht, hfound⟩
    · rintro ⟨t, ht | ht | ⟨hx, ht⟩, hfound⟩
      · exact .inl (.inl ⟨t, ht, hfound⟩)
      · exact .inl (.inr ⟨t, ht, hfound⟩)
      · exact .inr ⟨t, ⟨_, hx, ht⟩, hfound⟩
  rw [hmentions]
  exact exists_congr fun t => and_congr_right fun _ => Text.occursIn_iff

theorem Record.Says.of_reshaped (hdescription : r.description = r'.description)
    (hreason : r.reason = r'.reason) (h : (Json.obj r.metadata).Reshaped (.obj r'.metadata))
    {t : String} (ht : r.Says t) : r'.Says t := by
  cases ht with
  | description ht => exact .description (hdescription ▸ ht)
  | reason ht => exact .reason (hreason ▸ ht)
  | scalar hx ht =>
    have hmem := h.scalars_perm.mem_iff.mp (Json.mem_scalars_iff.mpr ⟨hx, _, ht⟩)
    exact .scalar (Json.mem_scalars_iff.mp hmem).1 ht

theorem Record.mentions_of_reshaped (hdescription : r.description = r'.description)
    (hreason : r.reason = r'.reason) (h : (Json.obj r.metadata).Reshaped (.obj r'.metadata)) :
    r.mentions search = r'.mentions search := by
  rw [Bool.eq_iff_iff, Record.mentions_iff, Record.mentions_iff]
  constructor
  · rintro ⟨t, ht, hfound⟩
    exact ⟨t, ht.of_reshaped hdescription hreason h, hfound⟩
  · rintro ⟨t, ht, hfound⟩
    exact ⟨t, ht.of_reshaped hdescription.symm hreason.symm h.symm, hfound⟩

/-- **A search sees scalars only**, at every depth. A record is found exactly if its description, its
reason or some scalar in its metadata holds the search text, both in lower case. So a record is found as
well as any other one with this description and this reason whose metadata have another shape; and the
shapes of a value are all values that have the same scalars. -/
theorem search_sees_scalars_only (search : String) :
    (∀ r : Record, r.mentions search = true ↔
      ∃ t, r.Says t ∧ Text.lower search.toList <:+: Text.lower t.toList) ∧
    (∀ r r' : Record, r.description = r'.description → r.reason = r'.reason →
      (Json.obj r.metadata).Reshaped (.obj r'.metadata) → r.mentions search = r'.mentions search) ∧
    ∀ x y : Json, x.Reshaped y ↔ x.scalars.Perm y.scalars :=
  ⟨fun _ => Record.mentions_iff,
    fun _ _ hdescription hreason => Record.mentions_of_reshaped hdescription hreason,
    fun _ _ => Json.reshaped_iff⟩

theorem late_note_found_in_both :
    let r : Record := { Record.refund with
      metadata := [("ticket", .obj [("notes", .arr [.str "Late", .null]), ("number", .int 7)])] }
    let r' : Record := { Record.refund with
      action := "reversed"
      metadata := [("case", .int 7), ("remarks", .arr [.arr [.str "Late"], .obj []])] }
    (Json.obj r.metadata).Reshaped (.obj r'.metadata) ∧ r.mentions "LATE" = r'.mentions "LATE" ∧
      r.mentions "LATE" = true ∧ r.mentions "ticket" = false := by
  intro r r'
  obtain ⟨hmentions, hshape, hshapes⟩ := search_sees_scalars_only "LATE"
  have hreshaped : (Json.obj r.metadata).Reshaped (.obj r'.metadata) :=
    (hshapes _ _).mpr (List.Perm.swap (Json.int 7) (Json.str "Late") [])
  have hsays : r.Says "Late" :=
    .scalar (.member List.mem_cons_self (.member List.mem_cons_self (.item List.mem_cons_self .here))) rfl
  refine ⟨hreshaped, hshape r r' rfl rfl hreshaped, ?_, by decide +kernel⟩
  exact (hmentions r).mpr ⟨"Late", hsays, by decide⟩

end EventLedger
