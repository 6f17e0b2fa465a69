import EventLedger.Proofs.Audit.ScalarSearch

/-!
# Verbatim hits

A search puts letter case aside: it looks for the lower-case form of what is asked for in that of a
record's texts. Where a text holds it letter by letter the search finds it, unless a capital sigma in
it gets another form there, for a sigma is written `ς` or `σ` by what stands around it.

* `Json.Holds`, `Record.Holds`, `Record.HoldsVerbatim`: the texts of a record and their parts;
* `Record.mentions_of_holds`: a text of a record in which something is found;
* **`verbatim_hits_found_iff`**, `sigma_within_word_missed`.
-/

namespace EventLedger

/-! ## The texts of a record -/

/-- A text stands somewhere in a value: it is the value, or it stands in an item or in a member. -/
inductive Json.Holds (t : String) : Json → Prop
  | here : Holds t (.str t)
  | item {items : List Json} {x : Json} : x ∈ items → Holds t x → Holds t (.arr items)
  | member {members : List (String × Json)} {name : String} {x : Json} :
      (name, x) ∈ members → Holds t x → Holds t (.obj members)

/-- A text is the description or the reason of a record, or it stands in a value of its metadata. -/
inductive Record.Holds (r : Record) (t : String) : Prop
  | description : r.description = some t → r.Holds t
  | reason : r.reason = some t → r.Holds t
  | metadata {name : String} {x : Json} : (name, x) ∈ r.metadata → x.Holds t → r.Holds t

/-- Some text of the record has the search text as a part, letter by letter. -/
def Record.HoldsVerbatim (r : Record) (search : String) : Prop :=
  ∃ t, r.Holds t ∧ search.toList <:+: t.toList

variable {t search : String} {r : Record}

theorem Json.Holds.within {j : Json} (h : j.Holds t) : (Json.str t).Within j := by
  induction h with
  | here => exact .here
  | item hx _ ih => exact .item hx ih
  | member hm _ ih => exact .member hm ih

theorem Record.Holds.says (h : r.Holds t) : r.Says t := by
  cases h with
  | description hd => exact .description hd
  | reason hr => exact .reason hr
  | metadata hm hx => exact .scalar (.member hm hx.within) rfl

theorem Record.mentions_of_holds (h : r.Holds t)
    (ht : Text.foundIn (Text.lower search.toList) t = true) : r.mentions search = true :=
  Record.mentions_iff.mpr ⟨t, h.says, Text.occursIn_iff.mp ht⟩

/-! ## Searching -/

theorem Filter.admits_search (f : Filter) (search : String) (r : Record) :
    { f with search := some search }.admits r =
      ({ f with search := none }.admits r && r.mentions search) := by
  simp [Filter.admits]

/-- **A verbatim hit is found** if the sigmas of the search text have their own forms there. -/
theorem Record.mentions_of_keepsSigmas (h : r.Holds t) {a b : List Char}
    (ht : t.toList = a ++ search.toList ++ b)
    (hkeeps : Text.KeepsSigmas a.reverse b search.toList) : r.mentions search = true := by
  refine mentions_of_holds h ?_
  rw [Text.foundIn, ht]
  exact Text.occursIn_lower hkeeps

/-- A record that says one thing. -/
def Record.saying (t : String) : Record :=
  { Record.refund with description := some t, reason := none, metadata := [] }

theorem Record.mentions_saying (t search : String) :
    (Record.saying t).mentions search = Text.foundIn (Text.lower search.toList) t := by
  simp [Record.mentions, Record.saying, Json.membersMention]

/-- **Verbatim hits are found** in every record exactly for the search texts each of whose capital
sigmas has beside it, within the search text, what decides its form; among them are all texts without a
capital sigma. Whatever the search text, a hit is found where its sigmas have the forms that they have
by themselves. -/
theorem verbatim_hits_found_iff (search : String) :
    ((∀ (f : Filter) (r : Record), r.HoldsVerbatim search →
        { f with search := some search }.admits r = { f with search := none }.admits r) ↔
      ∀ u v, search.toList = u ++ 'Σ' :: v → Text.Settled u v) ∧
    ∀ (f : Filter) (r : Record) (t : String) (a b : List Char), r.Holds t →
      t.toList = a ++ search.toList ++ b → Text.KeepsSigmas a.reverse b search.toList →
      { f with search := some search }.admits r = { f with search := none }.admits r := by
  refine ⟨⟨fun h => ?_, fun h f r hr => ?_⟩, fun f r t a b hr ht hkeeps => ?_⟩
  · -- a record that says the hit and what stands around it
    refine Text.occursIn_lower_iff.mp fun a b => ?_
    have hholds : (Record.saying (String.ofList (a ++ search.toList ++ b))).HoldsVerbatim search :=
      ⟨_, .description rfl, a, b, String.toList_ofList.symm⟩
    have hall : ∀ r, { Filter.everything with search := none }.admits r = true := fun _ => rfl
    have hfound := h .everything _ hholds
    rwa [Filter.admits_search, hall, Bool.true_and, Record.mentions_saying, Text.foundIn,
      String.toList_ofList] at hfound
  · obtain ⟨t, ht, a, b, htext⟩ := hr
    have hmentions := Record.mentions_of_keepsSigmas ht htext.symm
      fun u v huv => (h u v huv).wordFinal_eq _ _
    rw [Filter.admits_search, hmentions, Bool.and_true]
  · rw [Filter.admits_search, Record.mentions_of_keepsSigmas hr ht hkeeps, Bool.and_true]

theorem sigma_between_letters_found :
    (∀ u v, "ΟΣΑ".toList = u ++ 'Σ' :: v → Text.Settled u v) ∧
      (Record.saying "ΠΟΣΑ;").HoldsVerbatim "ΟΣΑ" ∧
      { Filter.everything with search := some "ΟΣΑ" }.admits (Record.saying "ΠΟΣΑ;") = true := by
  have hsettled : ∀ u v, "ΟΣΑ".toList = u ++ 'Σ' :: v → Text.Settled u v := by
    rw [show "ΟΣΑ".toList = ['Ο', 'Σ', 'Α'] by rfl]
    simp only [Text.forall_split_cons]
    refine ⟨fun h => absurd h (by decide), fun _ => ⟨?_, ?_⟩, fun h => absurd h (by decide), ?_⟩
    · decide +kernel
    · decide +kernel
    · simp
  have hholds : (Record.saying "ΠΟΣΑ;").HoldsVerbatim "ΟΣΑ" :=
    ⟨"ΠΟΣΑ;", .description rfl, ['Π'], [';'], by decide +kernel⟩
  refine ⟨hsettled, hholds, ?_⟩
  rw [(verbatim_hits_found_iff "ΟΣΑ").1.mpr hsettled .everything _ hholds]
  rfl

/-- The record says `ΑΣΑ` and is not found by `ΑΣ`, whose sigma ends a word; by `ασ` it is found. -/
theorem sigma_within_word_missed :
    (Record.saying "ΑΣΑ").HoldsVerbatim "ΑΣ" ∧
      ({ search := some "ΑΣ" } : Filter).admits (Record.saying "ΑΣΑ") = false ∧
      ({ search := some "ασ" } : Filter).admits (Record.saying "ΑΣΑ") = true ∧
      Filter.everything.admits (Record.saying "ΑΣΑ") = true := by
  refine ⟨⟨"ΑΣΑ", .description rfl, [], ['Α'], by decide +kernel⟩, ?_, ?_, ?_⟩ <;> decide +kernel

end EventLedger
