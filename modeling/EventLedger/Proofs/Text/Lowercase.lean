import EventLedger.Text.Lowercase

/-!
# Lower case of a part of a text

The lower-case form of a text is put together from those of its characters, and only a capital sigma
looks at what stands around it. So a part of a text has the same form in the text as by itself, unless
one of its sigmas looks beyond the part.

* `occursIn_iff`: parts of a text;
* `lowerAmid`, `lowerAmid_append`, `lower_part`: the form of a part within a text;
* `lowerAmid_eq_lower_iff`: when it is the form of the part by itself;
* `Settled`, `Settled.wordFinal_eq`: a sigma that does not look beyond the part;
* `keepsSigmas_behind`, `keepsSigmas_before`: an alpha beside a part;
* **`occursIn_lower`**, **`occursIn_lower_iff`**: a part of a text is found in it.
-/

namespace EventLedger.Text

theorem occursIn_iff {needle cs : List Char} : occursIn needle cs = true ↔ needle <:+: cs := by
  induction cs with
  | nil => simp [occursIn]
  | cons c cs ih =>
    rw [occursIn, Bool.or_eq_true, ih, List.isPrefixOf_iff_prefix, List.infix_cons_iff]

/-! ## The form of a part -/

/-- The lower-case form of a part of a text, the characters of `before`, reversed, standing in front of
it and those of `after` behind it. -/
def lowerAmid (before after : List Char) : List Char → List Char
  | [] => []
  | c :: cs =>
    (if c = 'Σ' then [if wordFinal before (cs ++ after) then 'ς' else 'σ'] else lowerChar c) ++
      lowerAmid (c :: before) after cs

variable {before after cs ds u v w : List Char}

theorem lowerFrom_eq (before cs : List Char) : lowerFrom before cs = lowerAmid before [] cs := by
  induction cs generalizing before with
  | nil => rfl
  | cons c cs ih => rw [lowerFrom, lowerAmid, ih, List.append_nil]

theorem lower_eq (cs : List Char) : lower cs = lowerAmid [] [] cs := lowerFrom_eq [] cs

theorem lowerAmid_append (before after cs ds : List Char) :
    lowerAmid before after (cs ++ ds) =
      lowerAmid before (ds ++ after) cs ++ lowerAmid (cs.reverse ++ before) after ds := by
  induction cs generalizing before with
  | nil => rfl
  | cons c cs ih =>
    simp only [List.cons_append, lowerAmid, ih, List.append_assoc, List.reverse_cons, List.nil_append]

theorem lower_part (a n b : List Char) :
    lower (a ++ n ++ b) =
      lowerAmid [] (n ++ b) a ++ lowerAmid a.reverse b n ++ lowerAmid (n.reverse ++ a.reverse) [] b := by
  rw [lower_eq, List.append_assoc, lowerAmid_append, lowerAmid_append]
  simp only [List.append_nil, List.append_assoc]

theorem length_lowerAmid (before after before' after' cs : List Char) :
    (lowerAmid before after cs).length = (lowerAmid before' after' cs).length := by
  induction cs generalizing before before' with
  | nil => rfl
  | cons c cs ih =>
    rw [lowerAmid, lowerAmid, List.length_append, List.length_append, ih _ (c :: before')]
    split <;> rfl

theorem sigma_inj {p q : Bool} :
    ((if p then 'ς' else 'σ') = if q then 'ς' else 'σ') ↔ p = q := by
  cases p <;> cases q <;> decide

theorem forall_split_cons {P : List Char → List Char → Prop} {c d : Char} :
    (∀ u v, c :: cs = u ++ d :: v → P u v) ↔
      (c = d → P [] cs) ∧ ∀ u v, cs = u ++ d :: v → P (c :: u) v := by
  constructor
  · intro h
    refine ⟨fun hc => h [] cs (by rw [hc, List.nil_append]), fun u v huv => h (c :: u) v ?_⟩
    rw [huv, List.cons_append]
  · rintro ⟨hnil, hcons⟩ u v huv
    cases u with
    | nil =>
      obtain ⟨hc, rfl⟩ := List.cons.inj huv
      exact hnil hc
    | cons x u =>
      obtain ⟨rfl, hcs⟩ := List.cons.inj huv
      exact hcons u v hcs

/-- Between `before` and `after` every sigma of `cs` has the form that it has without them. -/
def KeepsSigmas (before after cs : List Char) : Prop :=
  ∀ u v, cs = u ++ 'Σ' :: v → wordFinal (u.reverse ++ before) (v ++ after) = wordFinal u.reverse v

theorem lowerAmid_append_eq_iff (before after cs w : List Char) :
    lowerAmid (w ++ before) after cs = lowerAmid w [] cs ↔
      ∀ u v, cs = u ++ 'Σ' :: v →
        wordFinal (u.reverse ++ (w ++ before)) (v ++ after) = wordFinal (u.reverse ++ w) v := by
  -- the induction goes through the part from its front; what is passed stands reversed in `w`
  induction cs generalizing w with
  | nil => simp [lowerAmid]
  | cons c cs ih =>
    have hrest := ih (c :: w)
    simp only [List.cons_append] at hrest
    simp only [forall_split_cons, List.reverse_cons, List.append_assoc, List.cons_append,
      List.nil_append, List.reverse_nil, ← hrest, lowerAmid, List.append_nil]
    by_cases hc : c = 'Σ'
    · simp only [hc, if_true, List.cons_append, List.nil_append, List.cons.injEq, sigma_inj,
        forall_const]
    · simp only [hc, if_false, List.append_cancel_left_eq, false_implies, true_and]

/-- **A part has its own form in a text** exactly where its sigmas have theirs. -/
theorem lowerAmid_eq_lower_iff : lowerAmid before after cs = lower cs ↔ KeepsSigmas before after cs := by
  have h := lowerAmid_append_eq_iff before after cs []
  simpa only [KeepsSigmas, lower_eq, List.nil_append, List.append_nil] using h

/-- **A part whose sigmas keep their forms is found** in the lower-case text. -/
theorem occursIn_lower {a n b : List Char} (h : KeepsSigmas a.reverse b n) :
    occursIn (lower n) (lower (a ++ n ++ b)) = true := by
  rw [occursIn_iff, lower_part, lowerAmid_eq_lower_iff.mpr h]
  exact List.infix_append _ _ _

/-! ## Sigmas that do not look beyond a part -/

/-- Marks and signs alone, which say nothing about the end of a word. -/
def ignorable (cs : List Char) : Bool := cs.all fun c => inRanges caseIgnorableRanges c.toNat

theorem ignorable_reverse (cs : List Char) : ignorable cs.reverse = ignorable cs := List.all_reverse

theorem reachesCased_append (cs ds : List Char) :
    reachesCased (cs ++ ds) = if ignorable cs then reachesCased ds else reachesCased cs := by
  induction cs with
  | nil => rfl
  | cons c cs ih =>
    simp only [List.cons_append, reachesCased, ignorable, List.all_cons] at ih ⊢
    split <;> simp_all

theorem reachesCased_of_ignorable (h : ignorable cs = true) : reachesCased cs = false := by
  have hnil := reachesCased_append cs []
  rwa [List.append_nil, if_pos h] at hnil

/-- A sigma between `u` and `v` finds there what decides its form, whatever stands around them: a letter
with case behind it, or none in front of it, or something on both sides that is no mark. -/
structure Settled (u v : List Char) : Prop where
  front : ignorable u = true → reachesCased v = true
  behind : ignorable v = true → reachesCased u.reverse = false

theorem Settled.wordFinal_eq (h : Settled u v) (before after : List Char) :
    wordFinal (u.reverse ++ before) (v ++ after) = wordFinal u.reverse v := by
  unfold wordFinal
  rw [reachesCased_append, reachesCased_append, ignorable_reverse]
  cases hu : ignorable u with
  | true =>
    cases hv : ignorable v with
    | true => cases (reachesCased_of_ignorable hv).symm.trans (h.front hu)
    | false => simp [h.front hu]
  | false =>
    cases hv : ignorable v with
    | true => simp [h.behind hv]
    | false => rfl

theorem front_of_wordFinal_eq {letter : Char} (hl : reachesCased [letter] = true)
    (h : wordFinal (u.reverse ++ [letter]) (v ++ []) = wordFinal u.reverse v)
    (hu : ignorable u = true) : reachesCased v = true := by
  have hu' : ignorable u.reverse = true := by rw [ignorable_reverse, hu]
  simpa [wordFinal, reachesCased_append, hu', hl, reachesCased_of_ignorable hu'] using h

theorem behind_of_wordFinal_eq {letter : Char} (hl : reachesCased [letter] = true)
    (h : wordFinal (u.reverse ++ []) (v ++ [letter]) = wordFinal u.reverse v)
    (hv : ignorable v = true) : reachesCased u.reverse = false := by
  simpa [wordFinal, reachesCased_append, hv, hl, reachesCased_of_ignorable hv] using h

/-! ## A letter that no mark becomes -/

theorem eq_of_add_shift {r : CaseRun} (hr : r ∈ lowerRuns) {n : Nat} (hn : r.holds n = true)
    (h : ((n : Int) + r.shift).toNat = 945) : n = 913 := by
  have hruns : ∀ r ∈ lowerRuns, r.holds (945 - r.shift).toNat = true →
      (945 - r.shift).toNat = 913 := by decide +kernel
  have hback : (945 - r.shift).toNat = n := by omega
  rw [← hback] at hn ⊢
  exact hruns r hr hn

theorem code_of_alpha {n : Nat} (h : 'α' = Char.ofNat n) : n = 945 := by
  have hcode : 945 = (Char.ofNat n).toNat := congrArg Char.toNat h
  by_cases hvalid : n.isValidChar
  · rw [Char.ofNat, dif_pos hvalid] at hcode
    exact hcode.symm
  · rw [Char.ofNat, dif_neg hvalid] at hcode
    cases hcode

theorem alpha_not_mem_lowerChar {c : Char} (h : inRanges caseIgnorableRanges c.toNat = true) :
    'α' ∉ lowerChar c := by
  have hcapital : c.toNat ≠ 913 := by
    intro hc
    rw [hc] at h
    exact absurd h (by decide +kernel)
  have hsmall : c ≠ 'α' := by
    rintro rfl
    exact absurd h (by decide +kernel)
  unfold lowerChar
  dsimp only
  split
  · rw [List.mem_singleton]
    split
    · intro ha
      have hn := code_of_alpha ha
      omega
    · exact hsmall.symm
  · split
    · decide
    · split <;> rw [List.mem_singleton]
      · next r hr =>
        intro ha
        have hholds : r.holds c.toNat = true := by simpa using List.find?_some hr
        exact hcapital (eq_of_add_shift (List.mem_of_find?_eq_some hr) hholds (code_of_alpha ha))
      · exact hsmall.symm

theorem alpha_not_mem_lowerAmid (before after : List Char)
    (h : ∀ c ∈ cs, c = 'Σ' ∨ inRanges caseIgnorableRanges c.toNat = true) :
    'α' ∉ lowerAmid before after cs := by
  induction cs generalizing before with
  | nil => exact List.not_mem_nil
  | cons c cs ih =>
    rw [lowerAmid, List.mem_append, not_or]
    refine ⟨?_, ih _ fun d hd => h d (List.mem_cons_of_mem c hd)⟩
    split
    · split <;> decide
    · next hc => exact alpha_not_mem_lowerChar ((h c List.mem_cons_self).resolve_left hc)

theorem lowerAmid_ne_nil (before after : List Char) (h : 'Σ' ∈ cs) :
    lowerAmid before after cs ≠ [] := by
  obtain ⟨u, v, rfl⟩ := List.append_of_mem h
  simp [lowerAmid_append, lowerAmid]

theorem head?_lower_ne (hu : ignorable u = true) : (lower (u ++ 'Σ' :: v)).head? ≠ some 'α' := by
  have hmarks : ∀ c ∈ u ++ ['Σ'], c = 'Σ' ∨ inRanges caseIgnorableRanges c.toNat = true := by
    intro c hc
    obtain hc | hc := List.mem_append.mp hc
    · exact .inr (List.all_eq_true.mp hu c hc)
    · exact .inl (List.mem_singleton.mp hc)
  rw [List.append_cons, lower_eq, lowerAmid_append, List.head?_append,
    List.head?_eq_some_head (lowerAmid_ne_nil _ _ (by simp)), Option.some_or]
  intro h
  exact alpha_not_mem_lowerAmid _ _ hmarks (Option.some.inj h ▸ List.head_mem _)

theorem getLast?_lower_ne (hv : ignorable v = true) :
    (lower (u ++ 'Σ' :: v)).getLast? ≠ some 'α' := by
  have hmarks : ∀ c ∈ 'Σ' :: v, c = 'Σ' ∨ inRanges caseIgnorableRanges c.toNat = true := by
    intro c hc
    obtain hc | hc := List.mem_cons.mp hc
    · exact .inl hc
    · exact .inr (List.all_eq_true.mp hv c hc)
  rw [lower_eq, lowerAmid_append, List.getLast?_append,
    List.getLast?_eq_some_getLast (lowerAmid_ne_nil _ _ (by simp)), Option.some_or]
  intro h
  exact alpha_not_mem_lowerAmid _ _ hmarks (Option.some.inj h ▸ List.getLast_mem _)

theorem length_lower (before after cs : List Char) :
    (lower cs).length = (lowerAmid before after cs).length := by
  rw [lower_eq, length_lowerAmid]

theorem keepsSigmas_behind (hu : ignorable u = true)
    (h : occursIn (lower (u ++ 'Σ' :: v)) (lower ('Α' :: (u ++ 'Σ' :: v))) = true) :
    KeepsSigmas ['Α'] [] (u ++ 'Σ' :: v) := by
  have hletter : lower ('Α' :: (u ++ 'Σ' :: v)) = 'α' :: lowerAmid ['Α'] [] (u ++ 'Σ' :: v) := by
    rw [lower_eq, lowerAmid, if_neg (by decide)]
    rfl
  rw [occursIn_iff, hletter, List.infix_cons_iff, List.prefix_cons_iff] at h
  obtain (hnil | ⟨t, ht, -⟩) | hpart := h
  · exact absurd (lower_eq _ ▸ hnil) (lowerAmid_ne_nil _ _ (by simp))
  · exact absurd (by rw [ht, List.head?_cons]) (head?_lower_ne (v := v) hu)
  · exact lowerAmid_eq_lower_iff.mp (hpart.eq_of_length (length_lower _ _ _)).symm

theorem keepsSigmas_before (hv : ignorable v = true)
    (h : occursIn (lower (u ++ 'Σ' :: v)) (lower (u ++ 'Σ' :: v ++ ['Α'])) = true) :
    KeepsSigmas [] ['Α'] (u ++ 'Σ' :: v) := by
  have hletter : lower (u ++ 'Σ' :: v ++ ['Α']) = lowerAmid [] ['Α'] (u ++ 'Σ' :: v) ++ ['α'] := by
    rw [lower_eq, lowerAmid_append, lowerAmid, if_neg (by decide)]
    rfl
  rw [occursIn_iff, hletter, List.infix_concat_iff, List.suffix_concat_iff] at h
  obtain (hnil | ⟨t, ht, -⟩) | hpart := h
  · exact absurd (lower_eq _ ▸ hnil) (lowerAmid_ne_nil _ _ (by simp))
  · exact absurd (by rw [ht, List.getLast?_concat]) (getLast?_lower_ne (u := u) hv)
  · exact lowerAmid_eq_lower_iff.mp (hpart.eq_of_length (length_lower _ _ _)).symm

/-- **A part is found in every text around it** exactly if each of its sigmas is settled. -/
theorem occursIn_lower_iff {n : List Char} :
    (∀ a b, occursIn (lower n) (lower (a ++ n ++ b)) = true) ↔
      ∀ u v, n = u ++ 'Σ' :: v → Settled u v := by
  constructor
  · rintro h u v rfl
    have hcased : reachesCased ['Α'] = true := by decide +kernel
    refine ⟨fun hu => ?_, fun hv => ?_⟩
    · have hfound := h ['Α'] []
      rw [List.append_nil] at hfound
      exact front_of_wordFinal_eq hcased (keepsSigmas_behind hu hfound u v rfl) hu
    · exact behind_of_wordFinal_eq hcased (keepsSigmas_before hv (h [] ['Α']) u v rfl) hv
  · intro h a b
    exact occursIn_lower fun u v hn => (h u v hn).wordFinal_eq _ _

end EventLedger.Text
