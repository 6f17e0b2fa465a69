import EventLedger.Text.Integer

/-!
# Texts in front of a delimiter

A writer `write` **ends before** `sep` if whatever it has written can be told apart from what stands
behind the next `sep`. Several such texts in a row with delimiters between them determine all of
their values.

* `EndsBefore`, `EndsBefore.injective`, `EndsBefore.comp`;
* **`EndsBefore.of_not_mem`**: an injective writer that never writes `sep`;
* **`EndsBefore.flatMap`**: character by character, by code words none of which starts another;
* `endsBefore_padded`: decimal numbers;
* `hexDigit?_digitChar`: a hexadecimal digit is read back.
-/

namespace EventLedger.Text

variable {α β : Type} {sep : Char}

/-- What `write` has written in front of `sep` determines its value and what stands behind. -/
def EndsBefore (sep : Char) (write : α → List Char) : Prop :=
  ∀ ⦃a b r s⦄, write a ++ sep :: r = write b ++ sep :: s → a = b ∧ r = s

theorem EndsBefore.injective {write : α → List Char} (h : EndsBefore sep write) {a b : α}
    (hab : write a = write b) : a = b := by
  have h1 : write a ++ [sep] = write b ++ [sep] := by rw [hab]
  exact (h h1).1

theorem EndsBefore.comp {write : α → List Char} (h : EndsBefore sep write) {f : β → α}
    (hf : ∀ a b, f a = f b → a = b) : EndsBefore sep fun b => write (f b) := by
  intro a b r s hab
  obtain ⟨h1, h2⟩ := h hab
  exact ⟨hf a b h1, h2⟩

theorem append_sep_inj {xs ys r s : List Char} (hx : sep ∉ xs) (hy : sep ∉ ys)
    (h : xs ++ sep :: r = ys ++ sep :: s) : xs = ys ∧ r = s := by
  induction xs generalizing ys with
  | nil =>
    cases ys with
    | nil => exact ⟨rfl, (List.cons.inj h).2⟩
    | cons y ys =>
      have h1 : sep = y := (List.cons.inj h).1
      exact absurd List.mem_cons_self (h1 ▸ hy)
  | cons x xs ih =>
    cases ys with
    | nil =>
      have h1 : x = sep := (List.cons.inj h).1
      exact absurd List.mem_cons_self (h1 ▸ hx)
    | cons y ys =>
      obtain ⟨h1, h2⟩ := List.cons.inj h
      obtain ⟨h3, h4⟩ := ih (fun hm => hx (List.mem_cons_of_mem x hm))
        (fun hm => hy (List.mem_cons_of_mem y hm)) h2
      exact ⟨by rw [h1, h3], h4⟩

/-- **An injective writer that never writes the delimiter ends before it.** -/
theorem EndsBefore.of_not_mem {write : α → List Char} (hm : ∀ a, sep ∉ write a)
    (hi : ∀ a b, write a = write b → a = b) : EndsBefore sep write := by
  intro a b r s h
  obtain ⟨h1, h2⟩ := append_sep_inj (hm a) (hm b) h
  exact ⟨hi a b h1, h2⟩

/-- **Code words of which none starts another, and none starts with the delimiter.** -/
theorem EndsBefore.flatMap {code : Char → List Char}
    (hc : ∀ {a b r s}, code a ++ r = code b ++ s → a = b)
    (hs : ∀ {a r s}, code a ++ r ≠ sep :: s) :
    EndsBefore sep fun cs : List Char => cs.flatMap code := by
  intro xs
  induction xs with
  | nil =>
    intro ys r s h
    cases ys with
    | nil => exact ⟨rfl, (List.cons.inj h).2⟩
    | cons y ys =>
      simp only [List.flatMap_nil, List.nil_append, List.flatMap_cons, List.append_assoc] at h
      exact absurd h.symm hs
  | cons x xs ih =>
    intro ys r s h
    cases ys with
    | nil =>
      simp only [List.flatMap_nil, List.nil_append, List.flatMap_cons, List.append_assoc] at h
      exact absurd h hs
    | cons y ys =>
      simp only [List.flatMap_cons, List.append_assoc] at h
      obtain rfl := hc h
      obtain ⟨h1, h2⟩ := ih (List.append_cancel_left h)
      exact ⟨by rw [h1], h2⟩

/-! ## Decimal numbers -/

theorem isDigit_of_mem_padded {width n : Nat} {c : Char} (h : c ∈ (padded width n).toList) :
    c.isDigit = true := by
  simp only [padded, String.toList_ofList, List.mem_append, List.mem_replicate] at h
  rcases h with ⟨-, rfl⟩ | h
  · rfl
  · exact Nat.isDigit_of_mem_toDigits (by decide) (by decide) h

theorem padded_ne_nil (width n : Nat) : (padded width n).toList ≠ [] := by
  simp [padded, Nat.toDigits_ne_nil]

theorem ofDigitChars_replicate_zero (k : Nat) (cs : List Char) :
    Nat.ofDigitChars 10 (List.replicate k '0' ++ cs) 0 = Nat.ofDigitChars 10 cs 0 := by
  induction k with
  | zero => rfl
  | succ k ih => exact ih

theorem ofDigitChars_padded (width n : Nat) :
    Nat.ofDigitChars 10 (padded width n).toList 0 = n := by
  simp only [padded, String.toList_ofList]
  rw [ofDigitChars_replicate_zero, Nat.ofDigitChars_ten_toDigits]

theorem padded_inj {width m n : Nat} (h : (padded width m).toList = (padded width n).toList) :
    m = n := by
  have h1 := congrArg (Nat.ofDigitChars 10 · 0) h
  simpa only [ofDigitChars_padded] using h1

theorem endsBefore_padded (hsep : sep.isDigit = false) (width : Nat) :
    EndsBefore sep fun n => (padded width n).toList := by
  refine EndsBefore.of_not_mem (fun n hm => ?_) fun m n => padded_inj
  rw [isDigit_of_mem_padded hm] at hsep
  exact Bool.noConfusion hsep

/-! ## Hexadecimal digits -/

theorem hexDigit?_digitChar {n : Nat} (h : n < 16) : hexDigit? (Nat.digitChar n) = some n := by
  have h1 : ∀ i : Fin 16, hexDigit? (Nat.digitChar i) = some i.val := by decide
  exact h1 ⟨n, h⟩

end EventLedger.Text
