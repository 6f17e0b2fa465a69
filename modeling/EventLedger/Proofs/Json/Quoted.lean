import EventLedger.Json.Printer
import EventLedger.Json.Reader
import EventLedger.Proofs.Text.Delimited

/-!
# Quoted texts

A text in quotes is read back, so it determines the text and ends before its closing quote.

* `readCharacters_escapeChar`: one character with its escape is read back;
* **`readString_quote`**: a text is read back from its quoted form, whatever follows;
* `endsBefore_escapeChar`: the escaped text ends before a quote;
* **`compact_texts_inj`**: an object of two texts determines them.
-/

namespace EventLedger.Json

open Text (EndsBefore)

/-! ## Reading back -/

theorem readCodePoint_controlEscape {n : Nat} (h : n < 0x20) (tail : List Char) :
    readCodePoint ('0' :: '0' :: Nat.digitChar (n / 16) :: Nat.digitChar (n % 16) :: tail) =
      some (Char.ofNat n, tail) := by
  have h0 : Text.hexDigit? '0' = some 0 := by decide
  have h1 := Text.hexDigit?_digitChar (n := n / 16) (by omega)
  have h2 := Text.hexDigit?_digitChar (n := n % 16) (by omega)
  have h3 : ((0 * 16 + 0) * 16 + n / 16) * 16 + n % 16 = n := by omega
  have h4 : ¬ (0xD800 ≤ n ∧ n < 0xDC00) := by omega
  have h5 : ¬ (0xDC00 ≤ n ∧ n < 0xE000) := by omega
  simp only [readCodePoint, readUnit, h0, h1, h2, h3, Option.bind_eq_bind, Option.bind_some,
    if_neg h4, if_neg h5]

theorem readCharacters_simpleEscape {e c : Char} (he : simpleEscape? e = some c) (hu : e ≠ 'u')
    (fuel : Nat) (tail : List Char) :
    readCharacters (fuel + 1) ('\\' :: e :: tail) =
      (readCharacters fuel tail).map fun r => (c :: r.1, r.2) := by
  have h1 : ¬ ('\\' : Char) = '"' := by decide
  have h2 : ¬ ('\\' : Char).toNat < 0x20 := by decide
  rw [readCharacters, if_neg h1, if_neg h2]
  cases hr : readCharacters fuel tail <;> simp [he, hr]

theorem readCharacters_escapeChar (fuel : Nat) (c : Char) (tail : List Char) :
    readCharacters (fuel + 1) (escapeChar c ++ tail) =
      (readCharacters fuel tail).map fun r => (c :: r.1, r.2) := by
  have hc : Char.ofNat c.toNat = c := Char.ofNat_toNat c
  unfold escapeChar
  split
  · next h => subst h; exact readCharacters_simpleEscape rfl (by decide) fuel tail
  split
  · next h => subst h; exact readCharacters_simpleEscape rfl (by decide) fuel tail
  split
  · next h => rw [h] at hc; exact readCharacters_simpleEscape (hc ▸ rfl) (by decide) fuel tail
  split
  · next h => rw [h] at hc; exact readCharacters_simpleEscape (hc ▸ rfl) (by decide) fuel tail
  split
  · next h => rw [h] at hc; exact readCharacters_simpleEscape (hc ▸ rfl) (by decide) fuel tail
  split
  · next h => rw [h] at hc; exact readCharacters_simpleEscape (hc ▸ rfl) (by decide) fuel tail
  split
  · next h => rw [h] at hc; exact readCharacters_simpleEscape (hc ▸ rfl) (by decide) fuel tail
  split
  · next h =>
    have h1 := readCodePoint_controlEscape h tail
    rw [hc] at h1
    cases hr : readCharacters fuel tail <;> simp [controlEscape, readCharacters, h1, hr]
  · next hq hb _ _ _ _ _ hn =>
    cases hr : readCharacters fuel tail <;> simp [readCharacters, hq, hb, hn, hr]

theorem readCharacters_flatMap_escapeChar (cs rest : List Char) {fuel : Nat}
    (h : cs.length < fuel) :
    readCharacters fuel (cs.flatMap escapeChar ++ '"' :: rest) = some (cs, rest) := by
  induction cs generalizing fuel with
  | nil =>
    obtain ⟨n, rfl⟩ : ∃ n, fuel = n + 1 := ⟨fuel - 1, by simp at h; omega⟩
    simp [readCharacters]
  | cons c cs ih =>
    simp only [List.length_cons] at h
    obtain ⟨n, rfl⟩ : ∃ n, fuel = n + 1 := ⟨fuel - 1, by omega⟩
    rw [List.flatMap_cons, List.append_assoc, readCharacters_escapeChar, ih (by omega)]
    rfl

theorem length_le_flatMap_escapeChar (cs : List Char) :
    cs.length ≤ (cs.flatMap escapeChar).length := by
  induction cs with
  | nil => exact Nat.le_refl 0
  | cons c cs ih =>
    have h1 : 1 ≤ (escapeChar c).length := by
      unfold escapeChar controlEscape
      repeat' split
      all_goals simp
    simp only [List.flatMap_cons, List.length_append, List.length_cons]
    omega

/-- **A text is read back from its quoted form, whatever follows.** -/
theorem readString_quote (s : String) (rest : List Char) :
    readString (s.toList.flatMap escapeChar ++ '"' :: rest) = some (s, rest) := by
  have h1 := length_le_flatMap_escapeChar s.toList
  unfold readString
  rw [readCharacters_flatMap_escapeChar s.toList rest (by rw [List.length_append]; omega)]
  simp

/-! ## What a quoted text determines -/

theorem endsBefore_escapeChar :
    EndsBefore '"' fun s : String => s.toList.flatMap escapeChar := by
  intro a b r s h
  have h1 := readString_quote a r
  rw [h, readString_quote b s] at h1
  obtain ⟨h2, h3⟩ := Prod.mk.inj (Option.some.inj h1)
  exact ⟨h2.symm, h3.symm⟩

theorem toList_compact_texts (k l a b : String) :
    (compact (.obj [(k, .str a), (l, .str b)])).toList =
      ('\x7b' :: (quote k.toList ++ [':', '"'])) ++ (a.toList.flatMap escapeChar ++ '"' ::
        (',' :: (quote l.toList ++ [':', '"']) ++
          (b.toList.flatMap escapeChar ++ ['"', '\x7d']))) := by
  simp [compact, compactMembers, quoted, quote]

/-- **An object of two texts determines them.** -/
theorem compact_texts_inj {k l a b c d : String}
    (h : compact (.obj [(k, .str a), (l, .str b)]) = compact (.obj [(k, .str c), (l, .str d)])) :
    a = c ∧ b = d := by
  have h1 := congrArg String.toList h
  rw [toList_compact_texts, toList_compact_texts] at h1
  obtain ⟨h2, h3⟩ := endsBefore_escapeChar (List.append_cancel_left h1)
  obtain ⟨h4, -⟩ := endsBefore_escapeChar (List.append_cancel_left h3)
  exact ⟨h2, h4⟩

end EventLedger.Json
