import EventLedger.Proofs.Text.Trimmed
import EventLedger.Text.Integer

/-!
# Numbers in text

A number is read from exactly the texts that write it in decimal, zeros in front and a plus sign put
aside, as long as it lies in the range of its type.

* `digit?_of_isDigit`, `isDigit_of_digit?`, `isBlank_of_isDigit`: single digits;
* `Digits`, `Writes`: rows of digits and texts that write a number;
* `readDigits_eq_ok_iff`, `readInteger_eq_ok_iff`: what is read from them;
* **`readNat_eq_ok_iff`**: the texts that say a number;
* `writes_toString`, `neat_toString`: the plainest of them.
-/

namespace EventLedger.Text

theorem digit?_of_isDigit {c : Char} (h : c.isDigit = true) :
    digit? c = some (c.toNat - '0'.toNat) := by
  have h1 : '0' ≤ c ∧ c ≤ '9' := by
    simpa [Char.isDigit, Char.le_def] using h
  rw [digit?, if_pos h1]

theorem isDigit_of_digit? {c : Char} {d : Nat} (h : digit? c = some d) : c.isDigit = true := by
  unfold digit? at h
  split at h
  · rename_i h1
    simpa [Char.isDigit, Char.le_def] using h1
  · cases h

theorem isBlank_of_isDigit {c : Char} (h : c.isDigit = true) : isBlank c = false := by
  have h1 : 48 ≤ c.toNat ∧ c.toNat ≤ 57 := by
    simpa [Char.isDigit, UInt32.le_iff_toNat_le] using h
  simp [isBlank]
  omega

/-- A row of digits that makes up the number `n`. -/
structure Digits (n : Nat) (ds : List Char) : Prop where
  ne_nil : ds ≠ []
  digits : ∀ c ∈ ds, c.isDigit = true
  value : Nat.ofDigitChars 10 ds 0 = n

/-- A text that writes the number `n`, perhaps with a plus sign in front. -/
def Writes (n : Nat) (s : String) : Prop :=
  ∃ ds, Digits n ds ∧ (s.toList = ds ∨ s.toList = '+' :: ds)

variable {limit acc n : Nat} {overflow : IntegerError} {cs : List Char} {s : String} {t : IntegerType}

/-! ## Rows of digits -/

theorem le_ofDigitChars (cs : List Char) (acc : Nat) : acc ≤ Nat.ofDigitChars 10 cs acc := by
  induction cs generalizing acc with
  | nil => exact Nat.le_refl acc
  | cons c cs ih =>
    rw [Nat.ofDigitChars_cons]
    exact Nat.le_trans (by omega) (ih _)

/-- **A row of digits is read as its number**, as long as that stays within the limit. -/
theorem readDigits_eq_ok_iff (hacc : acc ≤ limit) :
    readDigits limit overflow acc cs = .ok n ↔
      (∀ c ∈ cs, c.isDigit = true) ∧ Nat.ofDigitChars 10 cs acc = n ∧ n ≤ limit := by
  induction cs generalizing acc with
  | nil =>
    simp only [readDigits, Except.ok.injEq, List.not_mem_nil, false_implies, implies_true, true_and,
      Nat.ofDigitChars_nil]
    omega
  | cons c cs ih =>
    rw [readDigits, List.forall_mem_cons, Nat.ofDigitChars_cons]
    cases hd : digit? c with
    | none =>
      refine iff_of_false nofun fun h => ?_
      rw [digit?_of_isDigit h.1.1] at hd
      cases hd
    | some d =>
      have hc := isDigit_of_digit? hd
      rw [digit?_of_isDigit hc] at hd
      obtain rfl := Option.some.inj hd
      rw [Nat.mul_comm 10 acc]
      dsimp only
      by_cases hnext : limit < acc * 10 + (c.toNat - '0'.toNat)
      · have hle := le_ofDigitChars cs (acc * 10 + (c.toNat - '0'.toNat))
        rw [if_pos hnext]
        exact iff_of_false nofun fun h => by omega
      · rw [if_neg hnext, ih (Nat.le_of_not_lt hnext), and_iff_right hc]

theorem digits_toString (n : Nat) : Digits n (toString n).toList := by
  have htext : (toString n).toList = Nat.toDigits 10 n := Nat.toList_repr
  rw [htext]
  exact ⟨Nat.toDigits_ne_nil, fun c hc => Nat.isDigit_of_mem_toDigits (by decide) (by decide) hc,
    Nat.ofDigitChars_ten_toDigits⟩

theorem map_readDigits_eq_ok_iff {i : Int} (hne : cs ≠ []) :
    (readDigits limit overflow 0 cs).map Int.ofNat = .ok i ↔
      ∃ n : Nat, i = n ∧ n ≤ limit ∧ Digits n cs := by
  constructor
  · intro h
    cases hr : readDigits limit overflow 0 cs with
    | error e =>
      rw [hr] at h
      cases h
    | ok n =>
      rw [hr] at h
      obtain ⟨hdigits, hvalue, hle⟩ := (readDigits_eq_ok_iff (Nat.zero_le _)).mp hr
      exact ⟨n, (Except.ok.inj h).symm, hle, hne, hdigits, hvalue⟩
  · rintro ⟨n, rfl, hle, hn⟩
    rw [(readDigits_eq_ok_iff (Nat.zero_le _)).mpr ⟨hn.digits, hn.value, hle⟩]
    rfl

/-! ## Texts -/

theorem not_digits_cons {c : Char} (hc : c.isDigit = false) : ¬ Digits n (c :: cs) := by
  intro h
  have hdigit := h.digits c List.mem_cons_self
  rw [hc] at hdigit
  cases hdigit

theorem readInteger_plus (t : IntegerType) (hne : cs ≠ []) :
    readInteger t ('+' :: cs) = (readDigits t.above .tooLarge 0 cs).map Int.ofNat := by
  obtain ⟨c, ds, rfl⟩ := List.exists_cons_of_ne_nil hne
  rfl

theorem readInteger_minus (h : t.below = 0) (cs : List Char) :
    readInteger t ('-' :: cs) = .error .invalidDigit := by
  cases cs with
  | nil => rfl
  | cons c cs => exact if_pos h

theorem readInteger_unsigned {c : Char} (hplus : c ≠ '+') (hminus : c ≠ '-') (cs : List Char) :
    readInteger t (c :: cs) = (readDigits t.above .tooLarge 0 (c :: cs)).map Int.ofNat := by
  simp [readInteger, hplus, hminus]

/-- **An unsigned number** is a row of digits, perhaps with a plus sign in front. -/
theorem readInteger_eq_ok_iff {i : Int} (h : t.below = 0) :
    readInteger t cs = .ok i ↔
      ∃ n : Nat, i = n ∧ n ≤ t.above ∧ ∃ ds, Digits n ds ∧ (cs = ds ∨ cs = '+' :: ds) := by
  rcases cs with _ | ⟨c, cs⟩
  · refine iff_of_false nofun ?_
    rintro ⟨n, -, -, ds, hds, rfl | hplus⟩
    · exact hds.ne_nil rfl
    · cases hplus
  by_cases hplus : c = '+'
  · -- the digits stand behind the sign
    have hbehind : ∀ n, (∃ ds, Digits n ds ∧ (c :: cs = ds ∨ c :: cs = '+' :: ds)) ↔ Digits n cs := by
      subst hplus
      refine fun n => ⟨?_, fun hcs => ⟨cs, hcs, .inr rfl⟩⟩
      rintro ⟨ds, hds, rfl | hcons⟩
      · exact absurd hds (not_digits_cons rfl)
      · obtain ⟨-, rfl⟩ := List.cons.inj hcons
        exact hds
    simp only [hbehind]
    rw [hplus]
    by_cases hne : cs = []
    · subst hne
      exact iff_of_false nofun fun ⟨n, _, _, hn⟩ => hn.ne_nil rfl
    · rw [readInteger_plus t hne, map_readDigits_eq_ok_iff hne]
  · have hplain : ∀ n, (∃ ds, Digits n ds ∧ (c :: cs = ds ∨ c :: cs = '+' :: ds)) ↔
        Digits n (c :: cs) := by
      simp [hplus]
    simp only [hplain]
    by_cases hminus : c = '-'
    · rw [hminus, readInteger_minus h]
      exact iff_of_false nofun fun ⟨n, _, _, hn⟩ => not_digits_cons rfl hn
    · rw [readInteger_unsigned hplus hminus, map_readDigits_eq_ok_iff (List.cons_ne_nil c cs)]

/-- **A text says the number `n`** if it writes it in decimal and the type has it. -/
theorem readNat_eq_ok_iff (h : t.below = 0) : readNat t s = .ok n ↔ Writes n s ∧ n ≤ t.above := by
  unfold readNat
  constructor
  · intro hn
    cases hi : readInteger t s.toList with
    | error e =>
      rw [hi] at hn
      cases hn
    | ok i =>
      rw [hi] at hn
      obtain ⟨m, rfl, hle, hm⟩ := (readInteger_eq_ok_iff h).mp hi
      obtain rfl : m = n := Except.ok.inj hn
      exact ⟨hm, hle⟩
  · rintro ⟨hn, hle⟩
    rw [(readInteger_eq_ok_iff h).mpr ⟨n, rfl, hle, hn⟩]
    rfl

theorem writes_toString (n : Nat) : Writes n (toString n) := ⟨_, digits_toString n, .inl rfl⟩

theorem neat_toString (n : Nat) : Neat (toString n) := by
  have hn := digits_toString n
  refine neat_of_visible (fun h => hn.ne_nil (by rw [h]; rfl)) fun c hc => ?_
  exact isBlank_of_isDigit (hn.digits c hc)

end EventLedger.Text
