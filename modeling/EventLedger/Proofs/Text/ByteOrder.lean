import EventLedger.Text.Utf8

/-!
# Texts compared byte by byte

UTF-8 keeps the order: of two texts the one with the smaller character at the first difference has the
smaller byte at the first difference of their bytes.

* `encodeChar_lt`: two characters, whatever is behind them;
* **`encode_lt_iff`**, `compareBytes_eq`: two texts.
-/

namespace EventLedger.Utf8

/-! ## Characters -/

theorem ofNat_cons_lt {a b : Nat} (hb : b < 256) (h : a < b) (r s : List UInt8) :
    UInt8.ofNat a :: r < UInt8.ofNat b :: s := by
  refine List.cons_lt_cons_iff.mpr (Or.inl (UInt8.lt_iff_toNat_lt.mpr ?_))
  simp only [UInt8.toNat_ofNat']
  omega

theorem ofNat_cons_lt_of_eq {a b : Nat} {r s : List UInt8} (h : a = b) (hr : r < s) :
    UInt8.ofNat a :: r < UInt8.ofNat b :: s :=
  List.cons_lt_cons_iff.mpr (Or.inr ⟨congrArg _ h, hr⟩)

theorem toNat_lt (c : Char) : c.val.toNat < 1114112 := by
  have h := c.valid
  simp only [UInt32.isValidChar, Nat.isValidChar] at h
  show c.val.toNat < _
  omega

/-- **The bytes of a smaller character come first**, whatever is behind them. -/
theorem encodeChar_lt {c d : Char} (h : c < d) (r s : List UInt8) :
    String.utf8EncodeChar c ++ r < String.utf8EncodeChar d ++ s := by
  have hlt : c.val.toNat < d.val.toNat := h
  have hd := toNat_lt d
  simp only [String.utf8EncodeChar]
  generalize c.val.toNat = m at *
  generalize d.val.toNat = n at *
  -- characters of different lengths differ in the first byte, others in the first digit that differs
  repeat' split
  all_goals try exact ofNat_cons_lt (by omega) (by omega) _ _
  · rcases Nat.lt_or_ge (m / 64) (n / 64) with h1 | h1
    · exact ofNat_cons_lt (by omega) (by omega) _ _
    · exact ofNat_cons_lt_of_eq (by omega) (ofNat_cons_lt (by omega) (by omega) _ _)
  · rcases Nat.lt_or_ge (m / 4096) (n / 4096) with h1 | h1
    · exact ofNat_cons_lt (by omega) (by omega) _ _
    · refine ofNat_cons_lt_of_eq (by omega) ?_
      rcases Nat.lt_or_ge (m / 64) (n / 64) with h2 | h2
      · exact ofNat_cons_lt (by omega) (by omega) _ _
      · exact ofNat_cons_lt_of_eq (by omega) (ofNat_cons_lt (by omega) (by omega) _ _)
  · rcases Nat.lt_or_ge (m / 262144) (n / 262144) with h1 | h1
    · exact ofNat_cons_lt (by omega) (by omega) _ _
    · refine ofNat_cons_lt_of_eq (by omega) ?_
      rcases Nat.lt_or_ge (m / 4096) (n / 4096) with h2 | h2
      · exact ofNat_cons_lt (by omega) (by omega) _ _
      · refine ofNat_cons_lt_of_eq (by omega) ?_
        rcases Nat.lt_or_ge (m / 64) (n / 64) with h3 | h3
        · exact ofNat_cons_lt (by omega) (by omega) _ _
        · exact ofNat_cons_lt_of_eq (by omega) (ofNat_cons_lt (by omega) (by omega) _ _)

/-! ## Texts -/

theorem encode_cons (c : Char) (cs : List Char) :
    encode (c :: cs) = String.utf8EncodeChar c ++ encode cs := rfl

theorem append_lt_append {as r s : List UInt8} (h : r < s) : as ++ r < as ++ s := by
  induction as with
  | nil => exact h
  | cons a as ih => exact List.cons_lt_cons_iff.mpr (Or.inr ⟨rfl, ih⟩)

theorem encode_lt {cs ds : List Char} (h : cs < ds) : encode cs < encode ds := by
  induction cs generalizing ds with
  | nil =>
    cases ds with
    | nil => exact absurd h (List.lt_irrefl _)
    | cons d ds =>
      have hne : encode (d :: ds) ≠ [] := by
        simp [encode_cons, String.utf8EncodeChar_ne_nil]
      obtain ⟨b, bs, hb⟩ := List.exists_cons_of_ne_nil hne
      rw [hb]
      exact List.nil_lt_cons b bs
  | cons c cs ih =>
    cases ds with
    | nil => exact absurd h (List.not_lt_nil _)
    | cons d ds =>
      rcases List.cons_lt_cons_iff.mp h with hc | ⟨rfl, hcs⟩
      · exact encodeChar_lt hc _ _
      · exact append_lt_append (ih hcs)

/-- **UTF-8 keeps the order of texts.** -/
theorem encode_lt_iff (s t : String) : encode s.toList < encode t.toList ↔ s < t := by
  refine ⟨fun h => ?_, encode_lt⟩
  by_cases hlt : s < t
  · exact hlt
  · by_cases hgt : t < s
    · exact absurd (List.lt_trans h (encode_lt hgt)) (List.lt_irrefl _)
    · rw [String.le_antisymm hgt hlt] at h
      exact absurd h (List.lt_irrefl _)

/-- Two texts compared byte by byte. -/
def compareBytes (s t : String) : Ordering :=
  compareOfLessAndEq (encode s.toList) (encode t.toList)

theorem compareBytes_eq (s t : String) : compareBytes s t = compareOfLessAndEq s t := by
  have heq : encode s.toList = encode t.toList ↔ s = t := by
    refine ⟨fun h => ?_, fun h => by rw [h]⟩
    have h1 : ¬ s < t := fun hlt => List.lt_irrefl _ (h ▸ (encode_lt_iff s t).mpr hlt)
    have h2 : ¬ t < s := fun hlt => List.lt_irrefl _ (h ▸ (encode_lt_iff t s).mpr hlt)
    exact String.le_antisymm h2 h1
  simp only [compareBytes, compareOfLessAndEq, encode_lt_iff, heq]

end EventLedger.Utf8
