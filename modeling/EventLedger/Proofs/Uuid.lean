import EventLedger.Proofs.Text.Delimited
import EventLedger.Uuid

/-!
# Written identifiers

An identifier is read back from its written form, so two identifiers with the same form are equal.

* `hexValues`: the hexadecimal digits of a number as numbers;
* `foldl_hexValues`, `mapM_hexDigits`: digits give the number back;
* `ungrouped_grouped`: the hyphens are found again;
* **`read?_text`**, `text_injective`.
-/

namespace EventLedger.Uuid

/-! ## Digits -/

/-- The `count` lowest hexadecimal digits of a number as numbers, the highest of them first. -/
def hexValues : (count : Nat) → Nat → List Nat
  | 0, _ => []
  | n + 1, x => x / Nat.pow 16 n % 16 :: hexValues n x

theorem length_hexDigits (n x : Nat) : (hexDigits n x).length = n := by
  induction n with
  | zero => rfl
  | succ n ih => rw [hexDigits, List.length_cons, ih]

theorem mapM_hexDigits (n x : Nat) :
    (hexDigits n x).mapM Text.hexDigit? = some (hexValues n x) := by
  induction n with
  | zero => rfl
  | succ n ih =>
    have h1 : x / Nat.pow 16 n % 16 < 16 := Nat.mod_lt _ (by decide)
    rw [hexDigits, hexValues, List.mapM_cons, Text.hexDigit?_digitChar h1, ih]
    rfl

theorem foldl_hexValues (n x acc : Nat) :
    (hexValues n x).foldl (fun acc d => acc * 16 + d) acc =
      acc * Nat.pow 16 n + x % Nat.pow 16 n := by
  induction n generalizing acc with
  | zero => simp [hexValues, Nat.mod_one]
  | succ n ih =>
    have h1 : Nat.pow 16 (n + 1) = Nat.pow 16 n * 16 := rfl
    have h2 : x % (Nat.pow 16 n * 16) =
      x % Nat.pow 16 n + Nat.pow 16 n * (x / Nat.pow 16 n % 16) := Nat.mod_mul
    rw [hexValues, List.foldl_cons, ih, h1, h2, Nat.add_mul, Nat.mul_assoc, Nat.mul_comm 16,
      Nat.mul_comm (x / Nat.pow 16 n % 16)]
    omega

/-! ## Groups -/

/-- All of the sizes together. -/
def totalSize (sizes : List Nat) : Nat := sizes.foldr (· + ·) 0

theorem ungrouped_grouped (sizes : List Nat) (ds : List Char) (h : ds.length = totalSize sizes) :
    ungrouped sizes (grouped sizes ds) = some ds := by
  induction sizes generalizing ds with
  | nil =>
    have h1 : ds = [] := List.eq_nil_of_length_eq_zero h
    rw [h1]
    rfl
  | cons n sizes ih =>
    have h1 : ds.length = n + totalSize sizes := h
    cases sizes with
    | nil =>
      have h2 : ds.length = n := h1
      rw [grouped, ungrouped, List.take_of_length_le (Nat.le_of_eq h2), if_pos h2]
    | cons m sizes =>
      have h2 : (ds.take n).length = n := by rw [List.length_take]; omega
      have h3 : (ds.drop n).length = totalSize (m :: sizes) := by rw [List.length_drop]; omega
      rw [grouped, ungrouped, List.drop_left' h2, List.take_left' h2]
      · simp only [ih _ h3, Option.map_some, List.take_append_drop]
      all_goals simp

theorem length_grouped (sizes : List Nat) (ds : List Char) (h : ds.length = totalSize sizes) :
    (grouped sizes ds).length = totalSize sizes + (sizes.length - 1) := by
  induction sizes generalizing ds with
  | nil => simpa [grouped] using h
  | cons n sizes ih =>
    have h1 : ds.length = n + totalSize sizes := h
    cases sizes with
    | nil => simp [grouped, totalSize, h1]
    | cons m sizes =>
      have h3 : (ds.drop n).length = totalSize (m :: sizes) := by rw [List.length_drop]; omega
      have h4 : totalSize (n :: m :: sizes) = n + totalSize (m :: sizes) := rfl
      rw [grouped, List.length_append, List.length_cons, ih _ h3, List.length_take, h4]
      · simp only [List.length_cons]
        omega
      · simp

/-! ## Reading back -/

theorem ofHex?_hexDigits (u : Uuid) : ofHex? (hexDigits 32 u.bits.toNat) = some u := by
  have h1 : u.bits.toNat % Nat.pow 16 32 = u.bits.toNat := Nat.mod_eq_of_lt u.bits.isLt
  unfold ofHex?
  rw [if_pos (length_hexDigits 32 _), mapM_hexDigits]
  simp only [Option.bind_eq_bind, Option.bind_some, foldl_hexValues, h1, Nat.zero_mul, Nat.zero_add]
  simp

theorem toList_text (u : Uuid) :
    u.text.toList = grouped groupSizes (hexDigits 32 u.bits.toNat) := by
  rw [text, String.toList_ofList]

theorem length_text (u : Uuid) : u.text.length = 36 := by
  rw [← String.length_toList, toList_text]
  exact length_grouped groupSizes _ (length_hexDigits 32 _)

/-- **An identifier is read back from its written form.** -/
theorem read?_text (u : Uuid) : read? u.text = some u := by
  have h1 : (hexDigits 32 u.bits.toNat).length = totalSize groupSizes := length_hexDigits 32 _
  have h2 := length_grouped groupSizes _ h1
  have h3 : (grouped groupSizes (hexDigits 32 u.bits.toNat)).length = 36 := h2
  rw [read?, toList_text, ofChars?, if_neg (by omega), if_pos h3, ofGrouped?,
    ungrouped_grouped _ _ h1]
  exact ofHex?_hexDigits u

theorem text_injective {u v : Uuid} (h : u.text = v.text) : u = v := by
  have h1 := read?_text u
  rw [h, read?_text] at h1
  exact (Option.some.inj h1).symm

end EventLedger.Uuid
