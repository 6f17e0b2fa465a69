import EventLedger.Digest.Sha256
import EventLedger.Proofs.Text.Delimited
import EventLedger.Text.Lowercase

/-!
# Equal digests

Two written digests are equal exactly if the digests are, whatever the case of their letters. Of two
different texts they are equal only by a collision of the hash function.

* `utf8`, `utf8_inj`: the bytes of a text, which determine it;
* `Collision`: two different messages with the same digest;
* `flatMap_hexByte_inj`, `lowerAscii_sha256Hex`: the written digest;
* **`sha256Hex_eq_iff`**.
-/

namespace EventLedger.Digest

/-- Two different messages with the same digest. -/
def Collision (m n : List UInt8) : Prop := m ≠ n ∧ sha256 m = sha256 n

/-! ## Bytes of a text -/

/-- The bytes of a text. -/
def utf8 (s : String) : List UInt8 := s.toUTF8.toList

theorem toList_loop (bs : ByteArray) (i : Nat) (acc : List UInt8) :
    ByteArray.toList.loop bs i acc = acc.reverse ++ bs.data.toList.drop i := by
  fun_induction ByteArray.toList.loop bs i acc with
  | case1 i acc h ih =>
    have h1 : i < bs.data.toList.length := h
    have h2 : bs.get! i = bs.data.toList[i] := by
      rw [ByteArray.get!, getElem!_pos bs.data i h, Array.getElem_toList]
    rw [ih, List.reverse_cons, List.append_assoc, List.drop_eq_getElem_cons h1, h2]
    rfl
  | case2 i acc h =>
    have h1 : bs.data.toList.length ≤ i := Nat.not_lt.mp h
    rw [List.drop_of_length_le h1, List.append_nil]

theorem toList_eq (bs : ByteArray) : bs.toList = bs.data.toList := by
  rw [ByteArray.toList, toList_loop]
  rfl

theorem utf8_inj {s t : String} (h : utf8 s = utf8 t) : s = t := by
  simp only [utf8, String.toUTF8_eq_toByteArray, toList_eq] at h
  exact String.toByteArray_inj.mp (ByteArray.ext (Array.toList_inj.mp h))

/-! ## Written digests -/

theorem digitChar_inj {m n : Nat} (hm : m < 16) (hn : n < 16)
    (h : Nat.digitChar m = Nat.digitChar n) : m = n := by
  have h1 := Text.hexDigit?_digitChar hm
  rw [h, Text.hexDigit?_digitChar hn] at h1
  exact (Option.some.inj h1).symm

theorem hexByte_inj {a b : UInt8} (h : hexByte a = hexByte b) : a = b := by
  have ha := a.toNat_lt
  have hb := b.toNat_lt
  obtain ⟨h1, h2⟩ := List.cons.inj h
  have h3 := digitChar_inj (by omega) (by omega) h1
  have h4 := digitChar_inj (by omega) (by omega) (List.cons.inj h2).1
  exact UInt8.toNat_inj.mp (by omega)

theorem flatMap_hexByte_inj {xs ys : List UInt8} (h : xs.flatMap hexByte = ys.flatMap hexByte) :
    xs = ys := by
  induction xs generalizing ys with
  | nil =>
    cases ys with
    | nil => rfl
    | cons y ys => simp [hexByte] at h
  | cons x xs ih =>
    cases ys with
    | nil => simp [hexByte] at h
    | cons y ys =>
      rw [List.flatMap_cons, List.flatMap_cons] at h
      obtain ⟨h1, h2⟩ := List.append_inj h rfl
      rw [hexByte_inj h1, ih h2]

theorem sha256Hex_inj {s t : String} (h : sha256Hex s = sha256Hex t) :
    sha256 (utf8 s) = sha256 (utf8 t) := flatMap_hexByte_inj (String.ofList_injective h)

theorem toLower_digitChar {n : Nat} (h : n < 16) : (Nat.digitChar n).toLower = Nat.digitChar n := by
  have h1 : ∀ i : Fin 16, (Nat.digitChar i).toLower = Nat.digitChar i := by decide
  exact h1 ⟨n, h⟩

theorem map_toLower_hexByte (b : UInt8) : (hexByte b).map Char.toLower = hexByte b := by
  have hb := b.toNat_lt
  rw [hexByte, List.map_cons, List.map_cons, toLower_digitChar (by omega),
    toLower_digitChar (by omega), List.map_nil]

theorem lowerAscii_sha256Hex (s : String) : Text.lowerAscii (sha256Hex s) = sha256Hex s := by
  unfold Text.lowerAscii sha256Hex
  rw [String.toList_ofList, List.map_flatMap]
  simp only [map_toLower_hexByte]

/-- **Two texts have the same written digest exactly if they are equal or collide.** -/
theorem sha256Hex_eq_iff (s t : String) :
    sha256Hex s = sha256Hex t ↔ s = t ∨ Collision (utf8 s) (utf8 t) := by
  constructor
  · intro h
    by_cases hst : s = t
    · exact Or.inl hst
    · exact Or.inr ⟨fun hu => hst (utf8_inj hu), sha256Hex_inj h⟩
  · rintro (rfl | ⟨-, h⟩)
    · rfl
    · unfold sha256Hex
      exact congrArg (fun bs => String.ofList (bs.flatMap hexByte)) h

end EventLedger.Digest
