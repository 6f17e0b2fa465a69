import EventLedger.Proofs.Text.Delimited
import EventLedger.Proofs.Time.Calendar
import EventLedger.Time.Printer

/-!
# What a written instant determines

The form that is hashed determines the instant up to its microseconds, leap seconds included.

* `endsBefore_yearText`: a written year ends before the hyphen behind it;
* `toList_sealText`: the written parts in order;
* `sealText_toMicroseconds`: what is cut off is not written;
* **`sealText_inj`**: two instants with the same form lie in the same microsecond.
-/

namespace EventLedger

open Text (padded EndsBefore endsBefore_padded)

/-! ## Years -/

theorem toList_yearText (y : Int) :
    (yearText y).toList =
      if 0 ≤ y ∧ y ≤ 9999 then (padded 4 y.toNat).toList
      else (if y < 0 then '-' else '+') :: (padded 4 y.natAbs).toList := by
  unfold yearText
  by_cases h : 0 ≤ y ∧ y ≤ 9999
  · rw [if_pos h, if_pos h]
  · rw [if_neg h, if_neg h, String.toList_append]
    by_cases h1 : y < 0
    · rw [if_pos h1, if_pos h1]
      rfl
    · rw [if_neg h1, if_neg h1]
      rfl

theorem padded_append_ne_cons {c : Char} (hc : c.isDigit = false) (width n : Nat)
    (r s : List Char) : (padded width n).toList ++ r ≠ c :: s := by
  intro h
  obtain ⟨d, ds, hd⟩ := List.exists_cons_of_ne_nil (Text.padded_ne_nil width n)
  rw [hd, List.cons_append] at h
  have h1 : d.isDigit = true :=
    Text.isDigit_of_mem_padded (hd ▸ List.mem_cons_self)
  rw [(List.cons.inj h).1, hc] at h1
  exact Bool.noConfusion h1

theorem sign_isDigit (y : Int) : (if y < 0 then '-' else '+' : Char).isDigit = false := by
  split <;> rfl

/-- **A year ends before the hyphen behind it**, though it may begin with one. -/
theorem endsBefore_yearText : EndsBefore '-' fun y => (yearText y).toList := by
  have hp : EndsBefore '-' fun n => (padded 4 n).toList := endsBefore_padded rfl 4
  intro a b r s h
  simp only [toList_yearText] at h
  by_cases ha : 0 ≤ a ∧ a ≤ 9999
  · by_cases hb : 0 ≤ b ∧ b ≤ 9999
    · rw [if_pos ha, if_pos hb] at h
      obtain ⟨h1, h2⟩ := hp h
      exact ⟨by omega, h2⟩
    · rw [if_pos ha, if_neg hb] at h
      exact absurd h (padded_append_ne_cons (sign_isDigit b) 4 _ _ _)
  · by_cases hb : 0 ≤ b ∧ b ≤ 9999
    · rw [if_neg ha, if_pos hb] at h
      exact absurd h.symm (padded_append_ne_cons (sign_isDigit a) 4 _ _ _)
    · rw [if_neg ha, if_neg hb] at h
      obtain ⟨h1, h2⟩ := List.cons.inj h
      obtain ⟨h3, h4⟩ := hp h2
      -- the signs agree, and so do the magnitudes
      by_cases h5 : a < 0 <;> by_cases h6 : b < 0 <;> simp [h5, h6] at h1
      · exact ⟨by omega, h4⟩
      · exact ⟨by omega, h4⟩

/-! ## Instants -/

namespace Instant

theorem toList_sealText (t : Instant) :
    t.sealText.toList =
      (yearText t.date.year).toList ++ '-' :: ((padded 2 t.date.month).toList ++ '-' ::
        ((padded 2 t.date.day).toList ++ 'T' :: ((padded 2 (t.secondOfDay / 3600)).toList ++ ':' ::
          ((padded 2 (t.secondOfDay / 60 % 60)).toList ++ ':' ::
            ((padded 2 t.writtenSecond).toList ++ '.' ::
              ((padded 6 (t.writtenNanos / 1000)).toList ++ 'Z' :: [])))))) := by
  simp [sealText, textWith, Date.text, timeText, fractionText]

theorem sealText_toMicroseconds (t : Instant) : t.toMicroseconds.sealText = t.sealText := by
  have h1 : t.toMicroseconds.writtenSecond = t.writtenSecond := by
    simp only [writtenSecond, secondOfDay, toMicroseconds]
    omega
  have h2 : t.toMicroseconds.writtenNanos / 1000 = t.writtenNanos / 1000 := by
    simp only [writtenNanos, toMicroseconds]
    omega
  rw [← String.toList_inj, toList_sealText, toList_sealText, h1, h2]
  rfl

theorem secondOfDay_eq_of_written {a b : Instant}
    (hh : a.secondOfDay / 3600 = b.secondOfDay / 3600)
    (hm : a.secondOfDay / 60 % 60 = b.secondOfDay / 60 % 60)
    (hs : a.writtenSecond = b.writtenSecond) :
    a.secondOfDay = b.secondOfDay ∧ a.nanos / 1000000000 = b.nanos / 1000000000 := by
  have ha := a.inSecond
  have hb := b.inSecond
  -- a leap second is written as second 60, which no other second is
  have h1 : a.secondOfDay % 60 = (a.seconds % 60).toNat := by unfold secondOfDay; omega
  have h2 : b.secondOfDay % 60 = (b.seconds % 60).toNat := by unfold secondOfDay; omega
  unfold writtenSecond at hs
  omega

theorem sealText_inj {a b : Instant} (h : a.sealText = b.sealText) :
    a.toMicroseconds = b.toMicroseconds := by
  have h0 := congrArg String.toList h
  rw [toList_sealText, toList_sealText] at h0
  obtain ⟨hyear, h1⟩ := endsBefore_yearText h0
  obtain ⟨hmonth, h2⟩ := endsBefore_padded rfl 2 h1
  obtain ⟨hday, h3⟩ := endsBefore_padded rfl 2 h2
  obtain ⟨hhour, h4⟩ := endsBefore_padded rfl 2 h3
  obtain ⟨hminute, h5⟩ := endsBefore_padded rfl 2 h4
  obtain ⟨hsecond, h6⟩ := endsBefore_padded rfl 2 h5
  obtain ⟨hmicro, -⟩ := endsBefore_padded rfl 6 h6
  have hdate : a.date = b.date := by
    cases ha : a.date
    cases hb : b.date
    simp_all
  have hdays : a.dayNumber = b.dayNumber := Date.ofDayNumber_injective hdate
  obtain ⟨hsod, hleap⟩ := secondOfDay_eq_of_written hhour hminute hsecond
  have hseconds : a.seconds = b.seconds := by
    unfold dayNumber at hdays
    unfold secondOfDay at hsod
    omega
  have hnanos : a.nanos - a.nanos % 1000 = b.nanos - b.nanos % 1000 := by
    unfold writtenNanos at hmicro
    omega
  simp only [toMicroseconds, mk.injEq]
  exact ⟨hseconds, hnanos⟩

/-- **Up to its microseconds, an instant and its hashed form determine each other.** -/
theorem sealText_eq_iff (a b : Instant) :
    a.sealText = b.sealText ↔ a.toMicroseconds = b.toMicroseconds := by
  constructor
  · exact sealText_inj
  · intro h
    rw [← sealText_toMicroseconds a, h, sealText_toMicroseconds]

end Instant

end EventLedger
