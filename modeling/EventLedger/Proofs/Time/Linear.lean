import EventLedger.Time.Instant

/-!
# Instants as one count

The count of microseconds knows no leap second. What is read back from it is the instant that was
counted, except that a leap second becomes the second behind it.

* `Instant.LeapSecond`: an instant in a leap second;
* `seconds_ofLinear`, `nanos_ofLinear`: what is read back;
* **`ofLinear_eq_iff`**: which instants are read back;
* `Countable`, `linear_ofLinear`: instants that are counted exactly, and those that counts stand for;
* **`ofLinear_notAfter_iff`**, `compare_linear`: instants that are counted in their order.
-/

namespace EventLedger.Instant

/-- The instant lies in a leap second. -/
def LeapSecond (t : Instant) : Prop := 1000000000 ≤ t.nanos

instance (t : Instant) : Decidable t.LeapSecond := Nat.decLe _ _

theorem eq_of_parts {a b : Instant} (hs : a.seconds = b.seconds) (hn : a.nanos = b.nanos) : a = b := by
  cases a
  cases b
  cases hs
  cases hn
  rfl

theorem nanos_toMicroseconds (t : Instant) : t.toMicroseconds.nanos = t.nanos - t.nanos % 1000 := rfl

theorem leapSecond_toMicroseconds (t : Instant) : t.toMicroseconds.LeapSecond ↔ t.LeapSecond := by
  unfold LeapSecond
  rw [nanos_toMicroseconds]
  omega

variable {t : Instant} (h : t.nanos % 1000 = 0)

include h

theorem toMicroseconds_eq : t.toMicroseconds = t := by
  refine eq_of_parts rfl ?_
  rw [nanos_toMicroseconds, h, Nat.sub_zero]

theorem linearMicroseconds_eq :
    t.linearMicroseconds = (t.seconds - linearOrigin) * 1000000 + (t.nanos / 1000 : Nat) := by
  have h1 : (t.seconds - linearOrigin) * 1000000000 + (t.nanos : Int) =
      1000 * ((t.seconds - linearOrigin) * 1000000 + (t.nanos / 1000 : Nat)) := by
    omega
  rw [linearMicroseconds, h1]
  exact Int.mul_tdiv_cancel_left _ (by decide)

theorem seconds_ofLinear :
    (ofLinearMicroseconds t.linearMicroseconds).seconds = t.seconds + (t.nanos / 1000000000 : Nat) := by
  have h1 : (ofLinearMicroseconds t.linearMicroseconds).seconds =
    t.linearMicroseconds / 1000000 + linearOrigin := rfl
  rw [h1, linearMicroseconds_eq h]
  omega

theorem nanos_ofLinear :
    (ofLinearMicroseconds t.linearMicroseconds).nanos = t.nanos % 1000000000 := by
  have h1 : (ofLinearMicroseconds t.linearMicroseconds).nanos =
    (t.linearMicroseconds % 1000000).toNat * 1000 := rfl
  rw [h1, linearMicroseconds_eq h]
  omega

/-- **An instant is read back from its count** exactly if it lies in no leap second. -/
theorem ofLinear_eq_iff : ofLinearMicroseconds t.linearMicroseconds = t ↔ ¬ t.LeapSecond := by
  have hs := seconds_ofLinear h
  have hn := nanos_ofLinear h
  unfold LeapSecond
  constructor
  · intro he
    rw [he] at hn
    omega
  · intro hl
    exact eq_of_parts (by omega) (by omega)

theorem ofLinear_whole : (ofLinearMicroseconds t.linearMicroseconds).nanos % 1000 = 0 := by
  rw [nanos_ofLinear h]
  omega

omit h

/-! ## The order of counts -/

/-- The instant is in whole microseconds and in no leap second. -/
structure Countable (t : Instant) : Prop where
  whole : t.nanos % 1000 = 0
  unprolonged : ¬ t.LeapSecond

theorem countable_ofSeconds (n : Int) : (ofSeconds n).Countable := ⟨rfl, Nat.not_succ_le_zero _⟩

theorem countable_ofLinear (n : Int) : (ofLinearMicroseconds n).Countable := by
  refine ⟨Nat.mul_mod_left _ _, ?_⟩
  show ¬ 1000000000 ≤ (n % 1000000).toNat * 1000
  omega

theorem linear_ofLinear (n : Int) : (ofLinearMicroseconds n).linearMicroseconds = n := by
  rw [linearMicroseconds_eq (countable_ofLinear n).whole]
  show (n / 1000000 + linearOrigin - linearOrigin) * 1000000 +
    (((n % 1000000).toNat * 1000 / 1000 : Nat) : Int) = n
  omega

theorem notAfter_iff (a b : Instant) :
    a.notAfter b = true ↔ a.seconds < b.seconds ∨ (a.seconds = b.seconds ∧ a.nanos ≤ b.nanos) := by
  simp [notAfter, before]
  omega

variable {n : Int}

/-- **A count is at most that of an instant** exactly if the instant it stands for is not after. -/
theorem ofLinear_notAfter_iff (h : t.Countable) :
    (ofLinearMicroseconds n).notAfter t = true ↔ n ≤ t.linearMicroseconds := by
  obtain ⟨hw, hl⟩ := h
  unfold LeapSecond at hl
  rw [notAfter_iff, linearMicroseconds_eq hw]
  simp only [ofLinearMicroseconds]
  omega

theorem notAfter_ofLinear_iff (h : t.Countable) :
    t.notAfter (ofLinearMicroseconds n) = true ↔ t.linearMicroseconds ≤ n := by
  obtain ⟨hw, hl⟩ := h
  unfold LeapSecond at hl
  rw [notAfter_iff, linearMicroseconds_eq hw]
  simp only [ofLinearMicroseconds]
  omega

theorem Countable.ofLinear_eq (h : t.Countable) : ofLinearMicroseconds t.linearMicroseconds = t :=
  (ofLinear_eq_iff h.whole).mpr h.unprolonged

theorem compare_linear {a b : Instant} (ha : a.Countable) (hb : b.Countable) :
    compareOfLessAndEq a.linearMicroseconds b.linearMicroseconds = a.compare b := by
  have h1 := ofLinear_notAfter_iff (n := b.linearMicroseconds) ha
  have h2 := ofLinear_notAfter_iff (n := a.linearMicroseconds) hb
  rw [hb.ofLinear_eq, notAfter, Bool.not_eq_true'] at h1
  rw [ha.ofLinear_eq, notAfter, Bool.not_eq_true'] at h2
  unfold compare compareOfLessAndEq
  rcases Int.lt_trichotomy a.linearMicroseconds b.linearMicroseconds with h | h | h
  · have h3 : a.before b = true := by
      rw [← Bool.not_eq_false, h1]
      omega
    simp [h, h3]
  · have h3 := h1.mpr (by omega)
    have h4 := h2.mpr (by omega)
    simp [h, h3, h4]
  · have h3 : b.before a = true := by
      rw [← Bool.not_eq_false, h2]
      omega
    have h4 := h1.mpr (by omega)
    have h5 : ¬ a.linearMicroseconds < b.linearMicroseconds := by omega
    have h6 : a.linearMicroseconds ≠ b.linearMicroseconds := by omega
    simp [h3, h4, h5, h6]

end EventLedger.Instant
