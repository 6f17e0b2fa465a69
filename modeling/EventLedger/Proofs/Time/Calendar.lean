import EventLedger.Time.Date

/-!
# Counting days

Every whole number is the number of exactly one day, and greater numbers are those of later days.

* `ofMarchYear`: the day of a year that begins in March;
* `yearOfCycle_bounds`, `dayOfYear_bounds`: where a day of a cycle of 400 years lies;
* `dayNumber_ofMarchYear`: the number of such a day;
* **`dayNumber_ofDayNumber`**, `ofDayNumber_injective`;
* `leap_of_lastDay`, **`valid_ofDayNumber`**: the day of a number exists;
* `Precedes`, **`precedes_ofDayNumber`**: days are in the order of their numbers;
* `year_lt_iff`: the days in front of a year.
-/

namespace EventLedger.Date

/-- The day that lies `dayOfYear` days behind the first of March of a year. -/
def ofMarchYear (year dayOfYear : Int) : Date :=
  let monthFromMarch := (5 * dayOfYear + 2) / 153
  let day := dayOfYear - (153 * monthFromMarch + 2) / 5 + 1
  let month := if monthFromMarch < 10 then monthFromMarch + 3 else monthFromMarch - 9
  ⟨if month ≤ 2 then year + 1 else year, month.toNat, day.toNat⟩

/-- The days in front of a year of a cycle. -/
def daysBefore (yearOfCycle : Int) : Int :=
  365 * yearOfCycle + yearOfCycle / 4 - yearOfCycle / 100

/-- The year of a cycle in which its day `d` lies. -/
def yearOfCycle (d : Int) : Int := (d - d / 1460 + d / 36524 - d / 146096) / 365

variable {d : Int}

theorem yearOfCycle_bounds (h0 : 0 ≤ d) (h1 : d < 146097) :
    0 ≤ yearOfCycle d ∧ yearOfCycle d < 400 := by
  unfold yearOfCycle
  omega

theorem dayOfYear_bounds (h0 : 0 ≤ d) (h1 : d < 146097) :
    0 ≤ d - daysBefore (yearOfCycle d) ∧ d - daysBefore (yearOfCycle d) ≤ 365 := by
  obtain ⟨y, hy⟩ : ∃ y, y = yearOfCycle d := ⟨_, rfl⟩
  rw [← hy]
  unfold yearOfCycle at hy
  unfold daysBefore
  -- the divisions by whole centuries have few values each, and without them the rest is linear
  have h2 : d / 146096 = 0 ∨ d / 146096 = 1 := by omega
  have h3 : d / 36524 = 0 ∨ d / 36524 = 1 ∨ d / 36524 = 2 ∨ d / 36524 = 3 ∨ d / 36524 = 4 := by
    omega
  have h4 : y / 100 = 0 ∨ y / 100 = 1 ∨ y / 100 = 2 ∨ y / 100 = 3 := by omega
  rcases h2 with h2 | h2 <;> rcases h3 with h3 | h3 | h3 | h3 | h3 <;>
    rcases h4 with h4 | h4 | h4 | h4 <;> omega

theorem dayNumber_ofMarchYear {year t : Int} (h0 : 0 ≤ t) (h1 : t ≤ 365) :
    (ofMarchYear year t).dayNumber =
      year / 400 * 146097 + (daysBefore (year % 400) + t) - 719468 := by
  obtain ⟨m, hm⟩ : ∃ m, m = (5 * t + 2) / 153 := ⟨_, rfl⟩
  simp only [ofMarchYear, ← hm, dayNumber, daysBefore]
  by_cases h : m < 10
  · have h2 : ¬ m + 3 ≤ 2 := by omega
    have h3 : ¬ (m + 3).toNat ≤ 2 := by omega
    simp only [if_pos h, if_neg h2, if_neg h3]
    omega
  · have h2 : m - 9 ≤ 2 := by omega
    have h3 : (m - 9).toNat ≤ 2 := by omega
    simp only [if_neg h, if_pos h2, if_pos h3]
    omega

theorem ofDayNumber_eq (n : Int) :
    ofDayNumber n =
      ofMarchYear (yearOfCycle ((n + 719468) % 146097) + (n + 719468) / 146097 * 400)
        ((n + 719468) % 146097 - daysBefore (yearOfCycle ((n + 719468) % 146097))) := rfl

/-- **The day of a number has that number.** -/
theorem dayNumber_ofDayNumber (n : Int) : (ofDayNumber n).dayNumber = n := by
  obtain ⟨d, hd⟩ : ∃ d, d = (n + 719468) % 146097 := ⟨_, rfl⟩
  have h0 : 0 ≤ d := by omega
  have h1 : d < 146097 := by omega
  have h2 := yearOfCycle_bounds h0 h1
  have h3 := dayOfYear_bounds h0 h1
  rw [ofDayNumber_eq, ← hd, dayNumber_ofMarchYear h3.1 h3.2]
  have h4 : (yearOfCycle d + (n + 719468) / 146097 * 400) % 400 = yearOfCycle d := by omega
  rw [h4]
  omega

theorem ofDayNumber_injective {m n : Int} (h : ofDayNumber m = ofDayNumber n) : m = n := by
  rw [← dayNumber_ofDayNumber m, h, dayNumber_ofDayNumber]

/-! ## Existing days -/

theorem leap_of_lastDay (h0 : 0 ≤ d) (h1 : d < 146097)
    (h : d - daysBefore (yearOfCycle d) = 365) : isLeapYear (yearOfCycle d + 1) = true := by
  obtain ⟨y, hy⟩ : ∃ y, y = yearOfCycle d := ⟨_, rfl⟩
  have hbounds := yearOfCycle_bounds h0 h1
  rw [← hy] at h hbounds ⊢
  unfold yearOfCycle at hy
  unfold daysBefore at h
  have h2 : d / 146096 = 0 ∨ d / 146096 = 1 := by omega
  have h3 : d / 36524 = 0 ∨ d / 36524 = 1 ∨ d / 36524 = 2 ∨ d / 36524 = 3 ∨ d / 36524 = 4 := by
    omega
  have h4 : y / 100 = 0 ∨ y / 100 = 1 ∨ y / 100 = 2 ∨ y / 100 = 3 := by omega
  have hfour : (y + 1) % 4 = 0 := by
    have h5 : y % 4 = 3 ∨ d / 1460 = y / 4 := by omega
    rcases h5 with h5 | h5
    · omega
    · rcases h2 with h2 | h2 <;> rcases h3 with h3 | h3 | h3 | h3 | h3 <;>
        rcases h4 with h4 | h4 | h4 | h4 <;> omega
  have hcentury : (y + 1) % 100 ≠ 0 ∨ (y + 1) % 400 = 0 := by
    have h5 : d / 1460 = y / 4 + 1 ∨ d / 1460 = y / 4 := by omega
    rcases h5 with h5 | h5 <;> rcases h2 with h2 | h2 <;> rcases h3 with h3 | h3 | h3 | h3 | h3 <;>
        rcases h4 with h4 | h4 | h4 | h4 <;> omega
  simp only [isLeapYear, Bool.and_eq_true, Bool.or_eq_true, beq_iff_eq, bne_iff_ne]
  exact ⟨hfour, hcentury⟩

theorem valid_ofMarchYear {year t : Int} (h0 : 0 ≤ t) (h1 : t ≤ 365)
    (hleap : t = 365 → isLeapYear (year + 1) = true) : (ofMarchYear year t).valid = true := by
  obtain ⟨m, hm⟩ : ∃ m, m = (5 * t + 2) / 153 := ⟨_, rfl⟩
  simp only [ofMarchYear, ← hm, valid, daysInMonth, Bool.and_eq_true, decide_eq_true_eq]
  have hmonth : m = 0 ∨ m = 1 ∨ m = 2 ∨ m = 3 ∨ m = 4 ∨ m = 5 ∨ m = 6 ∨ m = 7 ∨ m = 8 ∨ m = 9 ∨
    m = 10 ∨ m = 11 := by omega
  rcases hmonth with rfl | rfl | rfl | rfl | rfl | rfl | rfl | rfl | rfl | rfl | rfl | rfl
  all_goals simp
  all_goals try omega
  -- what is left is February
  split
  · omega
  · rename_i hn
    have : t ≠ 365 := fun ht => hn (hleap ht)
    omega

/-- **The day of a number exists.** -/
theorem valid_ofDayNumber (n : Int) : (ofDayNumber n).valid = true := by
  obtain ⟨d, hd⟩ : ∃ d, d = (n + 719468) % 146097 := ⟨_, rfl⟩
  have h0 : 0 ≤ d := by omega
  have h1 : d < 146097 := by omega
  have hbounds := dayOfYear_bounds h0 h1
  rw [ofDayNumber_eq, ← hd]
  refine valid_ofMarchYear hbounds.1 hbounds.2 fun hlast => ?_
  have hleap := leap_of_lastDay h0 h1 hlast
  simp only [isLeapYear, Bool.and_eq_true, Bool.or_eq_true, beq_iff_eq, bne_iff_ne] at hleap ⊢
  omega

/-! ## The order of days -/

/-- One day comes in front of another. -/
def Precedes (a b : Date) : Prop :=
  a.year < b.year ∨
    a.year = b.year ∧ (a.month < b.month ∨ a.month = b.month ∧ a.day < b.day)

/-- The days in front of a year that begins in March. -/
def daysToYear (year : Int) : Int := 365 * year + year / 4 - year / 100 + year / 400

theorem daysToYear_mono {x y : Int} (h : x ≤ y) : daysToYear x + 365 * (y - x) ≤ daysToYear y := by
  unfold daysToYear
  omega

theorem dayNumber_january {a : Date} (h : a.month ≤ 2) :
    a.dayNumber = daysToYear (a.year - 1) + (153 * (a.month + 9) + 2) / 5 + a.day - 719469 := by
  simp only [dayNumber, if_pos h, daysToYear]
  omega

theorem dayNumber_march {a : Date} (h : 2 < a.month) :
    a.dayNumber = daysToYear a.year + (153 * (a.month - 3) + 2) / 5 + a.day - 719469 := by
  simp only [dayNumber, if_neg (Nat.not_le.mpr h), daysToYear]
  omega

theorem bounds_of_valid {a : Date} (h : a.valid = true) :
    1 ≤ a.month ∧ a.month ≤ 12 ∧ 1 ≤ a.day ∧ a.day ≤ 31 ∧
      (a.month = 2 → daysToYear (a.year - 1) + a.day + 337 ≤ daysToYear a.year) ∧
      (a.month = 4 ∨ a.month = 6 ∨ a.month = 9 ∨ a.month = 11 → a.day ≤ 30) := by
  simp only [valid, Bool.and_eq_true, decide_eq_true_eq, daysInMonth, isLeapYear, Bool.or_eq_true,
    beq_iff_eq, bne_iff_ne] at h
  unfold daysToYear
  split at h
  · split at h
    · refine ⟨by omega, by omega, by omega, by omega, ?_, by omega⟩
      omega
    · refine ⟨by omega, by omega, by omega, by omega, ?_, by omega⟩
      omega
  · split at h <;> refine ⟨by omega, by omega, by omega, by omega, by omega, by omega⟩

theorem month_over {m n d : Nat} (hm : 2 < m) (hmn : m < n) (hn : n ≤ 12) (hd : d ≤ 31)
    (hshort : m = 4 ∨ m = 6 ∨ m = 9 ∨ m = 11 → d ≤ 30) :
    (153 * ((m : Int) - 3) + 2) / 5 + d ≤ (153 * ((n : Int) - 3) + 2) / 5 := by
  have hcases : m = 3 ∨ m = 4 ∨ m = 5 ∨ m = 6 ∨ m = 7 ∨ m = 8 ∨ m = 9 ∨ m = 10 ∨ m = 11 := by omega
  rcases hcases with rfl | rfl | rfl | rfl | rfl | rfl | rfl | rfl | rfl <;> omega

/-- **Later days have greater numbers.** -/
theorem dayNumber_lt {a b : Date} (ha : a.valid = true) (hb : b.valid = true)
    (h : a.Precedes b) : a.dayNumber < b.dayNumber := by
  obtain ⟨ha1, ha2, ha3, ha4, hfeb, hshort⟩ := bounds_of_valid ha
  obtain ⟨hb1, hb2, hb3, -, -, -⟩ := bounds_of_valid hb
  have h1 := daysToYear_mono (show a.year - 1 ≤ a.year by omega)
  rcases h with hyear | ⟨hyear, hmonth | ⟨hmonth, hday⟩⟩
  · have h2 := daysToYear_mono (show a.year ≤ b.year - 1 by omega)
    have h3 := daysToYear_mono (show b.year - 1 ≤ b.year by omega)
    rcases Nat.lt_or_ge 2 a.month with hm | hm <;> rcases Nat.lt_or_ge 2 b.month with hn | hn
    all_goals simp only [dayNumber_march, dayNumber_january, hm, hn]
    all_goals omega
  · rcases Nat.lt_or_ge 2 a.month with hm | hm
    · have hover := month_over hm hmonth hb2 ha4 hshort
      rw [dayNumber_march hm, dayNumber_march (Nat.lt_trans hm hmonth), ← hyear]
      omega
    · rcases Nat.lt_or_ge 2 b.month with hn | hn
      · rw [dayNumber_january hm, dayNumber_march hn, ← hyear]
        omega
      · rw [dayNumber_january hm, dayNumber_january hn, ← hyear]
        omega
  · rcases Nat.lt_or_ge 2 a.month with hm | hm
    · rw [dayNumber_march hm, dayNumber_march (hmonth ▸ hm), ← hyear, ← hmonth]
      omega
    · rw [dayNumber_january hm, dayNumber_january (hmonth ▸ hm), ← hyear, ← hmonth]
      omega

theorem Precedes.asymm (a b : Date) : a.Precedes b → ¬ b.Precedes a := by
  unfold Precedes
  omega

theorem precedes_trichotomy (a b : Date) : a.Precedes b ∨ a = b ∨ b.Precedes a := by
  obtain ⟨y, m, d⟩ := a
  obtain ⟨z, n, e⟩ := b
  simp only [Precedes, mk.injEq]
  omega

/-- **Days are in the order of their numbers.** -/
theorem precedes_ofDayNumber {m n : Int} (h : m < n) :
    (ofDayNumber m).Precedes (ofDayNumber n) := by
  rcases precedes_trichotomy (ofDayNumber m) (ofDayNumber n) with hlt | heq | hgt
  · exact hlt
  · exact absurd (ofDayNumber_injective heq) (Int.ne_of_lt h)
  · have hnumbers := dayNumber_lt (valid_ofDayNumber n) (valid_ofDayNumber m) hgt
    rw [dayNumber_ofDayNumber, dayNumber_ofDayNumber] at hnumbers
    omega

theorem year_lt_iff (n year : Int) :
    (ofDayNumber n).year < year ↔ n < (Date.mk year 1 1).dayNumber := by
  have hvalid := valid_ofDayNumber n
  have hjanuary : (Date.mk year 1 1).valid = true := by simp [valid, daysInMonth]
  obtain ⟨hmonth, -, hday, -⟩ := bounds_of_valid hvalid
  constructor
  · intro h
    have hlt := dayNumber_lt hvalid hjanuary (Or.inl h)
    rwa [dayNumber_ofDayNumber] at hlt
  · intro h
    rcases precedes_trichotomy (ofDayNumber n) ⟨year, 1, 1⟩ with hlt | heq | hgt
    · unfold Precedes at hlt
      dsimp only at hlt
      omega
    · rw [← heq, dayNumber_ofDayNumber] at h
      exact absurd h (Int.lt_irrefl n)
    · have hnumbers := dayNumber_lt hjanuary hvalid hgt
      rw [dayNumber_ofDayNumber] at hnumbers
      omega

end EventLedger.Date
