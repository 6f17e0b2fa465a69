import EventLedger.Proofs.Time.Calendar
import EventLedger.Proofs.Time.Linear

/-!
# Whole days before an instant

Going back by whole days is exact on the count that knows no leap second, and it is possible exactly as
far as the calendar reaches back.

* `Instant.count`, `Instant.first`: the count, and the first instant of the calendar;
* `inCalendar_iff`: the calendar as a range of seconds;
* `DaysBefore`: one instant lies whole days before another;
* **`daysBefore_of_addDays?`**, **`addDays?_eq_none_iff`**: where going back leads, and when it leads
  out of the calendar.
-/

namespace EventLedger.Instant

/-- Nanoseconds since the epoch, a leap second being counted as the second behind it. -/
def count (t : Instant) : Int := t.seconds * 1000000000 + t.nanos

/-- Days in nanoseconds. -/
def daysLength (days : Nat) : Int := days * 86400000000000

/-- The first instant of the calendar. -/
def first : Instant := ofSeconds ((Date.mk Date.earliestYear 1 1).dayNumber * 86400)

/-- The second with which the calendar is over. -/
def calendarEnd : Int := (Date.mk (Date.latestYear + 1) 1 1).dayNumber * 86400

variable {t start finish : Instant} {days : Nat}

theorem inCalendar_iff :
    t.inCalendar = true ↔ first.seconds ≤ t.seconds ∧ t.seconds < calendarEnd := by
  have hearliest := Date.year_lt_iff t.dayNumber Date.earliestYear
  have hlatest := Date.year_lt_iff t.dayNumber (Date.latestYear + 1)
  have hfirst : first.seconds = (Date.mk Date.earliestYear 1 1).dayNumber * 86400 := rfl
  have hyear : t.inCalendar = true ↔ Date.earliestYear ≤ (Date.ofDayNumber t.dayNumber).year ∧
      (Date.ofDayNumber t.dayNumber).year ≤ Date.latestYear := by
    rw [inCalendar, Date.inCalendar, Bool.and_eq_true, decide_eq_true_eq, decide_eq_true_eq]
    rfl
  rw [hyear]
  unfold dayNumber at hearliest hlatest ⊢
  unfold calendarEnd
  omega

theorem inCalendar_first : first.inCalendar = true := by decide

/-! ## Going back -/

/-- `start` lies so many whole days before `finish`. It is in no leap second, unless it is `finish`. -/
structure DaysBefore (days : Nat) (start finish : Instant) : Prop where
  exact : start.count + daysLength days = finish.count
  same : days = 0 → start = finish
  plain : 0 < days → ¬ start.LeapSecond

theorem DaysBefore.notAfter (h : DaysBefore days start finish) : start.notAfter finish = true := by
  rcases Nat.eq_zero_or_pos days with hzero | hpos
  · rw [h.same hzero, notAfter_iff]
    omega
  · have hexact := h.exact
    have hplain := h.plain hpos
    have hfinish := finish.inSecond
    unfold LeapSecond at hplain
    unfold count daysLength at hexact
    rw [notAfter_iff]
    omega

theorem daysBefore_shiftDays (days : Nat) (t : Instant) : DaysBefore days (t.shiftDays (-days)) t := by
  have hin := t.inSecond
  unfold shiftDays
  by_cases hleap : t.nanos < 1000000000
  · rw [dif_pos hleap]
    refine ⟨?_, fun hzero => ?_, fun _ => Nat.not_le.mpr hleap⟩
    · unfold count daysLength
      dsimp only
      omega
    · exact eq_of_parts (by dsimp only; omega) rfl
  · -- out of a leap second: going back counts it as the second behind it, as `count` does
    rw [dif_neg hleap, if_neg (by omega)]
    rcases Nat.eq_zero_or_pos days with rfl | hpos
    · rw [if_neg (by decide)]
      exact ⟨Int.add_zero _, fun _ => rfl, fun h => absurd h (Nat.lt_irrefl 0)⟩
    · rw [if_pos (by omega)]
      refine ⟨?_, fun hzero => absurd hzero (Nat.ne_of_gt hpos), fun _ => ?_⟩
      · unfold count daysLength
        dsimp only
        omega
      · unfold LeapSecond
        dsimp only
        omega

/-- **Going back from the calendar leads out of it** exactly where fewer days lie behind its first
instant. -/
theorem inCalendar_shiftDays_iff (h : t.inCalendar = true) :
    (t.shiftDays (-days)).inCalendar = true ↔ first.count + daysLength days ≤ t.count := by
  have hback := daysBefore_shiftDays days t
  have hnotAfter := hback.notAfter
  have hfirst : first.nanos = 0 := rfl
  rw [inCalendar_iff] at h ⊢
  rw [notAfter_iff] at hnotAfter
  rcases Nat.eq_zero_or_pos days with rfl | hpos
  · rw [hback.same rfl]
    unfold count daysLength
    omega
  · have hexact := hback.exact
    have hplain := hback.plain hpos
    unfold LeapSecond at hplain
    unfold count daysLength at hexact ⊢
    omega

theorem addDays?_eq_none_iff (h : t.inCalendar = true) :
    t.addDays? (-days) = none ↔ t.count < first.count + daysLength days := by
  have hiff := @inCalendar_shiftDays_iff _ days h
  rw [← Int.not_le, ← hiff]
  simp [addDays?]

theorem daysBefore_of_addDays? (h : t.addDays? (-days) = some start) :
    start.inCalendar = true ∧ DaysBefore days start t := by
  simp only [addDays?, Option.ite_none_right_eq_some, Option.some.injEq] at h
  obtain ⟨hin, rfl⟩ := h
  exact ⟨hin, daysBefore_shiftDays days t⟩

end EventLedger.Instant
