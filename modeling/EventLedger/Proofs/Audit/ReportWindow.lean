import EventLedger.Audit.Service
import EventLedger.Proofs.Time.Windows
import EventLedger.Settings
import Mathlib.Tactic.ByContra

/-!
# The window of a report

A report that is asked for without a start begins one window before its end. The window is worked out
from the end even where a start is given, so a window that reaches out of the calendar leaves no range
at all. The settings admit such windows, and no window is without such an end but the one of no day.

* `Limits.WindowFits`: the window in front of an end lies in the calendar;
* `statisticsRange_eq`: the range in terms of the window;
* **`window_fits_always_iff`**: the windows that always fit;
* **`reports_ranged_iff_window_fits`**, `given_range_without_report`.
-/

namespace EventLedger

/-- The range from one instant to another, refused if it starts after its end. -/
def StatisticsRange.between (start finish : Instant) : StatisticsRange :=
  if start.notAfter finish then .range ⟨start, finish⟩
  else .refused [.single "dateRange" (.rangeReversed start finish)]

namespace Limits

/-- The window that ends at `finish` lies in the calendar. -/
def WindowFits (l : Limits) (finish : Instant) : Prop :=
  Instant.first.count + Instant.daysLength l.statsWindowDays ≤ finish.count

variable {l : Limits} {now finish windowStart : Instant}

theorem windowBefore?_eq_none_iff (h : finish.inCalendar = true) :
    l.windowBefore? finish = none ↔ ¬ l.WindowFits finish := by
  unfold WindowFits
  rw [windowBefore?, Instant.addDays?_eq_none_iff h, Int.not_le]

theorem daysBefore_of_windowBefore? (h : l.windowBefore? finish = some windowStart) :
    windowStart.inCalendar = true ∧ Instant.DaysBefore l.statsWindowDays windowStart finish :=
  Instant.daysBefore_of_addDays? h

theorem statisticsRange_eq (l : Limits) (now : Instant) (start finish : Option Instant) :
    l.statisticsRange now start finish =
      match l.windowBefore? (finish.getD now) with
      | some windowStart => .between (start.getD windowStart) (finish.getD now)
      | none => .leavesCalendar := by
  unfold statisticsRange
  split
  · -- nothing is given: the window starts before it ends
    rw [lastDays?, Option.getD_none]
    cases hw : l.windowBefore? now with
    | none => rfl
    | some windowStart =>
      have hle := (daysBefore_of_windowBefore? hw).2.notAfter
      change StatisticsRange.range ⟨windowStart, now⟩ = .between windowStart now
      rw [StatisticsRange.between, if_pos hle]
  · cases hw : l.windowBefore? (finish.getD now) with
    | none => simp only [hw]
    | some windowStart =>
      simp only [hw]
      rw [DateRange.make, DateRange.violations, StatisticsRange.between, Instant.notAfter]
      cases (finish.getD now).before (start.getD windowStart) <;> rfl

/-- **Only the window of no day fits in front of every end.** -/
theorem window_fits_always_iff (l : Limits) :
    (∀ finish : Instant, finish.inCalendar = true → l.WindowFits finish) ↔
      l.statsWindowDays = 0 := by
  constructor
  · intro h
    have hfirst := h .first Instant.inCalendar_first
    unfold WindowFits Instant.daysLength at hfirst
    omega
  · intro hzero finish hin
    have hle := (Instant.inCalendar_iff.mp hin).1
    have hnanos : Instant.first.nanos = 0 := rfl
    unfold WindowFits Instant.daysLength Instant.count
    omega

end Limits

/-- **A report has a range exactly if the window in front of its end lies in the calendar**, given start
or not. The range goes from the given start, or the instant that lies the window's days before the end,
to the given end, or now; it is refused only if it starts after its end, and without a given start it
never does. -/
theorem reports_ranged_iff_window_fits (l : Limits) :
    (∀ (now : Instant) (start finish : Option Instant), (finish.getD now).inCalendar = true →
      (l.statisticsRange now start finish = .leavesCalendar ↔ ¬ l.WindowFits (finish.getD now)) ∧
      (l.WindowFits (finish.getD now) → ∃ windowStart : Instant,
        windowStart.inCalendar = true ∧
        Instant.DaysBefore l.statsWindowDays windowStart (finish.getD now) ∧
        windowStart.notAfter (finish.getD now) = true ∧
        l.statisticsRange now start finish =
          .between (start.getD windowStart) (finish.getD now))) ∧
    ((∀ (now : Instant) (start finish : Option Instant), (finish.getD now).inCalendar = true →
      l.statisticsRange now start finish ≠ .leavesCalendar) ↔ l.statsWindowDays = 0) := by
  have hleaves : ∀ (now : Instant) (start finish : Option Instant),
      (finish.getD now).inCalendar = true →
      (l.statisticsRange now start finish = .leavesCalendar ↔ ¬ l.WindowFits (finish.getD now)) := by
    intro now start finish hin
    rw [← Limits.windowBefore?_eq_none_iff hin, Limits.statisticsRange_eq]
    cases l.windowBefore? (finish.getD now) with
    | none => simp
    | some windowStart =>
      unfold StatisticsRange.between
      dsimp only
      split <;> simp
  refine ⟨fun now start finish hin => ⟨hleaves now start finish hin, fun hfits => ?_⟩, ?_⟩
  · have hsome : l.windowBefore? (finish.getD now) ≠ none := fun hnone =>
      (Limits.windowBefore?_eq_none_iff hin).mp hnone hfits
    obtain ⟨windowStart, hw⟩ := Option.ne_none_iff_exists'.mp hsome
    obtain ⟨hstart, hdays⟩ := Limits.daysBefore_of_windowBefore? hw
    refine ⟨windowStart, hstart, hdays, hdays.notAfter, ?_⟩
    rw [Limits.statisticsRange_eq, hw]
  · rw [← Limits.window_fits_always_iff]
    constructor
    · intro h finish hin
      by_contra hfits
      exact h finish none none hin ((hleaves finish none none hin).mpr hfits)
    · intro h now start finish hin hleft
      exact (hleaves now start finish hin).mp hleft (h _ hin)

example : Limits.standard.statisticsRange .epoch none (some (.ofSeconds 1706745600)) =
    .range ⟨.ofSeconds 1704153600, .ofSeconds 1706745600⟩ := rfl

/-- A report on January 2024 is asked for with both ends. Under settings that are accepted there is none,
for a window of so many days would begin before the calendar. Nor is there one on an instant in the
calendar's first days under the usual settings. -/
theorem given_range_without_report :
    let limits : Limits := { Limits.standard with statsWindowDays := 4294967295 }
    let start : Instant := .ofSeconds 1704067200
    let finish : Instant := .ofSeconds 1706745600
    let early : Instant := .ofSeconds (Instant.first.seconds + 14 * 86400)
    Limits.read [("AUDIT_STATS_WINDOW_DAYS", "4294967295")] = .ok limits ∧
      start.inCalendar = true ∧ finish.inCalendar = true ∧ start.notAfter finish = true ∧
      limits.statisticsRange .epoch (some start) (some finish) = .leavesCalendar ∧
      early.inCalendar = true ∧
      Limits.standard.statisticsRange .epoch (some early) (some early) = .leavesCalendar := by
  refine ⟨by rfl, by decide, by decide, by decide, ?_, by decide, ?_⟩
  · rfl
  · rfl

end EventLedger
