import Mathlib.Algebra.Order.Group.Abs
import RelativeDate.Proofs.Move

/-! # Steps of years and steps of months

A year has twelve months, so a step of years ought to lead where twelve times as many months
lead. It may end some days off, because the leap correction counts up to the year of the nominal
date, and that date falls behind by one day for each leap day on the way. The main statement
says by how many days the two steps differ, and that these are two days at most. -/

namespace RelativeDate.Instant

open Calendar

variable {t s months : Instant} {n : Nat} {dir : Direction}

/-- How many days a step of years ends after the step of as many months. The start has the month
    `month`, the step of months leads to the year `target`, and `nominal` is the year that years
    of 365 days lead to. -/
def yearDrift (dir : Direction) (month : Nat) (target nominal : Int) : Int :=
  match dir with
  | .forward =>
    if 2 < month then -leapYearCount (nominal + 1) target
    else if nominal = target then (if IsLeap target then 1 else 0)
    else -leapYearCount (nominal + 1) (target - 1)
  | .backward =>
    if month < 3 then leapYearCount target (nominal - 1)
    else if nominal = target then (if IsLeap target then -1 else 0)
    else leapYearCount (target + 1) (nominal - 1)

/-! ## The drift by the formula -/

theorem yearDrift_eq {target yn : Int} {month : Nat} (h : dir.sign * yn ≤ dir.sign * target) :
    yearDrift dir month target yn = leapDaysCounted dir yn - leapDaysBefore target month := by
  have hleap := leapYearsThrough_eq_pred target
  unfold leapDaysBefore leapDaysCounted
  cases dir with
  | forward =>
    simp only [Direction.sign_forward, one_mul] at h
    by_cases hmonth : 2 < month
    · have hcount := @leapYearCount_eq_sub (yn + 1) target (by omega)
      have hlate : ¬ month < 3 := by omega
      rw [Int.add_sub_cancel] at hcount
      simp only [yearDrift, hmonth, hlate, if_true, if_false]
      omega
    · have hearly : month < 3 := by omega
      -- The leap day of the target year is still ahead, but it counts if the nominal date lies
      -- in that year.
      simp only [yearDrift, hmonth, hearly, if_true, if_false]
      by_cases hyear : yn = target
      · simp only [hyear, if_true]
        omega
      · have hcount := @leapYearCount_eq_sub (yn + 1) (target - 1) (by omega)
        rw [Int.add_sub_cancel] at hcount
        simp only [hyear, if_false]
        omega
  | backward =>
    simp only [Direction.sign_backward] at h
    by_cases hmonth : month < 3
    · have hcount := @leapYearCount_eq_sub target (yn - 1) (by omega)
      simp only [yearDrift, hmonth, if_true]
      omega
    · -- From March on the same holds for going back.
      simp only [yearDrift, hmonth, if_false]
      by_cases hyear : yn = target
      · simp only [hyear, if_true]
        split at hleap <;> simp_all
      · have hcount := @leapYearCount_eq_sub (target + 1) (yn - 1) (by omega)
        rw [Int.add_sub_cancel] at hcount
        simp only [hyear, if_false]
        omega

theorem leapDaysBefore_bounds (year : Int) (month : Nat) :
    leapYearsThrough (year - 1) ≤ leapDaysBefore year month ∧
      leapDaysBefore year month ≤ leapYearsThrough year ∧
      leapYearsThrough year ≤ leapYearsThrough (year - 1) + 1 := by
  have hleap := leapYearsThrough_eq_pred year
  unfold leapDaysBefore
  split at hleap <;> split <;> omega

/-- Seven years in a row hold two leap years at most. -/
theorem abs_yearDrift_le {target yn : Int} {month : Nat} (h : dir.sign * yn ≤ dir.sign * target)
    (hseven : dir.sign * target ≤ dir.sign * yn + 7) : |yearDrift dir month target yn| ≤ 2 := by
  have hbefore := leapDaysBefore_bounds target month
  rw [yearDrift_eq h, abs_le]
  cases dir with
  | forward =>
    simp only [Direction.sign_forward, one_mul, leapDaysCounted] at *
    have hlow := leapYearsThrough_le_add_two hseven
    have hmono := leapYearsThrough_mono h
    omega
  | backward =>
    simp only [Direction.sign_backward, leapDaysCounted] at *
    have hhigh := leapYearsThrough_le_add_two (show yn - 1 ≤ target - 1 + 7 by omega)
    have hmono := leapYearsThrough_mono (show target - 1 ≤ yn - 1 by omega)
    omega

/-! ## Both steps -/

/-- A step of years leads to the instant of the step of twelve times as many months, moved by
    `yearDrift` days. -/
theorem move?_year_eq_addMonths? (hstep : t.move? dir .year n = some s)
    (hmonths : t.addMonths? (dir.sign * (12 * n)) = some months) :
    ∃ nominal, t.addDays? (dir.sign * (365 * n)) = some nominal ∧
      months.addDays? (yearDrift dir t.month (t.year + dir.sign * n) nominal.year) = some s ∧
      |yearDrift dir t.month (t.year + dir.sign * n) nominal.year| ≤ 2 ∧
      months.timeOfDay = t.timeOfDay ∧ s.timeOfDay = t.timeOfDay := by
  obtain ⟨nominal, hnominal, hday, htime⟩ := move?_year_eq_some_iff.mp hstep
  obtain ⟨-, -, -, -, hmtime⟩ := addMonths?_eq_some_iff.mp hmonths
  obtain ⟨-, hyear, hseven⟩ := nominalYear_bounds hnominal
  have hmday := dayNumber_addMonths?_years hmonths
  refine ⟨nominal, hnominal, ?_, abs_yearDrift_le hyear hseven, hmtime, htime⟩
  rw [addDays?_eq_some_iff, yearDrift_eq hyear]
  exact ⟨by omega, htime.trans hmtime.symm⟩

/-- From 1 May of year 1, a step of 6527 years ends two days before 1 May 6528: the nominal date
    is the last day of 6523, before the leap days of 6524 and 6528. -/
theorem move?_year_two_days_short :
    let start : Instant := ⟨120 * microsPerDay, by decide⟩
    let finish : Instant := ⟨2384056 * microsPerDay, by decide⟩
    let months : Instant := ⟨2384058 * microsPerDay, by decide⟩
    start.move? .forward .year 6527 = some finish ∧
      start.addMonths? (12 * 6527) = some months ∧ months.addDays? (-2) = some finish := by
  intro start finish months
  have hstep : start.move? .forward .year (6527 : Nat) = some finish := by decide
  have hmonths : start.addMonths? (Direction.forward.sign * (12 * (6527 : Nat))) = some months := by
    decide
  obtain ⟨nominal, hnominal, hdrift, -⟩ := move?_year_eq_addMonths? hstep hmonths
  have hday : start.addDays? (Direction.forward.sign * (365 * (6527 : Nat))) =
      some ⟨2382475 * microsPerDay, by decide⟩ := by decide
  have hyear : nominal.year = 6523 := by
    rw [← Option.some.inj (hday.symm.trans hnominal)]
    decide
  have hcount : yearDrift .forward 5 6528 6523 = -2 :=
    (yearDrift_eq (by decide)).trans (by decide)
  rw [show start.month = 5 by decide, show start.year = 1 by decide, hyear] at hdrift
  exact ⟨hstep, hmonths, hcount ▸ hdrift⟩

end RelativeDate.Instant
