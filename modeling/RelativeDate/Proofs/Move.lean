import Mathlib.Tactic.Ring
import RelativeDate.Move
import RelativeDate.Proofs.Calendar.LeapCount
import RelativeDate.Proofs.Instant

/-! # Steps by day and time

What a step of months and a step of years do to the day of an instant. Both leave the time of
the day alone. The leap correction of a step of years comes down to a difference of two counts
of leap years, and neither depends on whether the year of the start is a leap year. -/

namespace RelativeDate.Instant

open Calendar

variable {t s nominal : Instant} {n : Int} {dir : Direction}

/-! ## Units of fixed length -/

theorem move?_fixed_eq_some_iff {u : FixedUnit} :
    t.move? dir (.fixed u) n = some s ↔ (s.micros : Int) = t.micros + dir.sign * n * u.micros :=
  addMicros?_eq_some_iff

/-- An instant on the way between two others is one of the calendar. -/
theorem exists_between {k m : Nat}
    (h : (s.micros : Int) = t.micros + dir.sign * (k + m : Nat)) :
    ∃ r : Instant, (r.micros : Int) = t.micros + dir.sign * k ∧
      (s.micros : Int) = r.micros + dir.sign * m := by
  have hrange := @Direction.range_of_between dir _ _ _ (t.micros + dir.sign * k) t.micros_lt
    s.micros_lt (by rw [mul_add, Direction.sign_mul_sign_mul]; omega)
    (by rw [h, mul_add, mul_add, Direction.sign_mul_sign_mul, Direction.sign_mul_sign_mul]; omega)
  rw [Nat.cast_mul] at hrange
  obtain ⟨r, hr⟩ := exists_ofMicros?_iff.mpr hrange
  have hmicros := ofMicros?_eq_some_iff.mp hr
  exact ⟨r, hmicros, by rw [hmicros, h, Int.natCast_add, Int.mul_add, Int.add_assoc]⟩

/-! ## Months -/

/-- The last day of a month, run over by the longest offset, stays in the calendar. -/
private theorem monthStart_add_lt_dayLimit {target offset : Nat} (hmonth : target < monthLimit)
    (hoffset : offset < 31) : monthStart target + offset < dayLimit := by
  have hlast : monthStart (monthLimit - 1) + 31 = dayLimit := rfl
  have hle := monthStart_strictMono.monotone (show target ≤ monthLimit - 1 by omega)
  omega

/-- How far the day of an instant lies behind the start of its month. -/
def dayOffset (t : Instant) : Nat :=
  t.dayNumber - monthStart (monthOf t.dayNumber)

theorem date_eq (t : Instant) : t.date = ⟨t.year, t.month, t.dayOffset + 1⟩ := rfl

theorem monthStart_add_dayOffset (t : Instant) :
    monthStart (monthOf t.dayNumber) + t.dayOffset = t.dayNumber := by
  have hle := monthStart_monthOf_le t.dayNumber
  unfold dayOffset
  omega

theorem dayOffset_lt (t : Instant) :
    t.dayOffset < monthLength (leapAt (monthOf t.dayNumber / 12)) (monthOf t.dayNumber % 12) := by
  have hlt := lt_monthStart_monthOf_succ t.dayNumber
  rw [monthStart_succ, ← monthStart_add_dayOffset t] at hlt
  simp only [monthStart_add_dayOffset] at hlt
  have hsplit := monthStart_add_dayOffset t
  omega

theorem dayOffset_lt_thirtyOne (t : Instant) : t.dayOffset < 31 :=
  Nat.lt_of_lt_of_le t.dayOffset_lt (monthLength_bounds _ _).2

theorem monthOf_lt_monthLimit (t : Instant) : monthOf t.dayNumber < monthLimit := by
  have hyear := t.year_lt
  rw [year_eq, ← monthOf_div] at hyear
  rw [monthLimit_eq]
  omega

/-- A step of months succeeds exactly when its month is one of the calendar. It keeps the offset
    of the day from the start of the month, and the time of the day. -/
theorem addMonths?_eq_some_iff :
    t.addMonths? n = some s ↔
      ∃ target : Nat, (target : Int) = monthOf t.dayNumber + n ∧ target < monthLimit ∧
        s.dayNumber = monthStart target + t.dayOffset ∧ s.timeOfDay = t.timeOfDay := by
  have hmicros : t.micros - monthStart (monthOf t.dayNumber) * microsPerDay
      = t.dayOffset * microsPerDay + t.timeOfDay := by
    have hsplit := t.dayNumber_mul_add_timeOfDay
    have hday := monthStart_add_dayOffset t
    unfold microsPerDay at *
    omega
  unfold addMonths?
  simp only [hmicros]
  constructor
  · intro h
    split at h
    · rename_i hrange
      rw [ofMicros?_eq_some_iff] at h
      refine ⟨(monthOf t.dayNumber + n).toNat, by omega, by omega, ?_⟩
      rw [← micros_eq_iff t.timeOfDay_lt]
      rw [Nat.add_mul, Nat.add_assoc]
      exact_mod_cast h
    · simp at h
  · rintro ⟨target, htarget, hlimit, hday, htime⟩
    rw [if_pos (by omega), ← htarget, Int.toNat_natCast, ofMicros?_eq_some_iff,
      (micros_eq_iff t.timeOfDay_lt).mpr ⟨hday, htime⟩]
    push_cast
    ring

theorem exists_addMonths?_iff :
    (∃ s, t.addMonths? n = some s) ↔
      0 ≤ monthOf t.dayNumber + n ∧ monthOf t.dayNumber + n < monthLimit := by
  constructor
  · rintro ⟨s, hs⟩
    obtain ⟨target, htarget, hlimit, -⟩ := addMonths?_eq_some_iff.mp hs
    omega
  · rintro ⟨hle, hlt⟩
    have hlimit : (monthOf t.dayNumber + n).toNat < monthLimit := by omega
    have hlast := monthStart_add_lt_dayLimit hlimit t.dayOffset_lt_thirtyOne
    obtain ⟨s, hday, htime⟩ := exists_day_time hlast t.timeOfDay_lt
    exact ⟨s, addMonths?_eq_some_iff.mpr ⟨_, Int.toNat_of_nonneg hle, hlimit, hday, htime⟩⟩

/-- Where a step of years leads that is made in months. -/
theorem dayNumber_addMonths?_years {n : Nat} (h : t.addMonths? (dir.sign * (12 * n)) = some s) :
    (s.dayNumber : Int) = t.dayNumber + dir.sign * (365 * n)
      + leapDaysBefore (t.year + dir.sign * n) t.month - leapDaysBefore t.year t.month := by
  obtain ⟨target, htarget, -, hday, -⟩ := addMonths?_eq_some_iff.mp h
  have hoffset := monthStart_add_dayOffset t
  have hyear : (t.year : Int) = (monthOf t.dayNumber / 12 : Nat) + 1 := by
    rw [year_eq, monthOf_div]
    omega
  have hmonth : t.month = monthOf t.dayNumber % 12 + 1 := month_eq t
  cases dir with
  | forward =>
    have hstart := monthStart_add_years (monthOf t.dayNumber) n
    simp only [Direction.sign_forward, one_mul] at htarget ⊢
    rw [show target = monthOf t.dayNumber + 12 * n by omega] at hday
    rw [hyear, hmonth]
    omega
  | backward =>
    -- The start lies as many years after the target.
    have hstart := monthStart_add_years target n
    simp only [Direction.sign_backward] at htarget ⊢
    rw [show target + 12 * n = monthOf t.dayNumber by omega] at hstart
    rw [hyear, hmonth, show monthOf t.dayNumber % 12 = target % 12 by omega,
      show monthOf t.dayNumber / 12 = target / 12 + n by omega,
      show ((target / 12 + n : Nat) : Int) + 1 = (target / 12 : Nat) + 1 + n by omega,
      show ((target / 12 : Nat) : Int) + 1 + n + -1 * n = (target / 12 : Nat) + 1 by omega]
    omega

/-! ## The nominal year -/

/-- Years of 365 days never get ahead of the calendar, and over its whole range they fall back by
    less than seven years. -/
private theorem year_bounds_of_days {p q : Instant} {n : Nat}
    (h : q.dayNumber = p.dayNumber + 365 * n) :
    p.year ≤ q.year ∧ q.year ≤ p.year + n ∧ p.year + n ≤ q.year + 7 := by
  obtain ⟨hp, hp'⟩ := p.dayNumber_bounds
  obtain ⟨hq, hq'⟩ := q.dayNumber_bounds
  refine ⟨?_, ?_, ?_⟩
  -- Going forward never leads to an earlier year.
  · have hlt := yearStart_strictMono.lt_iff_lt.mp
      (show yearStart (p.year - 1) < yearStart q.year by omega)
    omega
  -- If `q` lay past the year `p.year + n`, all `n` calendar years would lie between the two.
  · by_contra hgt
    have hle := yearStart_strictMono.monotone (show p.year + n ≤ q.year - 1 by omega)
    have hmono := leapYearsThrough_mono (show (p.year : Int) ≤ (p.year + n : Nat) by omega)
    have hstart := yearStart_eq p.year
    have hend := yearStart_eq (p.year + n)
    push_cast at *
    omega
  -- There are at most 2424 leap days to fall back by, which is less than seven years.
  · have hfirst := yearStart_eq (p.year - 1)
    have hlast := yearStart_eq q.year
    have hnonneg := leapYearsThrough_mono (show (0 : Int) ≤ (p.year - 1 : Nat) by omega)
    have hmost := leapYearsThrough_lt_limit (Int.ofNat_lt.mpr q.year_lt)
    rw [leapYearsThrough_zero] at hnonneg
    omega

/-- Seen in the direction of a step, the nominal year lies between the year of the start and the
    year that as many calendar years lead to, and at most seven years before the latter. -/
theorem nominalYear_bounds {n : Nat} (h : t.addDays? (dir.sign * (365 * n)) = some nominal) :
    dir.sign * t.year ≤ dir.sign * nominal.year ∧
      dir.sign * nominal.year ≤ dir.sign * (t.year + dir.sign * n) ∧
      dir.sign * (t.year + dir.sign * n) ≤ dir.sign * nominal.year + 7 := by
  have hday := (addDays?_eq_some_iff.mp h).1
  cases dir with
  | forward =>
    simp only [Direction.sign_forward, one_mul] at *
    have hyears := @year_bounds_of_days t nominal n (by omega)
    omega
  | backward =>
    simp only [Direction.sign_backward] at *
    have hyears := @year_bounds_of_days nominal t n (by omega)
    omega

/-! ## Years -/

/-- The leap days that a correction takes to lie before the nominal date. Going forward the leap
    day of the nominal year is one of them, and going back it is not. -/
def leapDaysCounted (dir : Direction) (nominal : Int) : Int :=
  match dir with
  | .forward => leapYearsThrough nominal
  | .backward => leapYearsThrough (nominal - 1)

/-- Leaving out one year of a count, if it is a leap year. -/
private theorem ite_isLeap_sub_one (y years : Int) (p : Prop) [Decidable p] :
    (if IsLeap y ∧ p then years - 1 else years) =
      years - if p then leapYearsThrough y - leapYearsThrough (y - 1) else 0 := by
  have hleap := leapYearsThrough_eq_pred y
  by_cases hyear : IsLeap y
  · simp only [hyear, true_and, if_true] at hleap ⊢
    split <;> omega
  · simp only [hyear, false_and, if_false] at hleap ⊢
    split <;> omega

/-- A correction makes up for the leap days between the start and the nominal date. It does not
    depend on whether the year of the start is a leap year. -/
theorem sign_mul_missedLeapDays (h : dir.sign * t.year ≤ dir.sign * nominal.year) :
    dir.sign * missedLeapDays t nominal dir =
      leapDaysCounted dir nominal.year - leapDaysBefore t.year t.month := by
  unfold missedLeapDays leapDaysBefore leapDaysCounted
  simp only [ite_isLeap_sub_one]
  cases dir with
  | forward =>
    simp only [Direction.sign_forward, one_mul, decide_eq_true_eq] at h ⊢
    rw [leapYearsBetween_of_le h]
    by_cases hmonth : t.month < 3
    · have hahead : ¬ 2 < t.month := by omega
      simp only [hmonth, hahead, if_true, if_false]
      omega
    · have hbehind : 2 < t.month := by omega
      simp only [hmonth, hbehind, if_true, if_false]
      omega
  | backward =>
    simp only [Direction.sign_backward, decide_eq_true_eq] at h ⊢
    rw [leapYearsBetween_comm, leapYearsBetween_of_le (by omega)]
    split <;> omega

/-- A step of years succeeds exactly when its nominal date and its corrected date lie in the
    calendar. It keeps the time of the day. -/
theorem move?_year_eq_some_iff {n : Nat} :
    t.move? dir .year n = some s ↔
      ∃ nominal, t.addDays? (dir.sign * (365 * n)) = some nominal ∧
        (s.dayNumber : Int) = t.dayNumber + dir.sign * (365 * n)
          + leapDaysCounted dir nominal.year - leapDaysBefore t.year t.month ∧
        s.timeOfDay = t.timeOfDay := by
  have hstep : t.move? dir .year n = some s ↔
      ∃ nominal, t.addDays? (dir.sign * (365 * n)) = some nominal ∧
        nominal.addDays? (dir.sign * missedLeapDays t nominal dir) = some s := by
    rw [Int.mul_left_comm]
    exact Option.bind_eq_some_iff
  rw [hstep]
  refine exists_congr fun nominal => and_congr_right fun hnominal => ?_
  obtain ⟨hday, htime⟩ := addDays?_eq_some_iff.mp hnominal
  rw [addDays?_eq_some_iff, sign_mul_missedLeapDays (nominalYear_bounds hnominal).1, hday, htime,
    ← Int.add_sub_assoc]

end RelativeDate.Instant
