import Mathlib.Order.Monotone.Basic
import Mathlib.Tactic.SplitIfs
import RelativeDate.Calendar.Day

/-! # Years, months and dates on the line of days

The starts of the years cut the line of days into half-open pieces, and so do the starts of the
months. The main statements say that `yearOf` and `monthOf` find the piece of a day, and which
date a day has that lies so many days after the start of its month. -/

namespace RelativeDate.Calendar

/-- A point lies in one piece at most of a line that is cut at increasing points. -/
private theorem piece_unique {f : Nat → Nat} (hf : StrictMono f) {d i j : Nat}
    (hi : f i ≤ d ∧ d < f (i + 1)) (hj : f j ≤ d ∧ d < f (j + 1)) : i = j := by
  have hij := hf.lt_iff_lt.mp (Nat.lt_of_le_of_lt hi.1 hj.2)
  have hji := hf.lt_iff_lt.mp (Nat.lt_of_le_of_lt hj.1 hi.2)
  omega

/-! ## Years -/

theorem yearStart_strictMono : StrictMono yearStart := by
  refine strictMono_nat_of_lt_succ fun i => ?_
  rw [yearStart_succ]
  split <;> omega

theorem yearOf_eq_iff {d i : Nat} : yearOf d = i ↔ yearStart i ≤ d ∧ d < yearStart (i + 1) := by
  have hyear := And.intro (yearStart_yearOf_le d) (lt_yearStart_yearOf_succ d)
  constructor
  · rintro rfl
    exact hyear
  · exact fun hi => piece_unique yearStart_strictMono hyear hi

/-! ## Months within a year -/

theorem monthLength_bounds (leap : Bool) (m : Nat) :
    28 ≤ monthLength leap m ∧ monthLength leap m ≤ 31 := by
  unfold monthLength
  split
  · split <;> omega
  all_goals omega

/-- Only February is longer in a leap year. -/
theorem monthLength_eq (leap : Bool) (m : Nat) :
    monthLength leap m = monthLength false m + if leap ∧ m = 1 then 1 else 0 := by
  cases leap with
  | false => simp
  | true =>
    unfold monthLength
    split <;> simp_all

/-- The leap day shifts the months from March on. -/
theorem daysBeforeMonth_eq (leap : Bool) (m : Nat) :
    daysBeforeMonth leap m = daysBeforeMonth false m + if leap ∧ 2 ≤ m then 1 else 0 := by
  induction m with
  | zero => simp [daysBeforeMonth]
  | succ m ih =>
    have hlength := monthLength_eq leap m
    simp only [daysBeforeMonth, ih, hlength]
    cases leap with
    | false => simp
    | true =>
      simp only [true_and]
      split_ifs <;> omega

theorem daysBeforeMonth_twelve (leap : Bool) :
    daysBeforeMonth leap 12 = if leap then 366 else 365 := by
  cases leap <;> rfl

theorem lt_daysBeforeMonth_lastMonthBy_succ {leap : Bool} {d m : Nat}
    (h : d < daysBeforeMonth leap (m + 1)) :
    d < daysBeforeMonth leap (lastMonthBy leap d m + 1) := by
  induction m with
  | zero => simpa [lastMonthBy] using h
  | succ m ih =>
    unfold lastMonthBy
    split
    · exact h
    · exact ih (by omega)

/-! ## Months on the line -/

theorem monthStart_succ (k : Nat) :
    monthStart (k + 1) = monthStart k + monthLength (leapAt (k / 12)) (k % 12) := by
  by_cases hlast : k % 12 = 11
  · -- After December comes the first month of the next year.
    have hdiv : (k + 1) / 12 = k / 12 + 1 := by omega
    have hmod : (k + 1) % 12 = 0 := by omega
    have hyear := daysBeforeMonth_twelve (leapAt (k / 12))
    simp only [daysBeforeMonth] at hyear
    simp only [monthStart, hdiv, hmod, hlast, daysBeforeMonth, yearStart_succ]
    simp only [leapAt, decide_eq_true_eq] at hyear ⊢
    omega
  · have hdiv : (k + 1) / 12 = k / 12 := by omega
    have hmod : (k + 1) % 12 = k % 12 + 1 := by omega
    simp only [monthStart, hdiv, hmod, daysBeforeMonth]
    omega

/-- A year starts with its first month. -/
theorem monthStart_twelve_mul (i : Nat) : monthStart (12 * i) = yearStart i := by
  simp [monthStart, daysBeforeMonth]

theorem monthStart_strictMono : StrictMono monthStart := by
  refine strictMono_nat_of_lt_succ fun k => ?_
  have hlength := monthLength_bounds (leapAt (k / 12)) (k % 12)
  rw [monthStart_succ]
  omega

theorem lt_monthStart_monthOf_succ (d : Nat) : d < monthStart (monthOf d + 1) := by
  have hle := yearStart_yearOf_le d
  have hlt := lt_yearStart_yearOf_succ d
  have hyear : d - yearStart (yearOf d) < daysBeforeMonth (leapAt (yearOf d)) (11 + 1) := by
    rw [daysBeforeMonth_twelve]
    rw [yearStart_succ] at hlt
    simp only [leapAt, decide_eq_true_eq]
    omega
  have hmonth := lt_daysBeforeMonth_lastMonthBy_succ hyear
  simp only [daysBeforeMonth] at hmonth
  rw [monthStart_succ]
  simp only [monthStart, monthOf_div, monthOf_mod]
  omega

theorem monthOf_eq_iff {d k : Nat} : monthOf d = k ↔ monthStart k ≤ d ∧ d < monthStart (k + 1) := by
  have hmonth := And.intro (monthStart_monthOf_le d) (lt_monthStart_monthOf_succ d)
  constructor
  · rintro rfl
    exact hmonth
  · exact fun hk => piece_unique monthStart_strictMono hmonth hk

/-- The number of leap days before a month, with the month and its year counted from 1. In
    January and February the leap day of the year itself is still ahead. -/
def leapDaysBefore (year : Int) (month : Nat) : Int :=
  leapYearsThrough (if month < 3 then year - 1 else year)

/-- The start of a month by the formula: 365 days for each year before it, the leap days before
    it, and the days of a common year before the month. -/
theorem monthStart_eq (k : Nat) :
    (monthStart k : Int) = 365 * (k / 12 : Nat) + leapDaysBefore ((k / 12 : Nat) + 1) (k % 12 + 1)
      + daysBeforeMonth false (k % 12) := by
  have hyear := yearStart_eq (k / 12)
  have hleap := leapYearsThrough_succ (k / 12 : Nat)
  unfold monthStart leapDaysBefore
  rw [daysBeforeMonth_eq]
  simp only [leapAt, decide_eq_true_eq]
  by_cases hearly : k % 12 + 1 < 3
  · have hbefore : ¬ 2 ≤ k % 12 := by omega
    simp only [hearly, hbefore, and_false, if_true, if_false, Int.add_sub_cancel]
    omega
  · have hafter : 2 ≤ k % 12 := by omega
    simp only [hearly, hafter, and_true, if_false]
    by_cases hthis : IsLeap ((k / 12 : Nat) + 1)
    · simp only [hthis, if_true] at hleap ⊢
      omega
    · simp only [hthis, if_false] at hleap ⊢
      omega

theorem monthStart_add_years (k n : Nat) :
    (monthStart (k + 12 * n) : Int) = monthStart k + 365 * n
      + leapDaysBefore ((k / 12 : Nat) + 1 + n) (k % 12 + 1)
      - leapDaysBefore ((k / 12 : Nat) + 1) (k % 12 + 1) := by
  have hdiv : (k + 12 * n) / 12 = k / 12 + n := by omega
  have hmod : (k + 12 * n) % 12 = k % 12 := by omega
  have hyear : ((k / 12 + n : Nat) : Int) + 1 = (k / 12 : Nat) + 1 + n := by omega
  rw [monthStart_eq, monthStart_eq k, hdiv, hmod, hyear]
  omega

/-! ## Dates -/

/-- The date of the day that lies `r` days after the start of month `k`. -/
theorem ofDay_monthStart_add {k r : Nat} (h : r < monthLength (leapAt (k / 12)) (k % 12)) :
    Date.ofDay (monthStart k + r) = ⟨k / 12 + 1, k % 12 + 1, r + 1⟩ := by
  have hmonth : monthOf (monthStart k + r) = k := by
    rw [monthOf_eq_iff, monthStart_succ]
    omega
  have hyear : yearOf (monthStart k + r) = k / 12 := by
    rw [← monthOf_div, hmonth]
  simp [Date.ofDay, hmonth, hyear]

theorem ofDay_monthStart (k : Nat) : Date.ofDay (monthStart k) = ⟨k / 12 + 1, k % 12 + 1, 1⟩ := by
  have hlength := monthLength_bounds (leapAt (k / 12)) (k % 12)
  exact ofDay_monthStart_add (k := k) (r := 0) (by omega)

end RelativeDate.Calendar
