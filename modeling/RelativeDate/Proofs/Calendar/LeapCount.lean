import Mathlib.Data.Nat.Count
import RelativeDate.Calendar.Leap

/-! # Counting leap years

The number of leap years in a range, once as a count over the years of the range and once by
the formula of `leapYearsThrough`. The two agree on all ranges of integers. Bounds on the count
over short ranges and over the years 1 to 9999 follow. -/

namespace RelativeDate.Calendar

/-- The number of leap years from `a` to `b`, both included. An empty range has none. -/
def leapYearCount (a b : Int) : Nat :=
  Nat.count (fun i => IsLeap (a + i)) (b + 1 - a).toNat

/-! ## The count by the formula -/

/-- A leap year counts for one. -/
theorem leapYearsThrough_eq_pred (y : Int) :
    leapYearsThrough y = leapYearsThrough (y - 1) + if IsLeap y then 1 else 0 := by
  have hsucc := leapYearsThrough_succ (y - 1)
  rwa [Int.sub_add_cancel] at hsucc

/-- The leap years among the `n` years that start with `a`. -/
theorem count_isLeap_eq_sub (a : Int) (n : Nat) :
    (Nat.count (fun i => IsLeap (a + i)) n : Int) =
      leapYearsThrough (a + n - 1) - leapYearsThrough (a - 1) := by
  induction n with
  | zero => simp
  | succ n ih =>
    have hlast := leapYearsThrough_eq_pred (a + n)
    have hyear : a + (n + 1 : Nat) - 1 = a + n := by omega
    rw [Nat.count_succ, hyear, Int.natCast_add, ih, hlast]
    split
    · rw [Int.natCast_one]
      omega
    · rw [Int.natCast_zero]
      omega

theorem leapYearCount_eq_sub {a b : Int} (h : a ≤ b + 1) :
    (leapYearCount a b : Int) = leapYearsThrough b - leapYearsThrough (a - 1) := by
  rw [leapYearCount, count_isLeap_eq_sub, Int.toNat_of_nonneg (by omega)]
  congr 2
  omega

theorem leapYearsBetween_of_le {a b : Int} (h : a ≤ b) :
    leapYearsBetween a b = leapYearsThrough b - leapYearsThrough (a - 1) := by
  rw [leapYearsBetween, Int.max_eq_right h, Int.min_eq_left h]

/-! ## Bounds -/

theorem leapYearsThrough_mono {a b : Int} (h : a ≤ b) :
    leapYearsThrough a ≤ leapYearsThrough b := by
  have hcount := @leapYearCount_eq_sub (a + 1) b (by omega)
  rw [Int.add_sub_cancel] at hcount
  omega

/-- Seven years in a row hold two leap years at most. -/
theorem leapYearsThrough_le_add_two {a b : Int} (h : b ≤ a + 7) :
    leapYearsThrough b ≤ leapYearsThrough a + 2 := by
  refine Int.le_trans (leapYearsThrough_mono h) ?_
  unfold leapYearsThrough
  omega

theorem leapYearsThrough_zero : leapYearsThrough 0 = 0 := rfl

/-- The years 1 to 9999 hold 2424 leap years. -/
theorem leapYearsThrough_lt_limit {y : Int} (h : y < 10000) : leapYearsThrough y ≤ 2424 :=
  leapYearsThrough_mono (show y ≤ 9999 by omega)

end RelativeDate.Calendar
