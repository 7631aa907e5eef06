import Mathlib
import RelativeDate.Proofs.Calendar.LeapCount

/-! # The leap years between two years

The formula for the number of leap years takes two years in either order, and of any sign. It gives
the size of the set of leap years between them, both ends included. -/

namespace RelativeDate.Calendar

theorem isLeap_iff (y : Int) : IsLeap y ↔ (4 ∣ y ∧ ¬ 100 ∣ y) ∨ 400 ∣ y := by
  unfold IsLeap
  omega

/-- The count over a range is the number of leap years in the set of its years. -/
theorem card_filter_isLeap (a b : Int) :
    ((Finset.Icc a b).filter IsLeap).card = leapYearCount a b := by
  rw [leapYearCount, Nat.count_eq_card_filter_range, Int.Icc_eq_finset_map, Finset.filter_map,
    Finset.card_map]
  rfl

theorem leapYearsBetween_eq_leapYearCount (a b : Int) :
    leapYearsBetween a b = leapYearCount (min a b) (max a b) := by
  have hle : min a b ≤ max a b := Int.le_trans (Int.min_le_left a b) (Int.le_max_left a b)
  rw [leapYearCount_eq_sub (Int.le_trans hle (Int.le_add_one (Int.le_refl _))), leapYearsBetween]

theorem leapYearsBetween_append {a b c : Int} (hab : a ≤ b) (hbc : b < c) :
    leapYearsBetween a c = leapYearsBetween a b + leapYearsBetween (b + 1) c := by
  rw [leapYearsBetween_of_le hab, leapYearsBetween_of_le (show b + 1 ≤ c from hbc),
    leapYearsBetween_of_le (show a ≤ c by omega), Int.add_sub_cancel]
  omega

/-- Between two years of any sign, and in either order, the formula counts the leap years of the
    Gregorian rule, both ends included. So the order does not matter, and the counts of two ranges
    that follow one another add up. -/
theorem leapYearsBetween_counts (a b : Int) :
    (∀ y, IsLeap y ↔ (4 ∣ y ∧ ¬ 100 ∣ y) ∨ 400 ∣ y) ∧
    leapYearsBetween a b = ((Finset.Icc (min a b) (max a b)).filter IsLeap).card ∧
    leapYearsBetween a b = leapYearsBetween b a ∧
    ∀ c, a ≤ b → b < c →
      leapYearsBetween a c = leapYearsBetween a b + leapYearsBetween (b + 1) c := by
  refine ⟨isLeap_iff, ?_, leapYearsBetween_comm a b, fun c => leapYearsBetween_append⟩
  rw [card_filter_isLeap, leapYearsBetween_eq_leapYearCount]

/-- From the year -100 to the year 100, neither of which is a leap year, there are 49 of them, and
    the year 0 is one. -/
theorem leapYearsBetween_counts_year_zero :
    leapYearsBetween (-100) (-1) = 24 ∧
      leapYearsBetween (-100) 100 = leapYearsBetween (-100) (-1) + leapYearsBetween 0 100 ∧
      leapYearsBetween 100 (-100) = 49 := by
  obtain ⟨-, -, -, hsplit⟩ := leapYearsBetween_counts (-100) (-1)
  exact ⟨by decide, hsplit 100 (by decide) (by decide), by decide⟩

end RelativeDate.Calendar
