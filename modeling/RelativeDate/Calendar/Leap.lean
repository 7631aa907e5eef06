/-! # Leap years

The Gregorian rule for leap years, and how many of them a range of years holds. Years are
integers here: the rule and the count go on past year 1 in both directions. -/

namespace RelativeDate.Calendar

/-- Four divides a leap year. Of the full centuries only every fourth is one. -/
def IsLeap (y : Int) : Prop :=
  y % 4 = 0 ∧ (y % 100 ≠ 0 ∨ y % 400 = 0)

instance (y : Int) : Decidable (IsLeap y) :=
  inferInstanceAs (Decidable (_ ∧ _))

/-- The number of leap years from year 1 up to and including `y`. Below year 1 it counts
    downwards, so that a difference of two values is the count between them everywhere. -/
def leapYearsThrough (y : Int) : Int :=
  y / 4 - y / 100 + y / 400

/-- The number of leap years between two years, both included, in either order. -/
def leapYearsBetween (a b : Int) : Int :=
  leapYearsThrough (max a b) - leapYearsThrough (min a b - 1)

theorem leapYearsThrough_succ (y : Int) :
    leapYearsThrough (y + 1) = leapYearsThrough y + if IsLeap (y + 1) then 1 else 0 := by
  by_cases h : IsLeap (y + 1)
  · simp only [if_pos h, leapYearsThrough]
    unfold IsLeap at h
    omega
  · simp only [if_neg h, leapYearsThrough]
    unfold IsLeap at h
    omega

theorem leapYearsBetween_comm (a b : Int) : leapYearsBetween a b = leapYearsBetween b a := by
  simp only [leapYearsBetween, Int.max_comm a b, Int.min_comm a b]

end RelativeDate.Calendar
