import RelativeDate.Calendar.Leap

/-! # The line of days

Days are numbered from 0, which is the Monday 1 January of year 1. Years and months are
numbered from 0 as well: year `i` of this module is the calendar year `i + 1`, and month `k`
is the month `k % 12` of year `k / 12`.

For years and for months there is a function that gives the first day of one, and a function
that finds the one that holds a day. The main statements say that each finder answers the
last year or month that starts no later than the day. -/

namespace RelativeDate.Calendar

/-! ## Years -/

/-- The first day of year `i`. -/
def yearStart (i : Nat) : Nat :=
  365 * i + i / 4 - i / 100 + i / 400

/-- The year that holds day `d`. Four centuries have 146097 days, and the year that this
    average predicts is right or one too early. -/
def yearOf (d : Nat) : Nat :=
  let i := 400 * d / 146097
  if yearStart (i + 1) ≤ d then i + 1 else i

theorem yearStart_eq (i : Nat) : (yearStart i : Int) = 365 * i + leapYearsThrough i := by
  unfold yearStart leapYearsThrough
  omega

theorem yearStart_succ (i : Nat) :
    yearStart (i + 1) = yearStart i + if IsLeap (i + 1) then 366 else 365 := by
  have hthis := yearStart_eq i
  have hnext := yearStart_eq (i + 1)
  have hstep := leapYearsThrough_succ i
  push_cast at hnext
  split at hstep <;> simp_all <;> omega

theorem yearStart_yearOf_le (d : Nat) : yearStart (yearOf d) ≤ d := by
  unfold yearOf
  simp only
  split
  · assumption
  · unfold yearStart
    omega

theorem lt_yearStart_yearOf_succ (d : Nat) : d < yearStart (yearOf d + 1) := by
  unfold yearOf
  simp only
  split
  · unfold yearStart
    omega
  · omega

/-! ## Months within a year

Months of a year are numbered from 0 here, too. -/

/-- The number of days of month `m` of a year. -/
def monthLength (leap : Bool) : Nat → Nat
  | 1 => if leap then 29 else 28
  | 3 | 5 | 8 | 10 => 30
  | _ => 31

/-- The number of days of a year that lie before its month `m`. -/
def daysBeforeMonth (leap : Bool) : Nat → Nat
  | 0 => 0
  | m + 1 => daysBeforeMonth leap m + monthLength leap m

/-- The last month up to month `m` that starts no later than day `d` of its year. -/
def lastMonthBy (leap : Bool) (d : Nat) : Nat → Nat
  | 0 => 0
  | m + 1 => if daysBeforeMonth leap (m + 1) ≤ d then m + 1 else lastMonthBy leap d m

theorem daysBeforeMonth_lastMonthBy_le (leap : Bool) (d m : Nat) :
    daysBeforeMonth leap (lastMonthBy leap d m) ≤ d := by
  induction m with
  | zero => simp [lastMonthBy, daysBeforeMonth]
  | succ m ih =>
    unfold lastMonthBy
    split
    · assumption
    · exact ih

theorem lastMonthBy_le (leap : Bool) (d m : Nat) : lastMonthBy leap d m ≤ m := by
  induction m with
  | zero => simp [lastMonthBy]
  | succ m ih =>
    unfold lastMonthBy
    split <;> omega

/-! ## Months on the line -/

/-- Whether year `i` is a leap year. -/
def leapAt (i : Nat) : Bool :=
  decide (IsLeap (i + 1))

/-- The first day of month `k`. -/
def monthStart (k : Nat) : Nat :=
  yearStart (k / 12) + daysBeforeMonth (leapAt (k / 12)) (k % 12)

/-- The month that holds day `d`. -/
def monthOf (d : Nat) : Nat :=
  let i := yearOf d
  12 * i + lastMonthBy (leapAt i) (d - yearStart i) 11

theorem monthOf_div (d : Nat) : monthOf d / 12 = yearOf d := by
  have := lastMonthBy_le (leapAt (yearOf d)) (d - yearStart (yearOf d)) 11
  simp only [monthOf]
  omega

theorem monthOf_mod (d : Nat) :
    monthOf d % 12 = lastMonthBy (leapAt (yearOf d)) (d - yearStart (yearOf d)) 11 := by
  have := lastMonthBy_le (leapAt (yearOf d)) (d - yearStart (yearOf d)) 11
  simp only [monthOf]
  omega

theorem monthStart_monthOf_le (d : Nat) : monthStart (monthOf d) ≤ d := by
  have hyear := yearStart_yearOf_le d
  have hmonth := daysBeforeMonth_lastMonthBy_le (leapAt (yearOf d)) (d - yearStart (yearOf d)) 11
  simp only [monthStart, monthOf_div, monthOf_mod]
  omega

/-! ## Dates -/

/-- A day written as year, month and day of the month, each counted from 1. -/
structure Date where
  year : Nat
  month : Nat
  day : Nat
  deriving DecidableEq, Repr

/-- The date of day `d`. -/
def Date.ofDay (d : Nat) : Date where
  year := yearOf d + 1
  month := monthOf d % 12 + 1
  day := d - monthStart (monthOf d) + 1

/-- The first year past the calendar's range: years 1 to 9999 are covered. -/
def yearLimit : Nat := 10000

/-- The number of days of the years 1 to 9999. -/
def dayLimit : Nat := 3652059

/-- The number of months of the years 1 to 9999. -/
def monthLimit : Nat := 119988

theorem dayLimit_eq : dayLimit = yearStart (yearLimit - 1) := rfl

theorem monthLimit_eq : monthLimit = 12 * (yearLimit - 1) := rfl

end RelativeDate.Calendar
