import RelativeDate.Instant
import RelativeDate.TimeUnit

/-! # Periods and rounding

Each unit cuts the time line into periods: whole seconds, minutes and hours, days from
midnight, weeks from Monday, calendar months and years. The periods of a unit are numbered
from 0, and day 0 is a Monday, so that weeks are sevens of days from the origin.

Two functions describe a unit. `boundary` gives the start of a period, and `periodAt` finds the
period at a point. Rounding takes the nearer end of a period, and the later one from halfway
on. -/

namespace RelativeDate

namespace TimeUnit

/-- The start of period `k`, in microseconds since the origin. -/
def boundary : TimeUnit → Nat → Nat
  | .fixed u, k => k * u.micros
  | .month, k => Calendar.monthStart k * microsPerDay
  | .year, k => Calendar.yearStart k * microsPerDay

/-- The period that holds the point `n` microseconds after the origin. -/
def periodAt : TimeUnit → Nat → Nat
  | .fixed u, n => n / u.micros
  | .month, n => Calendar.monthOf (n / microsPerDay)
  | .year, n => Calendar.yearOf (n / microsPerDay)

theorem boundary_periodAt_le (u : TimeUnit) (n : Nat) : u.boundary (u.periodAt n) ≤ n := by
  have day := Nat.div_mul_le_self n microsPerDay
  cases u with
  | fixed u => exact Nat.div_mul_le_self n u.micros
  | month =>
    exact Nat.le_trans (Nat.mul_le_mul_right _ (Calendar.monthStart_monthOf_le _)) day
  | year =>
    exact Nat.le_trans (Nat.mul_le_mul_right _ (Calendar.yearStart_yearOf_le _)) day

end TimeUnit

namespace Instant

/-! ## The period of an instant -/

/-- The start of the period of `u` that holds `t`. -/
def periodStart (t : Instant) (u : TimeUnit) : Instant where
  micros := u.boundary (u.periodAt t.micros)
  micros_lt := Nat.lt_of_le_of_lt (u.boundary_periodAt_le _) t.micros_lt

/-- The length in microseconds of the period of `u` that holds `t`. -/
def periodLength (t : Instant) (u : TimeUnit) : Nat :=
  u.boundary (u.periodAt t.micros + 1) - u.boundary (u.periodAt t.micros)

/-- The start of the period after the one that holds `t`. The last period of the calendar has
    none after it. -/
def nextPeriod? (t : Instant) (u : TimeUnit) : Option Instant :=
  (t.periodStart u).addMicros? (t.periodLength u)

/-- Both ends of the period of `u` that holds `t`. -/
def bounds? (t : Instant) (u : TimeUnit) : Option (Instant × Instant) :=
  (t.nextPeriod? u).map fun upper => (t.periodStart u, upper)

/-! ## Rounding -/

/-- The nearer end of the period of `u` that holds `t`. Halfway goes to the later end. -/
def round? (t : Instant) (u : TimeUnit) : Option Instant :=
  let elapsed := t.micros - (t.periodStart u).micros
  if t.periodLength u ≤ 2 * elapsed then t.nextPeriod? u else some (t.periodStart u)

end Instant

end RelativeDate
