import RelativeDate.Instant
import RelativeDate.TimeUnit

/-! # Steps in time

A step moves an instant by an amount of one unit. Units of fixed length add up. Months move
the month field and keep the day of the month, which may run over into the following month.
Years count 365 days each, and a correction then adds the leap days on the way. -/

namespace RelativeDate

/-- The way a step leads. -/
inductive Direction
  | forward
  | backward
  deriving DecidableEq, Repr

namespace Direction

def symbol : Direction → Char
  | .forward => '+'
  | .backward => '-'

def sign : Direction → Int
  | .forward => 1
  | .backward => -1

@[simp] theorem sign_forward : sign .forward = 1 := rfl
@[simp] theorem sign_backward : sign .backward = -1 := rfl

@[simp] theorem sign_mul_sign_mul (dir : Direction) (n : Int) : dir.sign * (dir.sign * n) = n := by
  cases dir <;> simp

/-- What lies between two points of a range is in the range, whichever way it is passed. -/
theorem range_of_between {dir : Direction} {a b limit : Nat} {p : Int} (ha : a < limit)
    (hb : b < limit) (hstart : dir.sign * a ≤ dir.sign * p) (hend : dir.sign * p ≤ dir.sign * b) :
    0 ≤ p ∧ p < limit := by
  cases dir with
  | forward =>
    simp only [sign_forward] at hstart hend
    omega
  | backward =>
    simp only [sign_backward] at hstart hend
    omega

end Direction

namespace Instant

/-! ## Months -/

/-- Move by `n` months. The offset from the start of the month stays the same, so a day that
    the new month lacks runs over into the month after it. -/
def addMonths? (t : Instant) (n : Int) : Option Instant :=
  let k := Calendar.monthOf t.dayNumber
  let target : Int := k + n
  if 0 ≤ target ∧ target < Calendar.monthLimit then
    let offset := t.micros - Calendar.monthStart k * microsPerDay
    ofMicros? (Calendar.monthStart target.toNat * microsPerDay + offset)
  else none

/-! ## Years -/

/-- How many leap days a step by nominal years from `origin` to `nominal` has missed. Every
    leap year from the one to the other counts, both included. A leap year at the origin does
    not count when its leap day is not on the way: from March on when going forward, and up to
    February when going back. -/
def missedLeapDays (origin nominal : Instant) (dir : Direction) : Int :=
  let years := Calendar.leapYearsBetween origin.year nominal.year
  let offTheWay : Bool := match dir with
    | .forward => decide (2 < origin.month)
    | .backward => decide (origin.month < 3)
  if Calendar.IsLeap origin.year ∧ offTheWay then years - 1 else years

/-- Correct a step by nominal years for the leap days it has missed. -/
def restoreLeapDays? (origin nominal : Instant) (dir : Direction) : Option Instant :=
  nominal.addDays? (dir.sign * missedLeapDays origin nominal dir)

/-- Move by `n` years of 365 days. -/
def addNominalYears? (t : Instant) (n : Int) : Option Instant :=
  t.addDays? (365 * n)

/-! ## All units -/

/-- Move by `amount` units in direction `dir`. A negative amount turns the step round, and the
    leap correction still follows the direction. -/
def move? (t : Instant) (dir : Direction) (u : TimeUnit) (amount : Int) : Option Instant :=
  let n := dir.sign * amount
  match u with
  | .fixed u => t.addMicros? (n * u.micros)
  | .month => t.addMonths? n
  | .year => (t.addNominalYears? n).bind fun nominal => restoreLeapDays? t nominal dir

end Instant

end RelativeDate
