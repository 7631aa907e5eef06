import RelativeDate.Calendar.Day

/-! # Instants

A point on the calendar of the years 1 to 9999, to the microsecond. An instant is the number
of microseconds since the first midnight of year 1, and the bound of the range is part of the
type: whatever would leave the range has no instant. Instants carry no time zone. -/

namespace RelativeDate

/-! ## Lengths in microseconds -/

def microsPerMilli : Nat := 1000
def microsPerSecond : Nat := 1000000
def microsPerMinute : Nat := 60000000
def microsPerHour : Nat := 3600000000
def microsPerDay : Nat := 86400000000

/-! ## The type -/

structure Instant where
  /-- Microseconds since the first midnight of year 1. -/
  micros : Nat
  micros_lt : micros < Calendar.dayLimit * microsPerDay
  deriving DecidableEq

namespace Instant

/-- The instant at `n` microseconds, if it lies in the years 1 to 9999. -/
def ofMicros? (n : Int) : Option Instant :=
  if h : 0 ≤ n ∧ n.toNat < Calendar.dayLimit * microsPerDay then some ⟨n.toNat, h.2⟩ else none

/-- Move by a number of microseconds in either direction. -/
def addMicros? (t : Instant) (n : Int) : Option Instant :=
  ofMicros? (t.micros + n)

/-- Move by a number of days in either direction. -/
def addDays? (t : Instant) (n : Int) : Option Instant :=
  t.addMicros? (n * microsPerDay)

/-- The last whole millisecond that is no later than `t`. -/
def floorMilli (t : Instant) : Instant where
  micros := t.micros / microsPerMilli * microsPerMilli
  micros_lt := Nat.lt_of_le_of_lt (Nat.div_mul_le_self _ _) t.micros_lt

/-! ## Fields -/

/-- The number of the day that holds `t`. -/
def dayNumber (t : Instant) : Nat :=
  t.micros / microsPerDay

/-- Microseconds since midnight. -/
def timeOfDay (t : Instant) : Nat :=
  t.micros % microsPerDay

def date (t : Instant) : Calendar.Date :=
  .ofDay t.dayNumber

def year (t : Instant) : Nat :=
  t.date.year

def month (t : Instant) : Nat :=
  t.date.month

def hour (t : Instant) : Nat :=
  t.timeOfDay / microsPerHour

def minute (t : Instant) : Nat :=
  t.timeOfDay / microsPerMinute % 60

def second (t : Instant) : Nat :=
  t.timeOfDay / microsPerSecond % 60

/-- Microseconds since the last whole second. -/
def subsecond (t : Instant) : Nat :=
  t.timeOfDay % microsPerSecond

@[simp] theorem dayNumber_mul_add_timeOfDay (t : Instant) :
    t.dayNumber * microsPerDay + t.timeOfDay = t.micros :=
  Nat.div_add_mod' _ _

end Instant

/-! ## From fields -/

/-- The first field, in the order of writing, that is outside its range. -/
inductive FieldError
  | year (value : Int)
  | month
  | day
  | hour
  | minute
  | second
  deriving DecidableEq, Repr

def FieldError.message : FieldError → String
  | .year value => s!"year {value} is out of range"
  | .month => "month must be in 1..12"
  | .day => "day is out of range for month"
  | .hour => "hour must be in 0..23"
  | .minute => "minute must be in 0..59"
  | .second => "second must be in 0..59"

/-- The number of the day with these fields. Each has to name a day that exists. -/
def Calendar.dayOfFields (year month day : Int) : Except FieldError Nat :=
  if ¬ (1 ≤ year ∧ year < Calendar.yearLimit) then .error (.year year)
  else if ¬ (1 ≤ month ∧ month ≤ 12) then .error .month
  else
    let k := 12 * (year.toNat - 1) + (month.toNat - 1)
    let length := Calendar.monthStart (k + 1) - Calendar.monthStart k
    if ¬ (1 ≤ day ∧ day ≤ length) then .error .day
    else .ok (Calendar.monthStart k + (day.toNat - 1))

/-- Microseconds since midnight for these fields. -/
def timeOfFields (hour minute second : Int) (subsecond : Nat) : Except FieldError Nat :=
  if ¬ (0 ≤ hour ∧ hour ≤ 23) then .error .hour
  else if ¬ (0 ≤ minute ∧ minute ≤ 59) then .error .minute
  else if ¬ (0 ≤ second ∧ second ≤ 59) then .error .second
  else .ok (hour.toNat * microsPerHour + minute.toNat * microsPerMinute
    + second.toNat * microsPerSecond + subsecond)

end RelativeDate
