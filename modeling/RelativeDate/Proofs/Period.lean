import RelativeDate.Period
import RelativeDate.Proofs.Instant

/-! # Periods tile the time line

The boundaries of a unit increase, so its periods follow one another without a gap and without
an overlap, and each instant lies in one of them. By the calendar, the start of a period is what
is left of an instant when the fields below the unit are reset, and the length of the period
comes from a table. The main statement says that starts and lengths found in this way fit
together. -/

namespace RelativeDate

open Calendar

/-! ## Boundaries -/

theorem FixedUnit.micros_pos (u : FixedUnit) : 0 < u.micros :=
  Nat.mul_pos (by decide) u.millis_pos

theorem FixedUnit.millis_dvd_of_lt {u v : FixedUnit} (h : v.millis < u.millis) :
    v.millis ∣ u.millis := by
  cases u <;> cases v <;> first | decide | exact absurd h (by decide)

namespace TimeUnit

variable {u : TimeUnit} {n k : Nat}

theorem boundary_strictMono (u : TimeUnit) : StrictMono u.boundary := by
  intro i j h
  cases u with
  | fixed u => exact Nat.mul_lt_mul_of_pos_right h u.micros_pos
  | month => exact Nat.mul_lt_mul_of_pos_right (monthStart_strictMono h) (by decide)
  | year => exact Nat.mul_lt_mul_of_pos_right (yearStart_strictMono h) (by decide)

/-- The period that `periodAt` finds is the one whose boundaries enclose the point. -/
theorem periodAt_eq_iff : u.periodAt n = k ↔ u.boundary k ≤ n ∧ n < u.boundary (k + 1) := by
  cases u with
  | fixed u =>
    have hbetween : n / u.micros = k ↔ k ≤ n / u.micros ∧ n / u.micros < k + 1 := by omega
    simp only [periodAt, boundary]
    rw [hbetween, Nat.le_div_iff_mul_le u.micros_pos, Nat.div_lt_iff_lt_mul u.micros_pos]
  | month =>
    simp only [periodAt, boundary]
    rw [monthOf_eq_iff, Nat.le_div_iff_mul_le (by decide), Nat.div_lt_iff_lt_mul (by decide)]
  | year =>
    simp only [periodAt, boundary]
    rw [yearOf_eq_iff, Nat.le_div_iff_mul_le (by decide), Nat.div_lt_iff_lt_mul (by decide)]

theorem lt_boundary_periodAt_succ (u : TimeUnit) (n : Nat) : n < u.boundary (u.periodAt n + 1) :=
  (periodAt_eq_iff.mp rfl).2

/-- A boundary belongs to the period that it starts. -/
@[simp] theorem periodAt_boundary (u : TimeUnit) (k : Nat) : u.periodAt (u.boundary k) = k :=
  periodAt_eq_iff.mpr ⟨Nat.le_refl _, u.boundary_strictMono k.lt_succ_self⟩

/-- Every boundary is a whole second. -/
theorem microsPerSecond_dvd_boundary (u : TimeUnit) (k : Nat) : microsPerSecond ∣ u.boundary k := by
  cases u with
  | fixed u =>
    have hunit : microsPerSecond ∣ u.micros := by cases u <;> decide
    exact Nat.dvd_mul_left_of_dvd hunit k
  | month => exact Nat.dvd_mul_left_of_dvd (by decide) _
  | year => exact Nat.dvd_mul_left_of_dvd (by decide) _

end TimeUnit

/-! ## The period of an instant -/

namespace Instant

variable {t s next : Instant} {u : TimeUnit}

theorem periodStart_micros (t : Instant) (u : TimeUnit) :
    (t.periodStart u).micros = u.boundary (u.periodAt t.micros) := rfl

/-- A period ends where the next one starts. -/
theorem periodStart_add_periodLength (t : Instant) (u : TimeUnit) :
    (t.periodStart u).micros + t.periodLength u = u.boundary (u.periodAt t.micros + 1) := by
  have hle := (u.boundary_strictMono (Nat.lt_succ_self (u.periodAt t.micros))).le
  rw [periodStart_micros, periodLength]
  exact Nat.add_sub_cancel' hle

theorem periodStart_le (t : Instant) (u : TimeUnit) : (t.periodStart u).micros ≤ t.micros :=
  u.boundary_periodAt_le _

theorem lt_periodStart_add_periodLength (t : Instant) (u : TimeUnit) :
    t.micros < (t.periodStart u).micros + t.periodLength u := by
  rw [periodStart_add_periodLength]
  exact u.lt_boundary_periodAt_succ _

/-- An instant lies in the period of another one exactly when it has the same period. -/
theorem mem_period_iff :
    (t.periodStart u).micros ≤ s.micros ∧ s.micros < (t.periodStart u).micros + t.periodLength u ↔
      s.periodStart u = t.periodStart u ∧ s.periodLength u = t.periodLength u := by
  constructor
  · intro h
    rw [periodStart_add_periodLength, periodStart_micros, ← TimeUnit.periodAt_eq_iff] at h
    exact ⟨Instant.ext (by rw [periodStart_micros, periodStart_micros, h]),
      by rw [periodLength, periodLength, h]⟩
  · rintro ⟨hstart, hlength⟩
    rw [← hstart, ← hlength]
    exact ⟨s.periodStart_le u, s.lt_periodStart_add_periodLength u⟩

/-- The boundaries are the starts of their own periods. -/
theorem periodStart_eq_self_iff : t.periodStart u = t ↔ ∃ k, t.micros = u.boundary k := by
  rw [Instant.ext_iff, periodStart_micros]
  constructor
  · exact fun h => ⟨_, h.symm⟩
  · rintro ⟨k, hk⟩
    rw [hk, TimeUnit.periodAt_boundary]

/-- The instant at the end of a period is the start of its own. -/
theorem periodStart_eq_self (h : next.micros = (t.periodStart u).micros + t.periodLength u) :
    next.periodStart u = next :=
  periodStart_eq_self_iff.mpr ⟨_, h.trans (t.periodStart_add_periodLength u)⟩

theorem nextPeriod?_eq_some_iff :
    t.nextPeriod? u = some next ↔ next.micros = (t.periodStart u).micros + t.periodLength u := by
  rw [nextPeriod?, addMicros?_eq_some_iff]
  omega

/-! ## Starts by the calendar -/

/-- The day of the week, from 0 for Monday to 6 for Sunday. -/
def weekday (t : Instant) : Nat :=
  t.dayNumber % 7

def IsMidnight (t : Instant) : Prop :=
  t.hour = 0 ∧ t.minute = 0 ∧ t.second = 0 ∧ t.subsecond = 0

/-- `s` is what is left of `t` when all fields below the unit are reset. Of a week, the Monday is
    left. -/
def IsStartOf (s t : Instant) : TimeUnit → Prop
  | .fixed .second => s.date = t.date ∧ s.hour = t.hour ∧ s.minute = t.minute ∧
      s.second = t.second ∧ s.subsecond = 0
  | .fixed .minute => s.date = t.date ∧ s.hour = t.hour ∧ s.minute = t.minute ∧
      s.second = 0 ∧ s.subsecond = 0
  | .fixed .hour => s.date = t.date ∧ s.hour = t.hour ∧ s.minute = 0 ∧
      s.second = 0 ∧ s.subsecond = 0
  | .fixed .day => s.date = t.date ∧ s.IsMidnight
  | .fixed .week => s.dayNumber + t.weekday = t.dayNumber ∧ s.weekday = 0 ∧ s.IsMidnight
  | .month => s.date = { t.date with day := 1 } ∧ s.IsMidnight
  | .year => s.date = { t.date with month := 1, day := 1 } ∧ s.IsMidnight

/-- The length of the period of `u` that holds `t`, by the table of units and the lengths of
    months and years. -/
def calendarLength (t : Instant) : TimeUnit → Nat
  | .fixed u => u.micros
  | .month => monthLength (decide (IsLeap t.year)) (t.month - 1) * microsPerDay
  | .year => (if IsLeap t.year then 366 else 365) * microsPerDay

theorem periodLength_eq_calendarLength (t : Instant) (u : TimeUnit) :
    t.periodLength u = t.calendarLength u := by
  cases u with
  | fixed u =>
    simp only [periodLength, calendarLength, TimeUnit.boundary]
    rw [Nat.add_mul, Nat.add_sub_cancel_left, Nat.one_mul]
  | month =>
    have hyear : leapAt (monthOf t.dayNumber / 12) = decide (IsLeap t.year) := by
      rw [monthOf_div]
      rfl
    have hmonth : monthOf t.dayNumber % 12 = t.month - 1 := by
      rw [month_eq, Nat.add_sub_cancel]
    simp only [periodLength, calendarLength, TimeUnit.boundary, TimeUnit.periodAt]
    rw [← Nat.sub_mul, monthStart_succ, Nat.add_sub_cancel_left, ← dayNumber, hyear, hmonth]
  | year =>
    simp only [periodLength, calendarLength, TimeUnit.boundary, TimeUnit.periodAt]
    rw [← Nat.sub_mul, yearStart_succ, Nat.add_sub_cancel_left]
    rfl

/-- What lies whole days after the origin is a midnight. -/
theorem dayNumber_eq_and_isMidnight {d : Nat} (h : s.micros = d * microsPerDay) :
    s.dayNumber = d ∧ s.IsMidnight := by
  rw [← Nat.add_zero (d * microsPerDay), micros_eq_iff (by decide)] at h
  obtain ⟨hday, htime⟩ := h
  refine ⟨hday, ?_, ?_, ?_, ?_⟩
  · rw [hour, htime, Nat.zero_div]
  · rw [minute, htime, Nat.zero_div, Nat.zero_mod]
  · rw [second, htime, Nat.zero_div, Nat.zero_mod]
  · rw [subsecond, htime, Nat.zero_mod]

theorem isStartOf_periodStart (t : Instant) (u : TimeUnit) : (t.periodStart u).IsStartOf t u := by
  have hmicros := t.periodStart_micros u
  cases u with
  | fixed u =>
    simp only [TimeUnit.boundary, TimeUnit.periodAt, FixedUnit.micros] at hmicros
    cases u with
    | second | minute | hour =>
      simp only [FixedUnit.millis] at hmicros
      refine ⟨congrArg Date.ofDay ?_, ?_, ?_, ?_, ?_⟩
      -- A multiple of the unit has the quotients and remainders of `t` above it, and none below.
      all_goals
        simp only [dayNumber, hour, minute, second, subsecond, timeOfDay, microsPerDay,
          microsPerHour, microsPerMinute, microsPerSecond]
        omega
    | day =>
      have hdays : (t.periodStart (.fixed .day)).micros = t.dayNumber * microsPerDay := hmicros
      obtain ⟨hday, hmidnight⟩ := dayNumber_eq_and_isMidnight hdays
      exact ⟨congrArg Date.ofDay hday, hmidnight⟩
    | week =>
      have hdays : (t.periodStart (.fixed .week)).micros =
          7 * (t.dayNumber / 7) * microsPerDay := by
        rw [hmicros]
        simp only [FixedUnit.millis, dayNumber, microsPerDay]
        omega
      obtain ⟨hday, hmidnight⟩ := dayNumber_eq_and_isMidnight hdays
      refine ⟨?_, ?_, hmidnight⟩
      · rw [hday, weekday]
        omega
      · rw [weekday, hday, Nat.mul_mod_right]
  | month =>
    have hdays : (t.periodStart .month).micros =
        monthStart (monthOf t.dayNumber) * microsPerDay := hmicros
    obtain ⟨hday, hmidnight⟩ := dayNumber_eq_and_isMidnight hdays
    refine ⟨?_, hmidnight⟩
    rw [date, hday, ofDay_monthStart, monthOf_div]
    rfl
  | year =>
    have hdays : (t.periodStart .year).micros =
        yearStart (yearOf t.dayNumber) * microsPerDay := hmicros
    obtain ⟨hday, hmidnight⟩ := dayNumber_eq_and_isMidnight hdays
    refine ⟨?_, hmidnight⟩
    rw [date, hday, ← monthStart_twelve_mul, ofDay_monthStart, Nat.mul_mod_right,
      Nat.mul_div_cancel_left _ (by decide)]
    rfl

/-! ## The partition -/

/-- For every unit, the period of an instant starts where the calendar says and is as long as the
    calendar says. It holds the instant, and it is the period of exactly the instants it holds.
    The instant at its end, if there is one, starts the next period. -/
theorem periods_partition (x y : Instant) (u : TimeUnit) :
    let start := x.periodStart u
    let length := x.periodLength u
    start.IsStartOf x u ∧ length = x.calendarLength u ∧
      start.micros ≤ x.micros ∧ x.micros < start.micros + length ∧
      (start.micros ≤ y.micros ∧ y.micros < start.micros + length ↔
        y.periodStart u = start ∧ y.periodLength u = length) ∧
      ∀ next : Instant, next.micros = start.micros + length →
        x.nextPeriod? u = some next ∧ next.periodStart u = next := by
  intro start length
  refine ⟨x.isStartOf_periodStart u, x.periodLength_eq_calendarLength u, x.periodStart_le u,
    x.lt_periodStart_add_periodLength u, mem_period_iff, ?_⟩
  intro next hnext
  exact ⟨nextPeriod?_eq_some_iff.mpr hnext, periodStart_eq_self hnext⟩

/-- The first week begins with the calendar, and the last month ends with it. -/
example :
    ((⟨3 * microsPerDay, by decide⟩ : Instant).periodStart (.fixed .week)).micros = 0 ∧
      (⟨(dayLimit - 1) * microsPerDay, by decide⟩ : Instant).nextPeriod? .month = none := by
  decide

end Instant

end RelativeDate
