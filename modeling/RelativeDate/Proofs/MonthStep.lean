import RelativeDate.Proofs.Move

/-! # Steps of months by the calendar

The months of all years stand in one line, with twelve of them to a year. A step of months counts
along the line and keeps the day of the month. Where the month that it reaches is too short for
the day, the day runs over into the month after it. The first main statement says which date comes
out, and that a step fails only when it leaves the line of the years 1 to 9999. The second one says
when a step can be gone on from and taken back: when its day has not run over. -/

namespace RelativeDate

open Calendar

namespace Calendar

/-- The number of days of a month, with the year and the month counted from 1. -/
def daysIn (year month : Nat) : Nat :=
  monthLength (decide (IsLeap year)) (month - 1)

/-- The month `month` of the year `year` has the number `k`, where each year `y` begins with the
    number `12 * y`. -/
def IsMonthNumber (k : Int) (year month : Nat) : Prop :=
  1 ≤ month ∧ month ≤ 12 ∧ k = 12 * year + (month - 1)

instance (k : Int) (year month : Nat) : Decidable (IsMonthNumber k year month) :=
  inferInstanceAs (Decidable (_ ∧ _))

/-- The line of days counts its months from the first one of year 1. -/
theorem isMonthNumber_add_twelve {k year month : Nat} :
    IsMonthNumber (k + 12) year month ↔ year = k / 12 + 1 ∧ month = k % 12 + 1 := by
  unfold IsMonthNumber
  omega

theorem exists_isMonthNumber_iff {k : Int} :
    (∃ year month, 1 ≤ year ∧ year < yearLimit ∧ IsMonthNumber k year month) ↔
      12 ≤ k ∧ k < monthLimit + 12 := by
  rw [monthLimit_eq]
  constructor
  · rintro ⟨year, month, hpos, hlimit, hmonth⟩
    unfold IsMonthNumber at hmonth
    omega
  · rintro ⟨hle, hlt⟩
    refine ⟨(k / 12).toNat, (k % 12).toNat + 1, by omega, by omega, ?_⟩
    unfold IsMonthNumber
    omega

theorem daysIn_eq (k : Nat) :
    daysIn (k / 12 + 1) (k % 12 + 1) = monthLength (leapAt (k / 12)) (k % 12) := by
  rw [daysIn, leapAt, Nat.add_sub_cancel, Nat.cast_succ]

/-- A day that runs over the end of month `k` belongs to the next month. One month is always long
    enough to take up what another one lacks. -/
theorem ofDay_monthStart_add_of_le {k r : Nat} (hr : r < 31)
    (h : monthLength (leapAt (k / 12)) (k % 12) ≤ r) :
    Date.ofDay (monthStart k + r) =
      ⟨(k + 1) / 12 + 1, (k + 1) % 12 + 1, r + 1 - monthLength (leapAt (k / 12)) (k % 12)⟩ := by
  have hthis := monthLength_bounds (leapAt (k / 12)) (k % 12)
  have hnext := monthLength_bounds (leapAt ((k + 1) / 12)) ((k + 1) % 12)
  have hover : monthStart k + r =
      monthStart (k + 1) + (r - monthLength (leapAt (k / 12)) (k % 12)) := by
    rw [monthStart_succ]
    omega
  rw [hover, ofDay_monthStart_add (by omega), Nat.sub_add_comm h]

/-- A day belongs to the month it is counted from as long as it does not run over its end. -/
theorem monthOf_monthStart_add_iff {k r : Nat} :
    monthOf (monthStart k + r) = k ↔ r < monthLength (leapAt (k / 12)) (k % 12) := by
  rw [monthOf_eq_iff, monthStart_succ]
  omega

end Calendar

namespace Instant

/-- The number of the month of an instant, from its fields. -/
theorem isMonthNumber_monthOf (x : Instant) :
    IsMonthNumber (monthOf x.dayNumber + 12) x.year x.month := by
  rw [isMonthNumber_add_twelve, year_eq, month_eq, monthOf_div]
  exact ⟨rfl, rfl⟩

/-- A step by `n` months from a date leads to the month whose number is `n` more, and it succeeds
    exactly when this is a month of the years 1 to 9999. The result has the time of the start. It
    has the day of the start as well, if the month has that day. If not, it lies in the month
    after, and as many days into it as the first of the two months lacks. -/
theorem addMonths?_rollover (x : Instant) (n : Int) :
    let k : Int := 12 * x.year + (x.month - 1) + n
    ((∃ r, x.addMonths? n = some r) ↔
      ∃ year month, 1 ≤ year ∧ year < yearLimit ∧ IsMonthNumber k year month) ∧
    ∀ r year month, x.addMonths? n = some r → IsMonthNumber k year month →
      r.timeOfDay = x.timeOfDay ∧
      (x.date.day ≤ daysIn year month → r.date = ⟨year, month, x.date.day⟩) ∧
      (daysIn year month < x.date.day → ∃ year' month', IsMonthNumber (k + 1) year' month' ∧
        r.date = ⟨year', month', x.date.day - daysIn year month⟩) := by
  intro k
  have hstart := x.isMonthNumber_monthOf.2.2
  constructor
  · rw [exists_addMonths?_iff, exists_isMonthNumber_iff]
    omega
  · intro r year month hr hmonth
    obtain ⟨target, htarget, -, hday, htime⟩ := addMonths?_eq_some_iff.mp hr
    rw [show k = target + 12 by omega] at hmonth ⊢
    obtain ⟨rfl, rfl⟩ := isMonthNumber_add_twelve.mp hmonth
    have hdate : r.date = Date.ofDay (monthStart target + x.dayOffset) := congrArg Date.ofDay hday
    rw [hdate, daysIn_eq, date_eq x]
    refine ⟨htime, fun hfits => ofDay_monthStart_add hfits, fun hover => ?_⟩
    have hnext : ((target + 1 : Nat) : Int) + 12 = target + 12 + 1 := by omega
    refine ⟨(target + 1) / 12 + 1, (target + 1) % 12 + 1, ?_, ?_⟩
    · rw [← hnext, isMonthNumber_add_twelve]
      exact ⟨rfl, rfl⟩
    · exact ofDay_monthStart_add_of_le x.dayOffset_lt_thirtyOne (Nat.le_of_lt_succ hover)

/-- 31 January 2020 and a month is 2 March, as the leap month lacks two days. -/
example :
    let x : Instant := ⟨737454 * microsPerDay, by decide⟩
    (x.addMonths? 1).map date = some ⟨2020, 3, 2⟩ := by
  decide

/-! ## Two steps in a row -/

variable {x y : Instant} {n : Int} {year month : Nat}

@[simp] theorem addMonths?_zero (x : Instant) : x.addMonths? 0 = some x := by
  refine addMonths?_eq_some_iff.mpr
    ⟨monthOf x.dayNumber, by omega, x.monthOf_lt_monthLimit, ?_, rfl⟩
  exact x.monthStart_add_dayOffset.symm

/-- A step arrives in the month that it leads to if that month has the day of the start. -/
theorem monthOf_addMonths?_iff (hy : x.addMonths? n = some y)
    (hmonth : IsMonthNumber (12 * x.year + (x.month - 1) + n) year month) :
    (monthOf y.dayNumber : Int) = monthOf x.dayNumber + n ↔ x.date.day ≤ daysIn year month := by
  obtain ⟨target, htarget, -, hday, -⟩ := addMonths?_eq_some_iff.mp hy
  have hstart := x.isMonthNumber_monthOf.2.2
  rw [show (12 * x.year + (x.month - 1) + n : Int) = target + 12 by omega] at hmonth
  obtain ⟨rfl, rfl⟩ := isMonthNumber_add_twelve.mp hmonth
  rw [← htarget, Int.natCast_inj, hday, monthOf_monthStart_add_iff, daysIn_eq, date_eq]
  exact Nat.lt_iff_add_one_le

/-- From the month that it leads to, a step can be gone on from as if it had not been made. -/
theorem addMonths?_of_monthOf_eq (hy : x.addMonths? n = some y)
    (hmonth : (monthOf y.dayNumber : Int) = monthOf x.dayNumber + n) (b : Int) :
    y.addMonths? b = x.addMonths? (n + b) := by
  obtain ⟨target, htarget, -, hday, htime⟩ := addMonths?_eq_some_iff.mp hy
  have hoffset : y.dayOffset = x.dayOffset := by
    have hsplit := y.monthStart_add_dayOffset
    rw [show monthOf y.dayNumber = target by omega] at hsplit
    omega
  apply Option.ext
  intro s
  rw [addMonths?_eq_some_iff, addMonths?_eq_some_iff, hmonth, hoffset, htime, Int.add_assoc]

/-- A step is taken back by the step of as many months the other way, if it has arrived in the
    month that it leads to. Otherwise that step ends past the month of the start. -/
theorem addMonths?_neg_eq_some_iff (hy : x.addMonths? n = some y) :
    y.addMonths? (-n) = some x ↔ (monthOf y.dayNumber : Int) = monthOf x.dayNumber + n := by
  constructor
  · intro hback
    obtain ⟨target, htarget, -, hday, -⟩ := addMonths?_eq_some_iff.mp hy
    obtain ⟨origin, horigin, -, hback, -⟩ := addMonths?_eq_some_iff.mp hback
    have hreached : target < monthOf y.dayNumber + 1 := by
      rw [← monthStart_strictMono.lt_iff_lt]
      have hlt := lt_monthStart_monthOf_succ y.dayNumber
      omega
    have hleft : origin < monthOf x.dayNumber + 1 := by
      rw [← monthStart_strictMono.lt_iff_lt]
      have hlt := lt_monthStart_monthOf_succ x.dayNumber
      omega
    omega
  · intro hmonth
    rw [addMonths?_of_monthOf_eq hy hmonth, Int.add_right_neg, addMonths?_zero]

/-- If the month that a step of months leads to has the day of the start, every further step leads
    from there to where both steps together lead from the start, and fails where they fail. And
    the step is taken back by the step of as many months the other way exactly in this case. -/
theorem addMonths?_addMonths? (hy : x.addMonths? n = some y)
    (hmonth : IsMonthNumber (12 * x.year + (x.month - 1) + n) year month) :
    (x.date.day ≤ daysIn year month → ∀ b, y.addMonths? b = x.addMonths? (n + b)) ∧
    (y.addMonths? (-n) = some x ↔ x.date.day ≤ daysIn year month) := by
  rw [addMonths?_neg_eq_some_iff hy, ← monthOf_addMonths?_iff hy hmonth]
  exact ⟨addMonths?_of_monthOf_eq hy, Iff.rfl⟩

/-- From 31 January 2020, two months lead to 31 March, and one month back from there to 2 March,
    where one month leads from January, too. But one month back from 2 March is 2 February. -/
theorem addMonths?_addMonths?_january_2020 :
    let x : Instant := ⟨737454 * microsPerDay, by decide⟩
    let march : Instant := ⟨737514 * microsPerDay, by decide⟩
    let second : Instant := ⟨737485 * microsPerDay, by decide⟩
    (x.addMonths? 2 = some march ∧ march.addMonths? (-1) = some second ∧
      march.addMonths? (-2) = some x) ∧
    x.addMonths? 1 = some second ∧ second.addMonths? (-1) ≠ some x := by
  intro x march second
  have hmarch : x.addMonths? 2 = some march := by decide
  have hsecond : x.addMonths? 1 = some second := by decide
  have hlong := @addMonths?_addMonths? x march 2 2020 3 hmarch (by decide)
  have hshort := @addMonths?_addMonths? x second 1 2020 2 hsecond (by decide)
  have hon : march.addMonths? (-1) = x.addMonths? 1 := hlong.1 (by decide) (-1)
  refine ⟨⟨hmarch, hon.trans hsecond, hlong.2.mpr (by decide)⟩, hsecond, ?_⟩
  rw [Ne, hshort.2]
  decide

end Instant

end RelativeDate
