import RelativeDate.Proofs.YearStep

/-! # Larger and smaller steps

A step that can be made can be made in part: every smaller amount of the same unit leads to an
instant on the way. This is plain for the units of fixed length, and for months it is so because
their starts are in order. For years it holds because the leap correction is never negative and
grows with the amount, although it counts the leap years up to a nominal date that falls behind. -/

namespace RelativeDate.Instant

open Calendar

variable {t s nominal : Instant} {dir : Direction} {n₁ n₂ : Nat}

/-! ## Instants on the way -/

/-- Going from `t` to `s` in a direction, `r` is passed before `s`. It may be `t` itself. -/
def IsOnWay (dir : Direction) (t r s : Instant) : Prop :=
  dir.sign * t.micros ≤ dir.sign * r.micros ∧ dir.sign * r.micros < dir.sign * s.micros

/-- Between the days of two instants with the same time of the day, each day holds an instant with
    this time that lies on the way. -/
theorem exists_day_between {day : Int} (htime : s.timeOfDay = t.timeOfDay)
    (hstart : dir.sign * t.dayNumber ≤ dir.sign * day)
    (hend : dir.sign * day < dir.sign * s.dayNumber) :
    ∃ r : Instant, (r.dayNumber : Int) = day ∧ r.timeOfDay = t.timeOfDay ∧ IsOnWay dir t r s := by
  have htsplit := t.dayNumber_mul_add_timeOfDay
  have hssplit := s.dayNumber_mul_add_timeOfDay
  have hrange := Direction.range_of_between t.dayNumber_lt s.dayNumber_lt hstart hend.le
  obtain ⟨r, hrday, hrtime⟩ :=
    exists_day_time (show day.toNat < dayLimit by omega) t.timeOfDay_lt
  have hrsplit := r.dayNumber_mul_add_timeOfDay
  unfold microsPerDay at htsplit hssplit hrsplit
  refine ⟨r, by omega, hrtime, ?_⟩
  unfold IsOnWay
  cases dir with
  | forward =>
    simp only [Direction.sign_forward] at hstart hend ⊢
    omega
  | backward =>
    simp only [Direction.sign_backward] at hstart hend ⊢
    omega

/-! ## Units of fixed length and months -/

theorem exists_move?_fixed_between {u : FixedUnit} (h : n₁ < n₂)
    (hs : t.move? dir (.fixed u) n₂ = some s) :
    ∃ r, t.move? dir (.fixed u) n₁ = some r ∧ IsOnWay dir t r s := by
  have hunit : 0 < u.micros := Nat.mul_pos (by decide) u.millis_pos
  have hpos : 0 < (n₂ - n₁) * u.micros := Nat.mul_pos (by omega) hunit
  have hsplit : n₁ * u.micros + (n₂ - n₁) * u.micros = n₂ * u.micros := by
    rw [← Nat.add_mul, Nat.add_sub_cancel' h.le]
  rw [move?_fixed_eq_some_iff, Int.mul_assoc, ← Int.natCast_mul, ← hsplit] at hs
  obtain ⟨r, hr, hrest⟩ := exists_between hs
  refine ⟨r, ?_, ?_⟩
  · rw [move?_fixed_eq_some_iff, Int.mul_assoc, ← Int.natCast_mul]
    exact hr
  · rw [IsOnWay, hrest, mul_add, hr, mul_add, Direction.sign_mul_sign_mul,
      Direction.sign_mul_sign_mul]
    omega

theorem exists_move?_month_between (h : n₁ < n₂) (hs : t.move? dir .month n₂ = some s) :
    ∃ r, t.move? dir .month n₁ = some r ∧ IsOnWay dir t r s := by
  obtain ⟨target, htarget, hlimit, hday, htime⟩ := addMonths?_eq_some_iff.mp hs
  -- The months stand in one line, so the smaller amount leads to one before the target.
  obtain ⟨middle, hmiddle, hmlimit, hstart, hend⟩ : ∃ middle : Nat,
      (middle : Int) = monthOf t.dayNumber + dir.sign * n₁ ∧ middle < monthLimit ∧
        dir.sign * monthStart (monthOf t.dayNumber) ≤ dir.sign * monthStart middle ∧
        dir.sign * monthStart middle < dir.sign * monthStart target := by
    cases dir with
    | forward =>
      simp only [Direction.sign_forward, one_mul] at htarget ⊢
      refine ⟨monthOf t.dayNumber + n₁, by omega, by omega, ?_, ?_⟩
      · exact_mod_cast monthStart_strictMono.monotone (by omega)
      · exact_mod_cast monthStart_strictMono (by omega)
    | backward =>
      have hmonth := monthOf_lt_monthLimit t
      simp only [Direction.sign_backward] at htarget ⊢
      refine ⟨monthOf t.dayNumber - n₁, by omega, by omega, ?_, ?_⟩
      · have hle := monthStart_strictMono.monotone (Nat.sub_le (monthOf t.dayNumber) n₁)
        omega
      · have hlt := monthStart_strictMono (show target < monthOf t.dayNumber - n₁ by omega)
        omega
  -- All three days have the same offset from the starts of their months.
  have hfrom : dir.sign * t.dayNumber ≤ dir.sign * (monthStart middle + t.dayOffset : Nat) := by
    rw [← t.monthStart_add_dayOffset, Nat.cast_add, Nat.cast_add, mul_add, mul_add]
    omega
  have hto : dir.sign * (monthStart middle + t.dayOffset : Nat) < dir.sign * s.dayNumber := by
    rw [hday, Nat.cast_add, Nat.cast_add, mul_add, mul_add]
    omega
  obtain ⟨r, hrday, hrtime, hbetween⟩ := exists_day_between htime hfrom hto
  have hrday' : r.dayNumber = monthStart middle + t.dayOffset := Int.ofNat_inj.mp hrday
  exact ⟨r, addMonths?_eq_some_iff.mpr ⟨middle, hmiddle, hmlimit, hrday', hrtime⟩, hbetween⟩

/-! ## Years -/

/-- The leap days that a correction counts grow in the direction of the step. -/
theorem leapDaysCounted_mono {y₁ y₂ : Int} (h : dir.sign * y₁ ≤ dir.sign * y₂) :
    dir.sign * leapDaysCounted dir y₁ ≤ dir.sign * leapDaysCounted dir y₂ := by
  cases dir with
  | forward =>
    simp only [Direction.sign_forward, one_mul] at h ⊢
    exact leapYearsThrough_mono h
  | backward =>
    simp only [Direction.sign_backward] at h ⊢
    have hmono := leapYearsThrough_mono (show y₂ - 1 ≤ y₁ - 1 by omega)
    simp only [leapDaysCounted]
    omega

/-- A correction never leads back, not even within the year of the start. -/
theorem leapDaysBefore_le_leapDaysCounted (dir : Direction) (year : Int) (month : Nat) :
    dir.sign * leapDaysBefore year month ≤ dir.sign * leapDaysCounted dir year := by
  have hbounds := leapDaysBefore_bounds year month
  cases dir with
  | forward =>
    simp only [Direction.sign_forward, leapDaysCounted]
    omega
  | backward =>
    simp only [Direction.sign_backward, leapDaysCounted]
    omega

/-- The nominal date of a smaller amount lies between the start and the one of a larger amount. -/
theorem exists_nominal_between (h : n₁ < n₂)
    (hnominal : t.addDays? (dir.sign * (365 * n₂)) = some nominal) :
    ∃ middle, t.addDays? (dir.sign * (365 * n₁)) = some middle ∧
      middle.addDays? (dir.sign * (365 * (n₂ - n₁ : Nat))) = some nominal := by
  obtain ⟨hday, htime⟩ := addDays?_eq_some_iff.mp hnominal
  have hrange := @Direction.range_of_between dir _ _ _ (t.dayNumber + dir.sign * (365 * n₁))
    t.dayNumber_lt nominal.dayNumber_lt (by rw [mul_add, Direction.sign_mul_sign_mul]; omega)
    (by simp only [hday, mul_add, Direction.sign_mul_sign_mul]; omega)
  obtain ⟨middle, hmiddle⟩ := exists_addDays?_iff.mpr hrange
  obtain ⟨hmday, hmtime⟩ := addDays?_eq_some_iff.mp hmiddle
  refine ⟨middle, hmiddle, addDays?_eq_some_iff.mpr ⟨?_, htime.trans hmtime.symm⟩⟩
  rw [hday, hmday, Int.ofNat_sub h.le]
  ring

theorem exists_move?_year_between (h : n₁ < n₂) (hs : t.move? dir .year n₂ = some s) :
    ∃ r, t.move? dir .year n₁ = some r ∧ IsOnWay dir t r s := by
  obtain ⟨nominal, hnominal, hday, htime⟩ := move?_year_eq_some_iff.mp hs
  obtain ⟨middle, hmiddle, hrest⟩ := exists_nominal_between h hnominal
  have hgrows := leapDaysCounted_mono (nominalYear_bounds hrest).1
  have hnonneg := Int.le_trans (leapDaysBefore_le_leapDaysCounted dir t.year t.month)
    (leapDaysCounted_mono (nominalYear_bounds hmiddle).1)
  -- `day` is where the smaller amount leads, if it is a day of the calendar.
  obtain ⟨day, hmday⟩ : ∃ day : Int, day = t.dayNumber + dir.sign * (365 * n₁)
      + leapDaysCounted dir middle.year - leapDaysBefore t.year t.month := ⟨_, rfl⟩
  have hfrom : dir.sign * t.dayNumber ≤ dir.sign * day := by
    rw [hmday, mul_sub, mul_add, mul_add, Direction.sign_mul_sign_mul]
    omega
  have hto : dir.sign * day < dir.sign * s.dayNumber := by
    rw [hmday, hday]
    simp only [mul_sub, mul_add, Direction.sign_mul_sign_mul]
    omega
  obtain ⟨r, hrday, hrtime, hbetween⟩ := exists_day_between htime hfrom hto
  exact ⟨r, move?_year_eq_some_iff.mpr ⟨middle, hmiddle, hrday.trans hmday, hrtime⟩, hbetween⟩

/-! ## All units -/

/-- A smaller amount of the same unit leads to an instant on the way. -/
theorem exists_move?_between {u : TimeUnit} (h : n₁ < n₂) (hs : t.move? dir u n₂ = some s) :
    ∃ r, t.move? dir u n₁ = some r ∧ IsOnWay dir t r s := by
  cases u with
  | fixed u => exact exists_move?_fixed_between h hs
  | month => exact exists_move?_month_between h hs
  | year => exact exists_move?_year_between h hs

/-- Of two amounts of a unit, the smaller one can be stepped wherever the larger one can. It never
    leads to the other side of the start, and always to this side of where the larger one leads. -/
theorem move?_strictMono (x : Instant) (u : TimeUnit) {n₁ n₂ : Nat} (h : n₁ < n₂) :
    (∀ s₂, x.move? .forward u n₂ = some s₂ → ∃ s₁, x.move? .forward u n₁ = some s₁ ∧
      x.micros ≤ s₁.micros ∧ s₁.micros < s₂.micros) ∧
    (∀ s₂, x.move? .backward u n₂ = some s₂ → ∃ s₁, x.move? .backward u n₁ = some s₁ ∧
      s₁.micros ≤ x.micros ∧ s₂.micros < s₁.micros) := by
  constructor
  · intro s₂ hs
    obtain ⟨s₁, hs₁, hstart, hend⟩ := exists_move?_between h hs
    simp only [Direction.sign_forward] at hstart hend
    exact ⟨s₁, hs₁, by omega, by omega⟩
  · intro s₂ hs
    obtain ⟨s₁, hs₁, hstart, hend⟩ := exists_move?_between h hs
    simp only [Direction.sign_backward] at hstart hend
    exact ⟨s₁, hs₁, by omega, by omega⟩

/-- From 15 January 2020, two years forward lead to 15 January 2022, and no year at all already
    leads a day forward. From 1 May 2020, two years back lead to 1 May 2018, and no year at all
    leads a day back. -/
theorem move?_strictMono_2020 :
    let january : Instant := ⟨737438 * microsPerDay, by decide⟩
    let may : Instant := ⟨737545 * microsPerDay, by decide⟩
    (∃ s₁ s₂, january.move? .forward .year 0 = some s₁ ∧ january.move? .forward .year 2 = some s₂ ∧
      january.micros ≤ s₁.micros ∧ s₁.micros < s₂.micros) ∧
    ∃ s₁ s₂, may.move? .backward .year 0 = some s₁ ∧ may.move? .backward .year 2 = some s₂ ∧
      s₁.micros ≤ may.micros ∧ s₂.micros < s₁.micros := by
  intro january may
  have hforward : january.move? .forward .year (2 : Nat) =
      some ⟨738169 * microsPerDay, by decide⟩ := by decide
  have hbackward : may.move? .backward .year (2 : Nat) =
      some ⟨736814 * microsPerDay, by decide⟩ := by decide
  obtain ⟨s₁, hs₁, hle, hlt⟩ := (move?_strictMono january .year (show 0 < 2 by decide)).1 _ hforward
  obtain ⟨r₁, hr₁, hge, hgt⟩ := (move?_strictMono may .year (show 0 < 2 by decide)).2 _ hbackward
  exact ⟨⟨s₁, _, hs₁, hforward, hle, hlt⟩, r₁, _, hr₁, hbackward, hge, hgt⟩

end RelativeDate.Instant
