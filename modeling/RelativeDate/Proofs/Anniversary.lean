import RelativeDate.Proofs.Evaluator
import RelativeDate.Proofs.Move

/-! # Anniversaries

The anniversary of an instant in another year has its month, its day and its time. A step of one
year is meant to lead there. The main statement says where it leads indeed, from any day but a
leap day: to the anniversary, or one day past it when the year arrived in is a leap year whose
leap day is still ahead in the direction of the step. -/

namespace RelativeDate

open Calendar

namespace Instant

variable {t s nominal : Instant} {n : Nat} {dir : Direction}

/-- `s` lies in the year `year` and has the month, the day and the time of `t`. -/
def IsAnniversary (t s : Instant) (year : Nat) : Prop :=
  s.date = { t.date with year } ∧ s.timeOfDay = t.timeOfDay

instance (t s : Instant) (year : Nat) : Decidable (t.IsAnniversary s year) :=
  inferInstanceAs (Decidable (_ ∧ _))

def IsLeapDay (t : Instant) : Prop :=
  t.date.month = 2 ∧ t.date.day = 29

instance (t : Instant) : Decidable t.IsLeapDay :=
  inferInstanceAs (Decidable (_ ∧ _))

/-- Every year has a month for a day that is no leap day. -/
theorem dayOffset_lt_of_not_isLeapDay (h : ¬ t.IsLeapDay) (leap : Bool) :
    t.dayOffset < monthLength leap (monthOf t.dayNumber % 12) := by
  have hlt := t.dayOffset_lt
  have hfebruary : monthLength false 1 = 28 := rfl
  rw [monthLength_eq] at hlt ⊢
  by_cases hmonth : monthOf t.dayNumber % 12 = 1
  -- In February the offset is below 28, since the day 29 is ruled out.
  · have hday : t.dayOffset + 1 ≠ 29 := fun heq => h ⟨by rw [date_eq, month_eq, hmonth], heq⟩
    rw [hmonth, hfebruary] at hlt ⊢
    split at hlt <;> omega
  · simp only [hmonth, and_false, if_false] at hlt ⊢
    exact hlt

/-- A step of months that makes whole years leads to the anniversary, except from a leap day. -/
theorem isAnniversary_of_addMonths? (h : t.addMonths? (dir.sign * (12 * n)) = some s)
    (hleap : ¬ t.IsLeapDay) {year : Nat} (hyear : (year : Int) = t.year + dir.sign * n) :
    t.IsAnniversary s year := by
  obtain ⟨target, htarget, -, hday, htime⟩ := addMonths?_eq_some_iff.mp h
  rw [year_eq, ← monthOf_div] at hyear
  have hfields : target % 12 = monthOf t.dayNumber % 12 ∧ target / 12 + 1 = year := by
    cases dir with
    | forward =>
      simp only [Direction.sign_forward] at htarget hyear
      omega
    | backward =>
      simp only [Direction.sign_backward] at htarget hyear
      omega
  have hoffset : t.dayOffset < monthLength (leapAt (target / 12)) (target % 12) := by
    rw [hfields.1]
    exact dayOffset_lt_of_not_isLeapDay hleap _
  refine ⟨?_, htime⟩
  rw [date, hday, ofDay_monthStart_add hoffset, hfields.1, hfields.2, date_eq, month_eq]

/-! ## Steps of one year -/

/-- How many days a step of one year ends past the anniversary. -/
def yearSlip (dir : Direction) (month : Nat) (year : Int) : Int :=
  match dir with
  | .forward => if month < 3 ∧ IsLeap year then 1 else 0
  | .backward => if 2 < month ∧ IsLeap year then -1 else 0

/-- A nominal year stays within its year only in a leap year, and the years beside it are none. -/
theorem not_isLeap_of_nominalYear_eq (h : t.addDays? (dir.sign * (365 * (1 : Nat))) = some nominal)
    (hyear : nominal.year = t.year) : ¬ IsLeap (t.year + dir.sign) := by
  have hday := (addDays?_eq_some_iff.mp h).1
  have hfirst := t.dayNumber_bounds
  have hlast := nominal.dayNumber_bounds
  have hlength := t.yearStart_year
  rw [hyear] at hlast
  -- A year of 365 days is too short for two dates that are 365 days apart.
  have hleap : IsLeap t.year := by
    by_contra hcommon
    rw [if_neg hcommon] at hlength
    cases dir <;> simp only [Direction.sign_forward, Direction.sign_backward] at hday <;> omega
  unfold IsLeap at hleap ⊢
  cases dir <;> simp only [Direction.sign_forward, Direction.sign_backward] <;> omega

/-- A correction up to the year arrived in makes up for the leap days before that year and month,
    but for the slip. -/
theorem leapDaysCounted_sub_self (dir : Direction) (year : Int) (month : Nat) :
    leapDaysCounted dir year - leapDaysBefore year month = yearSlip dir month year := by
  have hleap := leapYearsThrough_eq_pred year
  unfold leapDaysCounted leapDaysBefore yearSlip
  cases dir with
  | forward =>
    by_cases hmonth : month < 3
    · simp only [hmonth, true_and, if_true]
      omega
    · simp [hmonth]
  | backward =>
    by_cases hmonth : month < 3
    · have hearly : ¬ 2 < month := by omega
      simp [hmonth, hearly]
    · have hlate : 2 < month := by omega
      simp only [hmonth, hlate, true_and, if_false]
      split at hleap <;> simp_all

/-- The correction of one nominal year makes up for the leap days on the way, but for the slip. -/
theorem leapDaysCounted_sub_leapDaysBefore
    (h : t.addDays? (dir.sign * (365 * (1 : Nat))) = some nominal) :
    leapDaysCounted dir nominal.year - leapDaysBefore (t.year + dir.sign) t.month =
      yearSlip dir t.month (t.year + dir.sign) := by
  have hbounds := nominalYear_bounds h
  by_cases hyear : nominal.year = t.year
  · -- The year arrived in is none that slips, and no leap day lies between it and the nominal one.
    have hcommon := not_isLeap_of_nominalYear_eq h hyear
    have hleap := leapYearsThrough_eq_pred (t.year + dir.sign)
    rw [if_neg hcommon, Int.add_zero] at hleap
    unfold leapDaysCounted leapDaysBefore yearSlip
    cases dir with
    | forward =>
      simp only [Direction.sign_forward, Int.add_sub_cancel] at hcommon hleap ⊢
      simp only [hcommon, hyear, and_false, if_false]
      split <;> omega
    | backward =>
      simp only [Direction.sign_backward, ← Int.sub_eq_add_neg] at hcommon hleap ⊢
      simp only [hcommon, hyear, and_false, if_false]
      split <;> omega
  · have harrived : (nominal.year : Int) = t.year + dir.sign := by
      cases dir with
      | forward =>
        simp only [Direction.sign_forward, one_mul] at hbounds ⊢
        omega
      | backward =>
        simp only [Direction.sign_backward] at hbounds ⊢
        omega
    rw [harrived, leapDaysCounted_sub_self]

theorem exists_nominal_of_one_year {year : Nat} (hyear : (year : Int) = t.year + dir.sign)
    (hpos : 1 ≤ year) (hlimit : year < yearLimit) :
    ∃ nominal, t.addDays? (dir.sign * (365 * (1 : Nat))) = some nominal := by
  have hday := t.dayNumber_bounds
  have hlast := dayLimit_eq
  rw [exists_addDays?_iff]
  cases dir with
  | forward =>
    simp only [Direction.sign_forward] at hyear ⊢
    have hlength := yearStart_succ t.year
    have hle := yearStart_strictMono.monotone (show t.year + 1 ≤ yearLimit - 1 by omega)
    split at hlength <;> omega
  | backward =>
    simp only [Direction.sign_backward] at hyear ⊢
    have hlength := yearStart_succ (t.year - 2)
    rw [show t.year - 2 + 1 = t.year - 1 by omega] at hlength
    have hlt := t.dayNumber_lt
    split at hlength <;> omega

/-- The slip never leaves the calendar, since neither its first nor its last year is a leap year. -/
theorem exists_addDays?_yearSlip {same : Instant} {month : Nat} :
    ∃ s, same.addDays? (yearSlip dir month same.year) = some s := by
  have hday := same.dayNumber_bounds
  have hlimit := same.year_lt
  have hlt := same.dayNumber_lt
  rw [exists_addDays?_iff]
  unfold yearSlip
  cases dir with
  | forward =>
    dsimp only
    split
    · rename_i hslip
      have hyear : same.year ≤ yearLimit - 2 := by
        have hleap := hslip.2
        unfold IsLeap at hleap
        unfold yearLimit at *
        omega
      have hle := yearStart_strictMono.monotone hyear
      have hlast : yearStart (yearLimit - 2) < dayLimit := by decide
      omega
    · omega
  | backward =>
    dsimp only
    split
    · rename_i hslip
      have hyear : 1 ≤ same.year - 1 := by
        have hleap := hslip.2
        have hpos := same.year_pos
        unfold IsLeap at hleap
        omega
      have hle := yearStart_strictMono.monotone hyear
      have hfirst : yearStart 1 = 365 := rfl
      omega
    · omega

/-- A step of one year leads to the anniversary, or misses it by the slip. -/
theorem exists_move?_one_year (dir : Direction) (hleap : ¬ t.IsLeapDay) {year : Nat}
    (hyear : (year : Int) = t.year + dir.sign) (hpos : 1 ≤ year) (hlimit : year < yearLimit) :
    ∃ same s, t.IsAnniversary same year ∧ same.addDays? (yearSlip dir t.month year) = some s ∧
      t.move? dir .year 1 = some s := by
  obtain ⟨nominal, hnominal⟩ := exists_nominal_of_one_year hyear hpos hlimit
  have hmonths : ∃ same, t.addMonths? (dir.sign * (12 * (1 : Nat))) = some same := by
    rw [year_eq, ← monthOf_div] at hyear
    rw [exists_addMonths?_iff, monthLimit_eq]
    unfold yearLimit at *
    cases dir <;> simp only [Direction.sign_forward, Direction.sign_backward] at * <;> omega
  obtain ⟨same, hsame⟩ := hmonths
  have hcast : (year : Int) = t.year + dir.sign * (1 : Nat) := by
    rw [hyear, Nat.cast_one, mul_one]
  have hanniversary := isAnniversary_of_addMonths? hsame hleap hcast
  have hsameYear : same.year = year := congrArg Date.year hanniversary.1
  obtain ⟨s, hs⟩ := @exists_addDays?_yearSlip dir same t.month
  rw [hsameYear] at hs
  refine ⟨same, s, hanniversary, hs, ?_⟩
  -- Both dates are counted from the start: the anniversary by months, the step by its correction.
  obtain ⟨hday, htime⟩ := addDays?_eq_some_iff.mp hs
  have hsameDay := dayNumber_addMonths?_years hsame
  have hslip := leapDaysCounted_sub_leapDaysBefore hnominal
  rw [Nat.cast_one, mul_one, mul_one, ← hyear] at hsameDay
  rw [← hyear] at hslip
  refine move?_year_eq_some_iff.mpr ⟨nominal, hnominal, ?_, htime.trans hanniversary.2⟩
  rw [Nat.cast_one, mul_one]
  omega

end Instant

/-! ## Expressions of one year -/

/-- The answer for a step of one year, as far as the step succeeds. -/
theorem outcome_evaluate_one_year {c : Evaluator} {n : Nat} {x s : Instant} {dir : Direction}
    {expression : String} (hexpression : expression = expressionText [.move dir .year 1])
    (hx : (c.anchor.run n).1 = .ok x) (hs : x.move? dir .year 1 = some s) :
    ((c.evaluate (.text expression)).run n).1.outcome = .ok (c.present s) := by
  subst hexpression
  have hops : ∀ op ∈ [Operation.move dir .year 1], op.Writable := by
    simpa using Operation.writable_move (show 1 < dayLimit * microsPerDay by decide) dir .year
  exact Evaluator.outcome_evaluate_expressionText hx hops (by simp)
    (Option.bind_eq_some_iff.mpr ⟨s, hs, rfl⟩)

/-- An expression of one year leads to the anniversary only if its step does. -/
theorem exists_isAnniversary_iff {c : Evaluator} {n year : Nat} {x s : Instant} {dir : Direction}
    {expression : String} (hexpression : expression = expressionText [.move dir .year 1])
    (hx : (c.anchor.run n).1 = .ok x) (hs : x.move? dir .year 1 = some s) :
    (∃ r, x.IsAnniversary r year ∧
      ((c.evaluate (.text expression)).run n).1.outcome = .ok (c.present r)) ↔
      x.IsAnniversary s year := by
  rw [outcome_evaluate_one_year hexpression hx hs]
  constructor
  · rintro ⟨r, hr, hsame⟩
    rwa [c.present_injective (Except.ok.inj hsame)]
  · intro hsame
    exact ⟨s, hsame, rfl⟩

/-- From any day but a leap day, `now+1y` is the anniversary in the next year, or the day after
    it when the anchor lies in January or February and the next year is a leap year. In the same
    way `now-1y` is the anniversary in the year before, or the day before it when the anchor lies
    in March or later and the year before is a leap year. -/
theorem evaluate_one_year {c : Evaluator} {n : Nat} {x : Instant}
    (hx : (c.anchor.run n).1 = .ok x) (hleap : ¬ x.IsLeapDay) :
    (x.year + 1 ≤ 9999 → ∃ same s, x.IsAnniversary same (x.year + 1) ∧
      same.addDays? (if x.month < 3 ∧ IsLeap (x.year + 1) then 1 else 0) = some s ∧
      ((c.evaluate (.text "now+1y")).run n).1.outcome = .ok (c.present s)) ∧
    (1 ≤ x.year - 1 → ∃ same s, x.IsAnniversary same (x.year - 1) ∧
      same.addDays? (if 2 < x.month ∧ IsLeap (x.year - 1) then -1 else 0) = some s ∧
      ((c.evaluate (.text "now-1y")).run n).1.outcome = .ok (c.present s)) := by
  constructor
  · intro hyear
    obtain ⟨same, s, hsame, hslip, hs⟩ := Instant.exists_move?_one_year .forward hleap
      (show ((x.year + 1 : Nat) : Int) = x.year + 1 by omega) (by omega)
      (show x.year + 1 < 10000 by omega)
    exact ⟨same, s, hsame, hslip, outcome_evaluate_one_year (by decide) hx hs⟩
  · intro hyear
    have hcast : ((x.year - 1 : Nat) : Int) = x.year - 1 := by omega
    obtain ⟨same, s, hsame, hslip, hs⟩ := Instant.exists_move?_one_year .backward hleap
      hcast hyear (by have := x.year_lt; omega)
    rw [hcast] at hslip
    exact ⟨same, s, hsame, hslip, outcome_evaluate_one_year (by decide) hx hs⟩

/-- From 15 January 2019, `now+1y` is the day after the anniversary in the leap year 2020. -/
theorem evaluate_one_year_january_2019 :
    let x : Instant := ⟨737073 * microsPerDay, by decide⟩
    let c := Evaluator.shared (.still (.dateTime (.bare x)))
    (c.anchor.run 0).1 = .ok x ∧ ¬ x.IsLeapDay ∧ ∃ same s, x.IsAnniversary same 2020 ∧
      same.addDays? 1 = some s ∧
      ((c.evaluate (.text "now+1y")).run 0).1.outcome = .ok (c.present s) := by
  intro x c
  have hx : (c.anchor.run 0).1 = .ok x := Evaluator.anchor_shared_still (by decide)
  have hleap : ¬ x.IsLeapDay := by decide
  obtain ⟨same, s, hsame, hslip, hs⟩ := (evaluate_one_year hx hleap).1 (by decide)
  rw [if_pos (by decide)] at hslip
  rw [show x.year + 1 = 2020 by decide] at hsame
  exact ⟨hx, hleap, same, s, hsame, hslip, hs⟩

/-- A step of one year does not always lead to the anniversary, neither forward, as from
    15 January 2019, nor back, as from 1 May 2021. -/
theorem one_year_misses_anniversary :
    (¬ ∀ (c : Evaluator) (n : Nat) (x : Instant), (c.anchor.run n).1 = .ok x → ¬ x.IsLeapDay →
      x.year + 1 ≤ 9999 → ∃ s, x.IsAnniversary s (x.year + 1) ∧
        ((c.evaluate (.text "now+1y")).run n).1.outcome = .ok (c.present s)) ∧
    (¬ ∀ (c : Evaluator) (n : Nat) (x : Instant), (c.anchor.run n).1 = .ok x → ¬ x.IsLeapDay →
      1 ≤ x.year - 1 → ∃ s, x.IsAnniversary s (x.year - 1) ∧
        ((c.evaluate (.text "now-1y")).run n).1.outcome = .ok (c.present s)) := by
  constructor
  · intro h
    let x : Instant := ⟨737073 * microsPerDay, by decide⟩
    have hx : ((Evaluator.shared (.still (.dateTime (.bare x)))).anchor.run 0).1 = .ok x :=
      Evaluator.anchor_shared_still (by decide)
    have hs : x.move? .forward .year 1 = some ⟨737439 * microsPerDay, by decide⟩ := by decide
    have hsame := h _ 0 x hx (by decide) (by decide)
    rw [exists_isAnniversary_iff (by decide) hx hs] at hsame
    exact absurd hsame (by decide)
  · intro h
    let x : Instant := ⟨737910 * microsPerDay, by decide⟩
    have hx : ((Evaluator.shared (.still (.dateTime (.bare x)))).anchor.run 0).1 = .ok x :=
      Evaluator.anchor_shared_still (by decide)
    have hs : x.move? .backward .year 1 = some ⟨737544 * microsPerDay, by decide⟩ := by decide
    have hsame := h _ 0 x hx (by decide) (by decide)
    rw [exists_isAnniversary_iff (by decide) hx hs] at hsame
    exact absurd hsame (by decide)

end RelativeDate
