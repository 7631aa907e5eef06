import RelativeDate.Proofs.Anniversary
import RelativeDate.Proofs.Concatenation
import RelativeDate.Proofs.MonthStep

/-! # Steps by nothing

A step by no unit at all stays where it is, and can be left out of an expression. Years are the
exception, because their leap correction counts a leap year even if its leap day is not passed.
A step by no year leads one day off, towards the leap day of the year, if that day lies ahead. -/

namespace RelativeDate

open Calendar Operation Token

variable {dir : Direction} {u : TimeUnit}

namespace Instant

variable {x : Instant}

/-- The year of an instant has a leap day, which lies ahead in the direction of a step: forward it
    does so in January and February, and backward from March on. -/
def LeapDayAhead (x : Instant) : Direction → Prop
  | .forward => IsLeap x.year ∧ x.month < 3
  | .backward => IsLeap x.year ∧ 2 < x.month

instance (x : Instant) (dir : Direction) : Decidable (x.LeapDayAhead dir) :=
  match dir with
  | .forward => inferInstanceAs (Decidable (_ ∧ _))
  | .backward => inferInstanceAs (Decidable (_ ∧ _))

theorem yearSlip_eq (x : Instant) (dir : Direction) :
    yearSlip dir x.month x.year = if x.LeapDayAhead dir then dir.sign else 0 := by
  cases dir with
  | forward => simp [yearSlip, LeapDayAhead, and_comm]
  | backward => simp [yearSlip, LeapDayAhead, and_comm]

/-- A step by no year is its leap correction. -/
theorem move?_year_zero (x : Instant) (dir : Direction) :
    x.move? dir .year 0 = x.addDays? (if x.LeapDayAhead dir then dir.sign else 0) := by
  have hcorrection := leapDaysCounted_sub_self dir x.year x.month
  apply Option.ext
  intro s
  rw [← yearSlip_eq, ← hcorrection, addDays?_eq_some_iff, ← Nat.cast_zero, move?_year_eq_some_iff]
  simp only [Nat.cast_zero, mul_zero, add_zero, addDays?_zero, Option.some_inj, exists_eq_left',
    Int.add_sub_assoc]

theorem exists_move?_year_zero (x : Instant) (dir : Direction) :
    ∃ s, x.addDays? (if x.LeapDayAhead dir then dir.sign else 0) = some s ∧
      x.move? dir .year 0 = some s := by
  obtain ⟨s, hs⟩ := @exists_addDays?_yearSlip dir x x.month
  rw [yearSlip_eq] at hs
  exact ⟨s, hs, (move?_year_zero x dir).trans hs⟩

/-- A step by nothing stays where it is, unless it is one of years towards a leap day. -/
theorem move?_zero (hyear : u = .year → ¬ x.LeapDayAhead dir) : x.move? dir u 0 = some x := by
  cases u with
  | fixed u =>
    rw [move?_fixed_eq_some_iff]
    simp
  | month =>
    rw [move?, mul_zero]
    exact x.addMonths?_zero
  | year =>
    rw [move?_year_zero, if_neg (hyear rfl), addDays?_zero]

end Instant

/-! ## Expressions -/

theorem writable_move_zero (dir : Direction) (u : TimeUnit) : (move dir u 0).Writable :=
  writable_move (n := 0) (by decide) dir u

/-- Behind steps that lead to an instant, a step by nothing makes a difference only if it is one
    of years and a leap day lies ahead of that instant. -/
theorem follow?_append_zero {steps : List Token} {a : Instant}
    (hyear : u = .year → ∀ x, follow? steps a = some x → ¬ x.LeapDayAhead dir) :
    follow? (steps ++ [(move dir u 0).chars]) a = follow? steps a := by
  have hzero (x : Instant) : follow? [(move dir u 0).chars] x = x.move? dir u 0 := by
    have hops : ∀ op ∈ [move dir u 0], op.Writable := by simpa using writable_move_zero dir u
    rw [← List.map_singleton, follow?_map_chars hops, runAll?_cons]
    exact Option.bind_fun_some _
  rw [follow?_append]
  cases hsteps : follow? steps a with
  | none => rfl
  | some x =>
    rw [Option.bind_some, hzero]
    exact Instant.move?_zero fun hu => hyear hu x hsteps

theorem toList_append_zero {s : String} {steps : List Token} (h : s.toList = steps.flatten) :
    (s ++ (move dir u 0).text).toList = (steps ++ [(move dir u 0).chars]).flatten := by
  rw [String.toList_append, h, Operation.text, String.toList_ofList, List.flatten_append,
    List.flatten_singleton]

/-- A step by nothing stays where it is if it is none of years. A step by no year always succeeds,
    and it leads one day off if a leap day lies ahead. Behind any steps of an expression, and in
    front of any text, a step by nothing makes no difference to the outcome. Only for one of years
    it is required that the steps before it do not lead to an instant with a leap day ahead. -/
theorem Evaluator.evaluate_zero_step (c : Evaluator) (n : Nat) :
    let outcome (rest : String) := ((c.evaluate (.text ("now" ++ rest))).run n).1.outcome
    (∀ (x : Instant) (dir : Direction) (u : TimeUnit), u ≠ .year → x.move? dir u 0 = some x) ∧
    (∀ (x : Instant) (dir : Direction), ∃ s,
      x.addDays? (if x.LeapDayAhead dir then dir.sign else 0) = some s ∧
        x.move? dir .year 0 = some s) ∧
    ∀ (dir : Direction) (u : TimeUnit) (s₁ s₂ : String) (steps : List Token),
      (∀ t ∈ steps, IsStep t) → s₁.toList = steps.flatten →
      (u = .year → ∀ x, outcome s₁ = .ok (c.present x) → ¬ x.LeapDayAhead dir) →
      outcome (s₁ ++ (move dir u 0).text ++ s₂) = (outcome (s₁ ++ s₂)).mapError
        (.about ("now" ++ (s₁ ++ (move dir u 0).text ++ s₂))) := by
  intro outcome
  refine ⟨?_, ?_, ?_⟩
  · exact fun x dir u hu => Instant.move?_zero fun hyear => absurd hyear hu
  · exact Instant.exists_move?_year_zero
  · intro dir u s₁ s₂ steps hsteps h₁ hyear
    cases ha : (c.anchor.run n).1 with
    | error cause =>
      simp only [outcome, evaluate_of_anchor_error ha]
      rfl
    | ok a =>
      have hvalue : ∀ rest, outcome rest = _ := fun rest => outcome_evaluate_text ha ("now" ++ rest)
      have hall : ∀ t ∈ steps ++ [(move dir u 0).chars], IsStep t := by
        simpa [or_imp, forall_and] using ⟨hsteps, isStep_chars (writable_move_zero dir u) trivial⟩
      -- What the steps lead to is the value of the expression that ends behind them.
      have hsame := @follow?_append_zero dir u steps a fun hu x hx => hyear hu x <| by
        rw [hvalue, outcome_evaluate_steps hsteps h₁, hx]
        rfl
      rw [hvalue, hvalue,
        outcome_evaluate_append_congr hsteps h₁ hall (toList_append_zero h₁) hsame]
      cases (RelativeDate.evaluate ("now" ++ (s₁ ++ s₂)) a).outcome <;> rfl

/-- From 31 January 2020 a month leads to 2 March, past the leap day. There a year step by nothing
    makes no difference, and the whole is rounded to the start of the day. -/
theorem Evaluator.evaluate_zero_step_march_2020 :
    let january : Instant := ⟨737454 * microsPerDay + 6 * microsPerHour, by decide⟩
    let march : Instant := ⟨737485 * microsPerDay + 6 * microsPerHour, by decide⟩
    let c := Evaluator.shared (.still (.dateTime (.bare january)))
    let outcome (rest : String) := ((c.evaluate (.text ("now" ++ rest))).run 0).1.outcome
    outcome "+1M" = .ok (c.present march) ∧ ¬ march.LeapDayAhead .forward ∧
      outcome "+1M+0y/d" = .ok (.utc ⟨737485 * microsPerDay, by decide⟩) := by
  intro january march c outcome
  have ha : (c.anchor.run 0).1 = .ok january := anchor_shared_still (by decide)
  have hmonth : (move .forward .month (1 : Nat)).Writable := writable_move (by decide) _ _
  have hmarch : outcome "+1M" = .ok (c.present march) :=
    @outcome_evaluate_expressionText c 0 january [.move .forward .month 1] march ha
      (by simpa using hmonth) (by simp) (by decide)
  have hround : outcome "+1M/d" = .ok (.utc ⟨737485 * microsPerDay, by decide⟩) :=
    @outcome_evaluate_expressionText c 0 january [.move .forward .month 1, .round (.fixed .day)]
      ⟨737485 * microsPerDay, by decide⟩ ha (by simpa using ⟨hmonth, trivial⟩)
      (by simp [IsMove]) (by decide)
  have hahead : ¬ march.LeapDayAhead .forward := by decide
  refine ⟨hmarch, hahead, ?_⟩
  have hsame := (evaluate_zero_step c 0).2.2 .forward .year "+1M" "/d"
    [(move .forward .month (1 : Nat)).chars] (by simpa using isStep_chars hmonth trivial)
    (by decide) ?_
  · exact hsame.trans (congrArg (Except.mapError _) hround)
  · intro _ x hx
    rwa [c.present_injective (Except.ok.inj (hx.symm.trans hmarch))]

/-- A step by no year does not always stay where it is, neither forward, as from 15 January 2020,
    nor back, as from 1 May 2020. So `now+0y` is not always what `now` is. -/
theorem zero_year_step_leads_off :
    (¬ ∀ (x : Instant) (u : TimeUnit), x.move? .forward u 0 = some x) ∧
    (¬ ∀ (x : Instant) (u : TimeUnit), x.move? .backward u 0 = some x) ∧
    ¬ ∀ (c : Evaluator) (n : Nat) (d : DateTime),
      ((c.evaluate (.text "now")).run n).1.outcome = .ok d →
        ((c.evaluate (.text "now+0y")).run n).1.outcome = .ok d := by
  let january : Instant := ⟨737438 * microsPerDay, by decide⟩
  let sixteenth : Instant := ⟨737439 * microsPerDay, by decide⟩
  let may : Instant := ⟨737545 * microsPerDay, by decide⟩
  refine ⟨?_, ?_, ?_⟩
  · exact fun h => absurd (h january .year) (by decide)
  · exact fun h => absurd (h may .year) (by decide)
  · intro h
    let c := Evaluator.shared (.still (.dateTime (.bare january)))
    have ha : (c.anchor.run 0).1 = .ok january := Evaluator.anchor_shared_still (by decide)
    have hyear : (move .forward .year 0).Writable := writable_move_zero .forward .year
    have hoff : ((c.evaluate (.text "now+0y")).run 0).1.outcome = .ok (c.present sixteenth) :=
      @Evaluator.outcome_evaluate_expressionText c 0 january [.move .forward .year 0] sixteenth ha
        (by simpa using hyear) (by simp) (by decide)
    have hstay := h c 0 (c.present january) (Evaluator.outcome_evaluate_text ha "now")
    have hsame := c.present_injective (Except.ok.inj (hoff.symm.trans hstay))
    exact absurd hsame (by decide)

end RelativeDate
