import RelativeDate.Evaluator
import RelativeDate.Proofs.DateTime
import RelativeDate.Proofs.Expression

/-! # Calls of an evaluator

The answers of an evaluator once its anchor is known. -/

namespace RelativeDate

namespace Value

variable {v : Value} {d : DateTime} {t : Instant}

theorem normalize_dateTime_eq_ok_iff : (dateTime d).normalize = .ok t ↔ d.normalize? = some t := by
  rw [normalize]
  cases d.normalize? <;> simp

/-- Only a date and time denotes an instant. -/
theorem exists_of_normalize (h : v.normalize = .ok t) :
    ∃ d, v = .dateTime d ∧ d.normalize? = some t := by
  cases v with
  | dateTime d => exact ⟨d, rfl, normalize_dateTime_eq_ok_iff.mp h⟩
  | _ => simp [normalize] at h

/-- The instant of a value is cut to whole milliseconds. -/
theorem isWholeMilli_of_normalize (h : v.normalize = .ok t) : t.IsWholeMilli := by
  obtain ⟨d, -, hd⟩ := exists_of_normalize h
  exact DateTime.isWholeMilli_of_normalize? hd

end Value

namespace Evaluator

variable {c : Evaluator} {n : Nat} {anchor : Instant}

/-- An evaluator is made when its arguments stand for a clock and for settings that pass the
    check. -/
theorem make_eq_ok_iff {wall : Clock} {clock : ClockArgument} {argument : SettingsArgument} :
    make wall clock argument = .ok c ↔
      ∃ settings, argument.resolve = .ok settings ∧ clock.resolve wall = .ok c.clock ∧
        settings.check = .ok c.config := by
  obtain ⟨config, held⟩ := c
  unfold make ofSettings
  cases argument.resolve with
  | error cause => simp [bind, Except.bind]
  | ok settings =>
    cases clock.resolve wall with
    | error cause => simp [bind, Except.bind]
    | ok clock =>
      cases hcheck : settings.check with
      | error cause => simp [bind, Except.bind, Except.mapError, hcheck]
      | ok found =>
        simp [bind, Except.bind, Except.mapError, pure, Except.pure, hcheck, and_comm]

@[simp] theorem civil_present (c : Evaluator) (t : Instant) : (c.present t).civil = t := by
  unfold present
  split <;> rfl

theorem present_injective (c : Evaluator) : Function.Injective c.present := by
  intro t s h
  rw [← civil_present c t, h, civil_present]

/-- What is handed back for a whole millisecond denotes it again, with its offset or without. -/
theorem normalize?_present (c : Evaluator) {t : Instant} (h : t.IsWholeMilli) :
    (c.present t).normalize? = some t := by
  unfold present
  split
  · exact DateTime.normalize?_utc h
  · exact DateTime.normalize?_bare h

theorem normalize_present (c : Evaluator) {t : Instant} (h : t.IsWholeMilli) :
    (Value.dateTime (c.present t)).normalize = .ok t :=
  Value.normalize_dateTime_eq_ok_iff.mpr (normalize?_present c h)

theorem anchor_of_base {d : DateTime} (h : c.config.base = some d) :
    (c.anchor.run n).1 = (Value.dateTime d).normalize := by
  unfold Evaluator.anchor
  rw [h]
  rfl

theorem anchor_of_clock (h : c.config.base = none) :
    (c.anchor.run n).1 = (c.clock n).normalize := by
  unfold Evaluator.anchor
  rw [h]
  rfl

/-- With a base or without one, the anchor is cut to whole milliseconds. -/
theorem isWholeMilli_of_anchor (h : (c.anchor.run n).1 = .ok anchor) : anchor.IsWholeMilli := by
  have hvalue : ∃ v : Value, v.normalize = .ok anchor := by
    cases hbase : c.config.base with
    | some base => exact ⟨_, (anchor_of_base hbase).symm.trans h⟩
    | none => exact ⟨_, (anchor_of_clock hbase).symm.trans h⟩
  obtain ⟨v, hv⟩ := hvalue
  exact Value.isWholeMilli_of_normalize hv

/-- The shared evaluator has the instant for its anchor that its clock stands still at. -/
theorem anchor_shared_still {t : Instant} (h : t.IsWholeMilli) :
    ((shared (.still (.dateTime (.bare t)))).anchor.run n).1 = .ok t := by
  exact Value.normalize_dateTime_eq_ok_iff.mpr (DateTime.normalize?_bare h)

theorem evaluate_text (c : Evaluator) (n : Nat) (expression : String) :
    ((c.evaluate (.text expression)).run n).1 = c.answer expression (c.anchor.run n).1 := rfl

/-- The answer for an expression is its value relative to the anchor. -/
theorem outcome_evaluate_text (h : (c.anchor.run n).1 = .ok anchor) (expression : String) :
    ((c.evaluate (.text expression)).run n).1.outcome =
      ((RelativeDate.evaluate expression anchor).outcome.map c.present).mapError .expression := by
  rw [evaluate_text, h]
  rfl

/-- An evaluator logs what the evaluation of the expression does. -/
theorem log_evaluate_text (h : (c.anchor.run n).1 = .ok anchor) (expression : String) :
    ((c.evaluate (.text expression)).run n).1.log =
      (RelativeDate.evaluate expression anchor).log := by
  rw [evaluate_text, h]
  rfl

/-- The answer for written operations that lead somewhere. -/
theorem outcome_evaluate_expressionText {ops : List Operation} {t : Instant}
    (h : (c.anchor.run n).1 = .ok anchor) (hops : ∀ op ∈ ops, op.Writable)
    (hmoves : ∀ op ∈ ops.dropLast, op.IsMove) (ht : Operation.runAll? ops anchor = some t) :
    ((c.evaluate (.text (expressionText ops))).run n).1.outcome = .ok (c.present t) := by
  rw [outcome_evaluate_text h, evaluate_expressionText hops hmoves, ht]
  rfl

theorem outcome_evaluate_text_eq_ok_iff (h : (c.anchor.run n).1 = .ok anchor)
    {expression : String} {d : DateTime} :
    ((c.evaluate (.text expression)).run n).1.outcome = .ok d ↔
      ∃ t, (RelativeDate.evaluate expression anchor).outcome = .ok t ∧ c.present t = d := by
  rw [outcome_evaluate_text h]
  cases (RelativeDate.evaluate expression anchor).outcome with
  | error cause => simp [Except.map, Except.mapError]
  | ok t => simp [Except.map, Except.mapError]

theorem outcome_evaluate_text_eq_error_iff (h : (c.anchor.run n).1 = .ok anchor)
    {expression : String} {cause : ExpressionError} :
    ((c.evaluate (.text expression)).run n).1.outcome = .error (.expression cause) ↔
      (RelativeDate.evaluate expression anchor).outcome = .error cause := by
  rw [outcome_evaluate_text h]
  cases (RelativeDate.evaluate expression anchor).outcome with
  | error other => simp [Except.map, Except.mapError]
  | ok t => simp [Except.map, Except.mapError]

theorem evaluate_of_anchor_error {cause : InstantError} (h : (c.anchor.run n).1 = .error cause)
    (expression : String) :
    ((c.evaluate (.text expression)).run n).1 = ⟨[], .error (.instant cause)⟩ := by
  rw [evaluate_text, h]
  rfl

/-- Behind a result there are an anchor and the value of the expression relative to it. -/
theorem exists_of_outcome_evaluate_text {expression : String} {d : DateTime}
    (h : ((c.evaluate (.text expression)).run n).1.outcome = .ok d) :
    ∃ anchor t, (c.anchor.run n).1 = .ok anchor ∧
      (RelativeDate.evaluate expression anchor).outcome = .ok t ∧ c.present t = d := by
  cases hanchor : (c.anchor.run n).1 with
  | error cause =>
    rw [evaluate_of_anchor_error hanchor] at h
    cases h
  | ok anchor =>
    obtain ⟨t, ht, hpresent⟩ := (outcome_evaluate_text_eq_ok_iff hanchor).mp h
    exact ⟨anchor, t, rfl, ht, hpresent⟩

variable {v : Value} {t : Instant}

theorem express_of_normalize_error {cause : InstantError} (h : v.normalize = .error cause) :
    ((c.express v).run n).1 = .error (.instant cause) := by
  rw [express, h]
  rfl

/-- A value is written relative to the anchor once it is known to denote an instant. -/
theorem express_of_normalize (h : v.normalize = .ok t) :
    ((c.express v).run n).1 = c.expressionFor t (c.anchor.run n).1 := by
  rw [express, h]
  rfl

theorem express_of_anchor_error {cause : InstantError} (hv : v.normalize = .ok t)
    (h : (c.anchor.run n).1 = .error cause) :
    ((c.express v).run n).1 = .error (.instant cause) := by
  rw [express_of_normalize hv, h]
  rfl

theorem express_of_anchor (hv : v.normalize = .ok t) (h : (c.anchor.run n).1 = .ok anchor) :
    ((c.express v).run n).1 =
      ((stepsTo c.config.scale anchor t).map expressionText).mapError .express := by
  rw [express_of_normalize hv, h]
  rfl

end Evaluator

end RelativeDate
