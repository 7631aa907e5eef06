import RelativeDate.Proofs.Evaluator

/-! # Which expressions fail

An expression fails in one of three ways. It does not start with `now`, or what follows is no
text of the grammar, or it is one but its value cannot be reached: an amount has too many digits,
or a step of the run leaves the calendar. The main statement says that an evaluator fails in
exactly these ways, and that each failure names the whole expression. -/

namespace RelativeDate

open Token Operation

variable {expression : String} {anchor : Instant} {cause : ExpressionError}

/-! ## The shapes of an expression -/

/-- Either an expression does not start with `now`, or no text of the grammar follows, or tokens
    follow that write operations. -/
theorem outcome_evaluate_cases (expression : String) (anchor : Instant) :
    ((¬ ∃ rest, expression = "now" ++ rest) ∧
      (evaluate expression anchor).outcome = .error (.noNow expression)) ∨
    (∃ rest, expression = "now" ++ rest ∧ ¬ IsText rest.toList ∧
      (evaluate expression anchor).outcome = .error (.malformed expression)) ∨
    ∃ rest ts ops, expression = "now" ++ rest ∧ rest.toList = ts.flatten ∧ IsSequence ts ∧
      List.Forall₂ Writes ts ops ∧
      (evaluate expression anchor).outcome =
        (follow? ts anchor).elim (.error (.outOfRange expression)) .ok := by
  by_cases hnow : ∃ rest, expression = "now" ++ rest
  · obtain ⟨rest, rfl⟩ := hnow
    by_cases htext : IsText rest.toList
    · obtain ⟨ts, hts, hflat⟩ := htext
      obtain ⟨ops, hops⟩ := hts.exists_writes
      have hout := outcome_evaluate_of_isSequence hts hflat.symm anchor
      exact .inr (.inr ⟨rest, ts, ops, rfl, hflat.symm, hts, hops, hout⟩)
    · exact .inr (.inl ⟨rest, rfl, htext, outcome_evaluate_of_not_isText htext anchor⟩)
  · exact .inl ⟨hnow, outcome_evaluate_of_not_now hnow anchor⟩

/-- An expression has a value when the tokens behind the word `now` lead to it. -/
theorem outcome_evaluate_eq_ok_iff {t : Instant} :
    (evaluate expression anchor).outcome = .ok t ↔
      ∃ rest ts, expression = "now" ++ rest ∧ rest.toList = ts.flatten ∧ IsSequence ts ∧
        follow? ts anchor = some t := by
  constructor
  · intro h
    rcases outcome_evaluate_cases expression anchor with
      ⟨-, hout⟩ | ⟨_, -, -, hout⟩ | ⟨rest, ts, _, rfl, hflat, hts, -, hout⟩
    · simp [hout] at h
    · simp [hout] at h
    · rw [hout, elim_eq_ok_iff] at h
      exact ⟨rest, ts, rfl, hflat, hts, h⟩
  · rintro ⟨rest, ts, rfl, hflat, hts, h⟩
    rw [outcome_evaluate_of_isSequence hts hflat, elim_eq_ok_iff]
    exact h

/-! ## Causes -/

theorem outcome_evaluate_eq_noNow_iff :
    (evaluate expression anchor).outcome = .error (.noNow expression) ↔
      ¬ ∃ rest, expression = "now" ++ rest := by
  constructor
  · intro h
    rcases outcome_evaluate_cases expression anchor with
      ⟨hnow, -⟩ | ⟨_, -, -, hout⟩ | ⟨_, _, _, -, -, -, -, hout⟩
    · exact hnow
    · simp [hout] at h
    · simp [hout, elim_eq_error_iff] at h
  · intro h
    exact outcome_evaluate_of_not_now h anchor

theorem outcome_evaluate_eq_malformed_iff :
    (evaluate expression anchor).outcome = .error (.malformed expression) ↔
      ∃ rest, expression = "now" ++ rest ∧ rest ≠ "" ∧ ¬ IsText rest.toList := by
  constructor
  · intro h
    rcases outcome_evaluate_cases expression anchor with
      ⟨-, hout⟩ | ⟨rest, rfl, htext, -⟩ | ⟨_, _, _, -, -, -, -, hout⟩
    · simp [hout] at h
    · refine ⟨rest, rfl, ?_, htext⟩
      rintro rfl
      exact htext ⟨[], .nil, rfl⟩
    · simp [hout, elim_eq_error_iff] at h
  · rintro ⟨rest, rfl, -, htext⟩
    exact outcome_evaluate_of_not_isText htext anchor

theorem outcome_evaluate_eq_outOfRange_iff :
    (evaluate expression anchor).outcome = .error (.outOfRange expression) ↔
      ∃ rest ts ops, expression = "now" ++ rest ∧ rest.toList = ts.flatten ∧ IsSequence ts ∧
        List.Forall₂ Writes ts ops ∧
        ((∃ long ∈ ts, Text.digitLimit < long.amountDigits.length) ∨
          ∃ before op after s, ops = before ++ op :: after ∧ runAll? before anchor = some s ∧
            op.LeavesCalendar s) := by
  constructor
  · intro h
    rcases outcome_evaluate_cases expression anchor with
      ⟨-, hout⟩ | ⟨_, -, -, hout⟩ | ⟨rest, ts, ops, rfl, hflat, hts, hops, hout⟩
    · simp [hout] at h
    · simp [hout] at h
    · rw [hout, elim_eq_error_iff] at h
      exact ⟨rest, ts, ops, rfl, hflat, hts, hops, (follow?_eq_none_iff hops).mp h.1⟩
  · rintro ⟨rest, ts, ops, rfl, hflat, hts, hops, hfail⟩
    rw [outcome_evaluate_of_isSequence hts hflat, (follow?_eq_none_iff hops).mpr hfail]
    rfl

/-- There are no other causes, and each names the expression. -/
theorem mem_of_outcome_evaluate_eq_error
    (h : (evaluate expression anchor).outcome = .error cause) :
    cause ∈ [.noNow expression, .malformed expression, .outOfRange expression] := by
  rcases outcome_evaluate_cases expression anchor with
    ⟨-, hout⟩ | ⟨_, -, -, hout⟩ | ⟨_, _, _, -, -, -, -, hout⟩
  · rw [hout] at h
    simp [← Except.error.inj h]
  · rw [hout] at h
    simp [← Except.error.inj h]
  · rw [hout, elim_eq_error_iff] at h
    simp [← h.2]

/-! ## Calls of an evaluator -/

/-- Once the anchor is known, an evaluation fails in three ways, each with the whole expression:
    the expression does not start with `now`, or what follows is neither empty nor a text of the
    grammar, or it is one but an amount has too many digits or an operation leaves the calendar.
    In all other cases the answer is an instant. -/
theorem Evaluator.evaluate_text_classified {c : Evaluator} {n : Nat}
    (hanchor : (c.anchor.run n).1 = .ok anchor) (expression : String) :
    let outcome := ((c.evaluate (.text expression)).run n).1.outcome
    (outcome = .error (.expression (.noNow expression)) ↔ ¬ ∃ rest, expression = "now" ++ rest) ∧
    (outcome = .error (.expression (.malformed expression)) ↔
      ∃ rest, expression = "now" ++ rest ∧ rest ≠ "" ∧ ¬ IsText rest.toList) ∧
    (outcome = .error (.expression (.outOfRange expression)) ↔
      ∃ rest ts ops, expression = "now" ++ rest ∧ rest.toList = ts.flatten ∧ IsSequence ts ∧
        List.Forall₂ Writes ts ops ∧
        ((∃ long ∈ ts, Text.digitLimit < long.amountDigits.length) ∨
          ∃ before op after s, ops = before ++ op :: after ∧ runAll? before anchor = some s ∧
            op.LeavesCalendar s)) ∧
    ((∃ t, outcome = .ok (c.present t)) ∨ ∃ cause, outcome = .error (.expression cause) ∧
      cause ∈ [.noNow expression, .malformed expression, .outOfRange expression]) := by
  intro outcome
  refine ⟨?_, ?_, ?_, ?_⟩
  · rw [outcome_evaluate_text_eq_error_iff hanchor, outcome_evaluate_eq_noNow_iff]
  · rw [outcome_evaluate_text_eq_error_iff hanchor, outcome_evaluate_eq_malformed_iff]
  · rw [outcome_evaluate_text_eq_error_iff hanchor, outcome_evaluate_eq_outOfRange_iff]
  · have hout : outcome =
        ((RelativeDate.evaluate expression anchor).outcome.map c.present).mapError .expression :=
      outcome_evaluate_text hanchor expression
    cases hvalue : (RelativeDate.evaluate expression anchor).outcome with
    | ok t => exact .inl ⟨t, by rw [hout, hvalue]; rfl⟩
    | error cause =>
      exact .inr ⟨cause, by rw [hout, hvalue]; rfl, mem_of_outcome_evaluate_eq_error hvalue⟩

/-- From 1 May 2020, a day forward and 2020 years back still reach their nominal date in year 1,
    but the leap correction leads out of the calendar. The rounding after it is not reached. -/
theorem Evaluator.evaluate_text_2020_years_back :
    let anchor : Instant := ⟨737545 * microsPerDay, by decide⟩
    let c := Evaluator.shared (.still (.dateTime (.bare anchor)))
    (c.anchor.run 0).1 = .ok anchor ∧
      ((c.evaluate (.text "now+1d-2020y/d")).run 0).1.outcome =
        .error (.expression (.outOfRange "now+1d-2020y/d")) := by
  intro anchor c
  have hanchor : (c.anchor.run 0).1 = .ok anchor := anchor_shared_still (by decide)
  let ops : List Operation :=
    [.move .forward (.fixed .day) 1, .move .backward .year 2020, .round (.fixed .day)]
  have hops : ∀ op ∈ ops, op.Writable := by
    simpa [ops] using ⟨writable_move (n := 1) (by decide) .forward (.fixed .day),
      writable_move (n := 2020) (by decide) .backward .year, trivial⟩
  have hseq : IsSequence (ops.map chars) := isSequence_map_chars hops (by simp [ops, IsMove])
  have hleaves : (Operation.move .backward .year 2020).LeavesCalendar
      ⟨737546 * microsPerDay, by decide⟩ :=
    .inr ⟨⟨246 * microsPerDay, by decide⟩, by decide, by decide⟩
  refine ⟨hanchor, (evaluate_text_classified hanchor _).2.2.1.mpr ?_⟩
  refine ⟨"+1d-2020y/d", ops.map chars, ops, rfl, by decide, hseq, writes_map_chars hops, .inr ?_⟩
  exact ⟨[_], _, [_], _, rfl, by decide, hleaves⟩

end RelativeDate
