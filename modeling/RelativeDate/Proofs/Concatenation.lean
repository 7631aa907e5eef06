import RelativeDate.Proofs.Evaluator

/-! # Evaluating in two parts

An expression can be cut behind any of its steps. To evaluate it comes to the same as to evaluate
the first part, and then the second part relative to the instant that the first one leads to.
This holds whatever the second part is: if it is no text of the grammar, neither is the whole.
Behind a rounding there is nothing to cut off. -/

namespace RelativeDate

open Token

/-! ## Errors of another expression -/

/-- The same error of another expression. -/
def ExpressionError.about (expression : String) : ExpressionError → ExpressionError
  | .noNow _ => .noNow expression
  | .malformed _ => .malformed expression
  | .outOfRange _ => .outOfRange expression

/-- The same failure of another expression. Failures without an expression stay. -/
def Evaluator.Failure.about (expression : String) : Failure → Failure
  | .expression cause => .expression (cause.about expression)
  | cause => cause

/-! ## Expressions -/

variable {s₁ s₂ : String} {steps us : List Token} {a b : Instant}

theorem outcome_evaluate_steps (hsteps : ∀ t ∈ steps, IsStep t) (h₁ : s₁.toList = steps.flatten) :
    (evaluate ("now" ++ s₁) a).outcome =
      (follow? steps a).elim (.error (.outOfRange ("now" ++ s₁))) .ok := by
  have hseq : IsSequence steps := by simpa using IsSequence.nil.append hsteps
  exact outcome_evaluate_of_isSequence hseq h₁ a

/-- Behind steps, the tokens of a text of the grammar are followed from where the steps lead. -/
theorem outcome_evaluate_append_isSequence (hsteps : ∀ t ∈ steps, IsStep t)
    (h₁ : s₁.toList = steps.flatten) (hus : IsSequence us) (h₂ : us.flatten = s₂.toList) :
    (evaluate ("now" ++ (s₁ ++ s₂)) a).outcome =
      ((follow? steps a).bind (follow? us)).elim
        (.error (.outOfRange ("now" ++ (s₁ ++ s₂)))) .ok := by
  have hflat : (s₁ ++ s₂).toList = (steps ++ us).flatten := by
    rw [String.toList_append, h₁, ← h₂, List.flatten_append]
  rw [outcome_evaluate_of_isSequence (hus.append hsteps) hflat, follow?_append]

/-- If the first part has a value, the whole has the outcome of the second part relative to it. -/
theorem outcome_evaluate_append (hsteps : ∀ t ∈ steps, IsStep t) (h₁ : s₁.toList = steps.flatten)
    (hb : follow? steps a = some b) (s₂ : String) :
    (evaluate ("now" ++ (s₁ ++ s₂)) a).outcome =
      (evaluate ("now" ++ s₂) b).outcome.mapError (.about ("now" ++ (s₁ ++ s₂))) := by
  by_cases htext : IsText s₂.toList
  · obtain ⟨us, hus, h₂⟩ := htext
    rw [outcome_evaluate_append_isSequence hsteps h₁ hus h₂, hb, Option.bind_some,
      outcome_evaluate_of_isSequence hus h₂.symm]
    cases follow? us b <;> rfl
  · have hwhole : ¬ IsText (s₁ ++ s₂).toList := by
      rwa [String.toList_append, h₁, isText_append_iff hsteps]
    rw [outcome_evaluate_of_not_isText htext, outcome_evaluate_of_not_isText hwhole]
    rfl

/-- If the first part leads out of the calendar, a text of the grammar does not lead back. -/
theorem outcome_evaluate_append_of_none (hsteps : ∀ t ∈ steps, IsStep t)
    (h₁ : s₁.toList = steps.flatten) (hnone : follow? steps a = none) (h₂ : IsText s₂.toList) :
    (evaluate ("now" ++ (s₁ ++ s₂)) a).outcome = .error (.outOfRange ("now" ++ (s₁ ++ s₂))) := by
  obtain ⟨us, hus, h₂⟩ := h₂
  rw [outcome_evaluate_append_isSequence hsteps h₁ hus h₂, hnone]
  rfl

/-- Steps that lead to the same place, or both to none, can stand for each other in front of any
    text. -/
theorem outcome_evaluate_append_congr {s₁' : String} {steps' : List Token}
    (hsteps : ∀ t ∈ steps, IsStep t) (h₁ : s₁.toList = steps.flatten)
    (hsteps' : ∀ t ∈ steps', IsStep t) (h₁' : s₁'.toList = steps'.flatten)
    (hsame : follow? steps' a = follow? steps a) (s₂ : String) :
    (evaluate ("now" ++ (s₁' ++ s₂)) a).outcome =
      (evaluate ("now" ++ (s₁ ++ s₂)) a).outcome.mapError (.about ("now" ++ (s₁' ++ s₂))) := by
  by_cases htext : IsText s₂.toList
  · obtain ⟨us, hus, h₂⟩ := htext
    rw [outcome_evaluate_append_isSequence hsteps h₁ hus h₂,
      outcome_evaluate_append_isSequence hsteps' h₁' hus h₂, hsame]
    cases (follow? steps a).bind (follow? us) <;> rfl
  · have hwhole : ¬ IsText (s₁ ++ s₂).toList := by
      rwa [String.toList_append, h₁, isText_append_iff hsteps]
    have hwhole' : ¬ IsText (s₁' ++ s₂).toList := by
      rwa [String.toList_append, h₁', isText_append_iff hsteps']
    rw [outcome_evaluate_of_not_isText hwhole, outcome_evaluate_of_not_isText hwhole']
    rfl

/-- Behind a rounding every text is too much. -/
theorem outcome_evaluate_append_rounding {front : List Char} {r : Token} (hr : IsRounding r)
    (h₁ : s₁.toList = front ++ r) (hne : s₂ ≠ "") :
    (evaluate ("now" ++ (s₁ ++ s₂)) a).outcome = .error (.malformed ("now" ++ (s₁ ++ s₂))) := by
  have hwhole : ¬ IsText (s₁ ++ s₂).toList := by
    rw [String.toList_append, h₁, List.append_assoc]
    exact not_isText_append_rounding hr (by rwa [Ne, String.toList_eq_nil_iff])
  exact outcome_evaluate_of_not_isText hwhole a

/-! ## Calls of an evaluator -/

/-- The answers to an expression in two parts, once the anchor is known.

    If the first part consists of steps and leads to `b`, the whole is answered like the second
    part by any evaluator that has `b` for its anchor and the same form of results: with the same
    instant, or with the same error, which names the whole. If the first part leads out of the
    calendar, so does the whole, unless the second part is no text of the grammar. And if the
    first part ends in a rounding, the whole is malformed. -/
theorem Evaluator.evaluate_append {c : Evaluator} {n : Nat} {a : Instant}
    (ha : (c.anchor.run n).1 = .ok a) (s₁ : String) :
    let outcome (c : Evaluator) (n : Nat) (rest : String) :=
      ((c.evaluate (.text ("now" ++ rest))).run n).1.outcome
    (∀ steps : List Token, (∀ t ∈ steps, IsStep t) → s₁.toList = steps.flatten →
      (∀ b, outcome c n s₁ = .ok b →
        ∀ (c' : Evaluator) (m : Nat), c'.config.withOffset = c.config.withOffset →
          (c'.anchor.run m).1 = (Value.dateTime b).normalize →
          ∀ s₂, outcome c n (s₁ ++ s₂) =
            (outcome c' m s₂).mapError (.about ("now" ++ (s₁ ++ s₂)))) ∧
      (outcome c n s₁ = .error (.expression (.outOfRange ("now" ++ s₁))) →
        ∀ s₂, IsText s₂.toList →
          outcome c n (s₁ ++ s₂) = .error (.expression (.outOfRange ("now" ++ (s₁ ++ s₂)))))) ∧
    (∀ front r, IsRounding r → s₁.toList = front ++ r →
      ∀ s₂, s₂ ≠ "" →
        outcome c n (s₁ ++ s₂) = .error (.expression (.malformed ("now" ++ (s₁ ++ s₂))))) := by
  intro outcome
  refine ⟨?_, ?_⟩
  · intro steps hsteps h₁
    refine ⟨?_, ?_⟩
    · intro b hb c' m hconfig hanchor s₂
      obtain ⟨t, ht, rfl⟩ := (outcome_evaluate_text_eq_ok_iff ha).mp hb
      rw [outcome_evaluate_steps hsteps h₁, elim_eq_ok_iff] at ht
      -- The second evaluator starts from `t` itself: nothing is cut off a whole millisecond.
      have hwhole := isWholeMilli_of_follow? (isWholeMilli_of_anchor ha) ht
      rw [normalize_present c hwhole] at hanchor
      have hpresent : c'.present = c.present := by
        funext t
        rw [present, present, hconfig]
      have hall : outcome c n (s₁ ++ s₂) = _ := outcome_evaluate_text ha _
      have hrest : outcome c' m s₂ = _ := outcome_evaluate_text hanchor _
      rw [hall, hrest, outcome_evaluate_append hsteps h₁ ht, hpresent]
      cases (RelativeDate.evaluate ("now" ++ s₂) t).outcome <;> rfl
    · intro hout s₂ h₂
      have hnone := (outcome_evaluate_text_eq_error_iff ha).mp hout
      rw [outcome_evaluate_steps hsteps h₁, elim_eq_error_iff] at hnone
      exact (outcome_evaluate_text_eq_error_iff ha).mpr
        (outcome_evaluate_append_of_none hsteps h₁ hnone.1 h₂)
  · intro front r hr h₁ s₂ hne
    exact (outcome_evaluate_text_eq_error_iff ha).mpr (outcome_evaluate_append_rounding hr h₁ hne)

/-- A year back from 1 May 2021 is 30 April 2020 without an offset, and `now+1M/w` relative to
    that is what `now-1y+1M/w` is relative to the first: 1 June 2020. A step of 9999 years leads
    out of the calendar whatever follows, and behind `now/d` nothing can follow. -/
theorem Evaluator.evaluate_append_april_2020 :
    let config : Config := { Config.default with withOffset := false }
    let a : Instant := ⟨737910 * microsPerDay, by decide⟩
    let b : Instant := ⟨737544 * microsPerDay, by decide⟩
    let june : Instant := ⟨737576 * microsPerDay, by decide⟩
    let c : Evaluator := ⟨config, .still (.dateTime (.bare a))⟩
    let c' : Evaluator := ⟨{ config with base := some (.bare b) }, .still .null⟩
    (c.anchor.run 0).1 = .ok a ∧ ((c.evaluate (.text "now-1y")).run 0).1.outcome = .ok (.bare b) ∧
      ((c'.evaluate (.text "now+1M/w")).run 0).1.outcome = .ok (.bare june) ∧
      ((c.evaluate (.text "now-1y+1M/w")).run 0).1.outcome = .ok (.bare june) ∧
      ((c.evaluate (.text "now+9999y")).run 0).1.outcome =
        .error (.expression (.outOfRange "now+9999y")) ∧
      ((c.evaluate (.text "now+9999y/d")).run 0).1.outcome =
        .error (.expression (.outOfRange "now+9999y/d")) ∧
      ((c.evaluate (.text "now/d+1d")).run 0).1.outcome =
        .error (.expression (.malformed "now/d+1d")) := by
  intro config a b june c c'
  have hwritable (dir : Direction) (u : TimeUnit) {n : Nat} (hn : n ≤ 9999) :
      (Operation.move dir u n).Writable :=
    Operation.writable_move (Nat.lt_of_le_of_lt hn (by decide)) dir u
  have hnormal (t : Instant) (ht : t.IsWholeMilli) : (Value.dateTime (.bare t)).normalize = .ok t :=
    normalize_present c ht
  have ha : (c.anchor.run 0).1 = .ok a := (anchor_of_clock rfl).trans (hnormal a (by decide))
  have hb : (c'.anchor.run 0).1 = .ok b := (anchor_of_base rfl).trans (hnormal b (by decide))
  have hyear : ((c.evaluate (.text "now-1y")).run 0).1.outcome = .ok (.bare b) :=
    @outcome_evaluate_expressionText c 0 a [.move .backward .year 1] b ha
      (by simpa using hwritable .backward .year (n := 1) (by decide)) (by simp) (by decide)
  have hrest : ((c'.evaluate (.text "now+1M/w")).run 0).1.outcome = .ok (.bare june) :=
    @outcome_evaluate_expressionText c' 0 b [.move .forward .month 1, .round (.fixed .week)] june hb
      (by simpa using ⟨hwritable .forward .month (n := 1) (by decide), trivial⟩)
      (by simp [Operation.IsMove]) (by decide)
  have hfar : ((c.evaluate (.text "now+9999y")).run 0).1.outcome =
      .error (.expression (.outOfRange "now+9999y")) := by
    refine (outcome_evaluate_text_eq_error_iff ha).mpr ?_
    have hnone : Operation.runAll? [.move .forward .year 9999] a = none := by decide
    rw [show "now+9999y" = expressionText [.move .forward .year 9999] by decide,
      evaluate_expressionText (by simpa using hwritable .forward .year (n := 9999) (by decide))
        (by simp), hnone]
    rfl
  have hback : IsStep (Operation.move .backward .year 1).chars :=
    Operation.isStep_chars (hwritable .backward .year (n := 1) (by decide)) trivial
  have hforth : IsStep (Operation.move .forward .year 9999).chars :=
    Operation.isStep_chars (hwritable .forward .year (n := 9999) (by decide)) trivial
  have hday : IsRounding ['/', 'd'] := .intro (by decide)
  refine ⟨ha, hyear, hrest, ?_, hfar, ?_, ?_⟩
  · have hall := ((evaluate_append ha "-1y").1 [(Operation.move .backward .year 1).chars]
      (by simpa using hback) (by decide)).1 (.bare b) hyear c' 0 rfl (anchor_of_base rfl) "+1M/w"
    exact hall.trans (congrArg (Except.mapError _) hrest)
  · exact ((evaluate_append ha "+9999y").1 [(Operation.move .forward .year 9999).chars]
      (by simpa using hforth) (by decide)).2 hfar "/d" ⟨[['/', 'd']], .rounding hday, by decide⟩
  · exact (evaluate_append ha "/d").2 [] ['/', 'd'] hday (by decide) "+1d" (by decide)

end RelativeDate
