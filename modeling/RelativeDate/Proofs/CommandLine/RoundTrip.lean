import RelativeDate.Proofs.CommandLine.Request
import RelativeDate.Proofs.DateTime.Reading
import RelativeDate.Proofs.Failure
import RelativeDate.Proofs.RoundTrip

/-! # Reading what the command printed

The value of an expression is printed to the millisecond and in UTC, which is all that it has. So
what the command printed can be read again, and an expression that it printed can be evaluated by
it: the date and time that was written comes back. -/

namespace RelativeDate

/-! ## Texts of one line -/

theorem newline_notMem_expressionText {ops : List Operation} (hops : ∀ op ∈ ops, op.Writable) :
    '\n' ∉ (expressionText ops).toList := by
  have hchars : '\n' ∉ ops.flatMap Operation.chars := by
    rw [List.mem_flatMap]
    rintro ⟨op, hop, hmem⟩
    exact absurd ((Token.writes_chars (hops op hop)).isCharacter _ hmem) (by decide)
  simpa [expressionText] using hchars

theorem newline_notMem_utcText (t : Instant) : '\n' ∉ (t.utcText .millis).toList := fun hmem =>
  absurd (Iso.isDateCharacter_of_mem_utcText t _ '\n' hmem) (by decide)

/-! ## Values -/

namespace Evaluator

variable {c : Evaluator} {n : Nat} {expression : String} {d : DateTime}

/-- The value of an expression is an instant of whole milliseconds. -/
theorem exists_isWholeMilli_of_outcome
    (h : ((c.evaluate (.text expression)).run n).1.outcome = .ok d) :
    ∃ t : Instant, t.IsWholeMilli ∧ c.present t = d := by
  obtain ⟨anchor, t, hanchor, ht, hpresent⟩ := exists_of_outcome_evaluate_text h
  obtain ⟨rest, ts, -, -, -, hfollow⟩ := outcome_evaluate_eq_ok_iff.mp ht
  exact ⟨t, Token.isWholeMilli_of_follow? (isWholeMilli_of_anchor hanchor) hfollow, hpresent⟩

end Evaluator

namespace CommandLine

variable {wall clock : Clock} {args : List String} {s now text expression : String}
  {d : DateTime}

/-! ## Reading the arguments -/

theorem classify_of_head?_ne (h : s.toList.head? ≠ some '-') : classify s = .ok .plain := by
  rw [classify]
  exact if_pos h

theorem ofArguments_cons {arg : String} {rest : List String} {word : Word}
    {before : List (String × Word)} {after : Option (List String)} (hne : arg ≠ "--")
    (h : classify arg = .ok word) (hrest : Words.ofArguments rest = .ok ⟨before, after⟩) :
    Words.ofArguments (arg :: rest) = .ok ⟨(arg, word) :: before, after⟩ := by
  rw [Words.ofArguments, if_neg hne, h, hrest]
  rfl

theorem ne_of_head?_ne (h : s.toList.head? ≠ some '-') : s ≠ "--" := by
  rintro rfl
  exact h rfl

theorem read_stringify (hnow : now.toList.head? ≠ some '-') (htext : text.toList.head? ≠ some '-') :
    read ["--stringify", text, "--now", now] =
      .ok (.run { stringify := some text, now := some now }) := by
  have hwords : Words.ofArguments ["--stringify", text, "--now", now] =
      .ok ⟨[("--stringify", .switch .stringify .nothing), (text, .plain),
        ("--now", .switch .now .nothing), (now, .plain)], none⟩ :=
    ofArguments_cons (by decide) (by decide) <|
      ofArguments_cons (ne_of_head?_ne htext) (classify_of_head?_ne htext) <|
      ofArguments_cons (by decide) (by decide) <|
      ofArguments_cons (ne_of_head?_ne hnow) (classify_of_head?_ne hnow) rfl
  rw [read, hwords]
  simp [Progress.read, Switch.takesValue, Progress.give, Progress.leave, Progress.finish,
    ne_of_head?_ne htext, ne_of_head?_ne hnow]

theorem read_expression (hnow : now.toList.head? ≠ some '-')
    (hexpression : expression.toList.head? ≠ some '-') :
    read [expression, "--now", now] =
      .ok (.run { expression := some expression, now := some now }) := by
  have hwords : Words.ofArguments [expression, "--now", now] =
      .ok ⟨[(expression, .plain), ("--now", .switch .now .nothing), (now, .plain)], none⟩ :=
    ofArguments_cons (ne_of_head?_ne hexpression) (classify_of_head?_ne hexpression) <|
      ofArguments_cons (by decide) (by decide) <|
      ofArguments_cons (ne_of_head?_ne hnow) (classify_of_head?_ne hnow) rfl
  rw [read, hwords]
  simp [Progress.read, Switch.takesValue, Progress.take, Progress.give, Progress.leave,
    Progress.finish, ne_of_head?_ne hnow]

/-! ## Running -/

/-- The command ends well and prints one line. -/
def Outcome.PrintsLine (o : Outcome) (line : String) : Prop :=
  (∃ log, o = .finished ⟨0, line ++ "\n", log⟩) ∧ '\n' ∉ line.toList

/-- The value of an expression is printed, and can be read again. -/
theorem printsLine_of_evaluates (h : Evaluates wall args clock expression)
    (hd : (((Evaluator.shared clock).evaluate (.text expression)).run 0).1.outcome = .ok d) :
    ∃ line, (run wall args).PrintsLine line ∧ Iso.read line = .ok d := by
  obtain ⟨t, ht, hpresent⟩ := Evaluator.exists_isWholeMilli_of_outcome hd
  obtain rfl : .utc t = d := hpresent
  exact ⟨t.utcText .millis, ⟨run_of_outcome h hd, newline_notMem_utcText t⟩, Iso.read_utcText ht⟩

/-- The expression for a date and time is printed. -/
theorem printsLine_of_writes (h : Writes wall args clock text) (hread : Iso.read text = .ok d)
    (he : (((Evaluator.shared clock).express (.dateTime d)).run 0).1 = .ok expression) :
    (run wall args).PrintsLine expression := by
  obtain ⟨t, anchor, ops, -, -, hops, rfl⟩ := Evaluator.express_dateTime_eq_ok_iff.mp he
  have hwritable := fun op hop => (writable_isMove_of_stepsTo hops op hop).1
  exact ⟨⟨"", run_of_express h hread he⟩, newline_notMem_expressionText hwritable⟩

theorem given_of_ne (h : text ≠ "") : given (some text) = some text := by
  simp [given, h]

theorem ne_empty_of_read (h : Iso.read text = .ok d) : text ≠ "" := by
  rintro rfl
  cases h

theorem clockFor_of_read (h : Iso.read now = .ok d) (wall : Clock) :
    clockFor wall (some now) = .ok (.still (.dateTime d)) := by
  rw [clockFor, given_of_ne (ne_empty_of_read h)]
  dsimp only
  rw [h]
  rfl

/-- An expression that was written starts as no switch does. -/
theorem head?_of_express {c : Evaluator}
    (h : ((c.express (.dateTime d)).run 0).1 = .ok expression) :
    expression.toList.head? = some 'n' := by
  obtain ⟨t, anchor, ops, -, -, -, rfl⟩ := Evaluator.express_dateTime_eq_ok_iff.mp h
  simp [expressionText]

/-- Relative to one date and time, the expression that is written for another one is evaluated to
    the other one again, as long as whole seconds lie between them. The value of any expression is
    read from the line that it was printed on, and nothing of it is lost. -/
theorem run_round_trip (wall : Clock) :
    (∀ (now text : String) (a d : DateTime) (anchor target : Instant),
      Iso.read now = .ok a → Iso.read text = .ok d →
      a.normalize? = some anchor → d.normalize? = some target →
      (microsPerSecond : Int) ∣ target.micros - anchor.micros →
      ∃ expression line,
        (run wall ["--stringify", text, "--now", now]).PrintsLine expression ∧
        (run wall [expression, "--now", now]).PrintsLine line ∧
        Iso.read line = .ok (.utc target)) ∧
    ∀ (args : List String) (clock : Clock) (expression : String) (d : DateTime),
      Evaluates wall args clock expression →
      (((Evaluator.shared clock).evaluate (.text expression)).run 0).1.outcome = .ok d →
      ∃ line, (run wall args).PrintsLine line ∧ Iso.read line = .ok d := by
  refine ⟨?_, fun args clock expression d => printsLine_of_evaluates⟩
  intro now text a d anchor target hnow htext ha hd hseconds
  let c := Evaluator.shared (.still (.dateTime a))
  have hanchor : (c.anchor.run 0).1 = .ok anchor := Value.normalize_dateTime_eq_ok_iff.mpr ha
  have hscale : c.config.scale.last = .second :=
    UnitScale.last_eq_second (show .second ∈ Config.default.scale.units by decide)
  obtain ⟨expression, hexpress⟩ : ∃ e, ((c.express (.dateTime d)).run 0).1 = .ok e := by
    rw [Evaluator.exists_express_dateTime_iff hanchor hd, hscale,
      Instant.second_dvd_since_iff (DateTime.isWholeMilli_of_normalize? ha)
        (DateTime.isWholeMilli_of_normalize? hd), Instant.subsecond_eq, Instant.subsecond_eq]
    unfold microsPerSecond at hseconds ⊢
    omega
  obtain ⟨t, ht, hvalue⟩ := @Evaluator.evaluate_express c c 0 0 d expression rfl rfl hexpress
  obtain rfl : target = t := Option.some.inj (hd.symm.trans ht)
  have hclock := clockFor_of_read hnow wall
  -- None of the texts is taken for a switch: dates start with a year, and the expression with a
  -- letter.
  have hdash := Iso.head?_ne_of_read hnow
  have hn := head?_of_express hexpress
  have hne : expression ≠ "" := by
    rintro rfl
    cases hn
  have hwrites : Writes wall ["--stringify", text, "--now", now] (.still (.dateTime a)) text :=
    ⟨_, read_stringify hdash (Iso.head?_ne_of_read htext), given_of_ne (ne_empty_of_read htext),
      hclock⟩
  have hevaluates : Evaluates wall [expression, "--now", now] (.still (.dateTime a)) expression :=
    ⟨_, read_expression hdash (by simp [hn]), given_of_ne hne, rfl, hclock⟩
  obtain ⟨line, hline, hback⟩ := printsLine_of_evaluates hevaluates hvalue
  exact ⟨expression, line, printsLine_of_writes hwrites htext hexpress, hline, hback⟩

/-- A date and time at an offset of two hours, written relative to a quarter of a second past the
    start of 1 May 2020, is printed in UTC again, cut to the millisecond. -/
theorem run_round_trip_april_2020 :
    let now := "2020-05-01T00:00:00.250"
    let text := "2020-04-26T22:00:00.2509+02:00"
    let target : Instant := ⟨737540 * microsPerDay + 20 * microsPerHour + 250000, by decide⟩
    ∃ expression line,
      (run (.still .null) ["--stringify", text, "--now", now]).PrintsLine expression ∧
      (run (.still .null) [expression, "--now", now]).PrintsLine line ∧
      Iso.read line = .ok (.utc target) := by
  intro now text target
  let a : DateTime := .bare ⟨737545 * microsPerDay + 250000, by decide⟩
  let d : DateTime :=
    ⟨⟨737540 * microsPerDay + 22 * microsPerHour + 250900, by decide⟩, some (2 * microsPerHour)⟩
  let anchor : Instant := ⟨737545 * microsPerDay + 250000, by decide⟩
  exact (run_round_trip (.still .null)).1 now text a d anchor target (by decide) (by decide)
    (by decide) (by decide) (by decide)

end CommandLine
end RelativeDate
