import RelativeDate.CommandLine.Run

/-! # What the command is asked for

The arguments ask for help, for the value of an expression, or for an expression that denotes a
date and time. A date and time to be written goes before an expression. -/

namespace RelativeDate.CommandLine

variable {wall clock : Clock} {args : List String} {text expression : String}
  {d : DateTime}

/-! ## Requests -/

/-- The arguments ask for the value of an expression, relative to a clock. -/
def Evaluates (wall : Clock) (args : List String) (clock : Clock) (expression : String) : Prop :=
  ∃ arguments, read args = .ok (.run arguments) ∧ given arguments.expression = some expression ∧
    given arguments.stringify = none ∧ clockFor wall arguments.now = .ok clock

/-- The arguments ask for the expression that denotes the date and time of a text, relative to a
    clock. -/
def Writes (wall : Clock) (args : List String) (clock : Clock) (text : String) : Prop :=
  ∃ arguments, read args = .ok (.run arguments) ∧ given arguments.stringify = some text ∧
    clockFor wall arguments.now = .ok clock

theorem run_of_evaluates (h : Evaluates wall args clock expression) :
    ∃ verbose, run wall args = runEvaluate (.shared clock) verbose expression := by
  obtain ⟨arguments, hread, hexpression, hstringify, hclock⟩ := h
  refine ⟨arguments.verbose, ?_⟩
  simp [run, hread, runArguments, hexpression, hstringify, hclock]

theorem run_of_writes (h : Writes wall args clock text) :
    run wall args = runStringify (.shared clock) text := by
  obtain ⟨arguments, hread, hstringify, hclock⟩ := h
  simp [run, hread, runArguments, hstringify, hclock]

/-! ## What is printed for an answer -/

section

variable {c : Evaluator} {cause : Evaluator.Failure}

theorem runStringify_of_express (hd : Iso.read text = .ok d)
    (he : ((c.express (.dateTime d)).run 0).1 = .ok expression) :
    runStringify c text = .answer "" expression := by
  have hexpress : (c.express (.dateTime d) 0).1 = .ok expression := he
  rw [runStringify, hd]
  simp only [hexpress]

theorem runStringify_of_express_error (hd : Iso.read text = .ok d)
    (he : ((c.express (.dateTime d)).run 0).1 = .error cause) :
    runStringify c text = .ofFailure "" cause := by
  have hexpress : (c.express (.dateTime d) 0).1 = .error cause := he
  rw [runStringify, hd]
  simp only [hexpress]

theorem runEvaluate_of_outcome (verbose : Bool)
    (hd : ((c.evaluate (.text expression)).run 0).1.outcome = .ok d) :
    ∃ log, runEvaluate c verbose expression = .answer log (d.text .millis) := by
  have hvalue : (c.evaluate (.text expression) 0).1.outcome = .ok d := hd
  refine ⟨logText verbose (c.evaluate (.text expression) 0).1.log, ?_⟩
  rw [runEvaluate, hvalue]

theorem runEvaluate_of_outcome_error (verbose : Bool)
    (hd : ((c.evaluate (.text expression)).run 0).1.outcome = .error cause) :
    ∃ log, runEvaluate c verbose expression = .ofFailure log cause := by
  have hvalue : (c.evaluate (.text expression) 0).1.outcome = .error cause := hd
  refine ⟨logText verbose (c.evaluate (.text expression) 0).1.log, ?_⟩
  rw [runEvaluate, hvalue]

end

theorem run_of_outcome (h : Evaluates wall args clock expression)
    (hd : (((Evaluator.shared clock).evaluate (.text expression)).run 0).1.outcome = .ok d) :
    ∃ log, run wall args = .finished ⟨0, d.text .millis ++ "\n", log⟩ := by
  obtain ⟨verbose, hrun⟩ := run_of_evaluates h
  rw [hrun]
  exact runEvaluate_of_outcome verbose hd

theorem run_of_express (h : Writes wall args clock text) (hd : Iso.read text = .ok d)
    (he : (((Evaluator.shared clock).express (.dateTime d)).run 0).1 = .ok expression) :
    run wall args = .finished ⟨0, expression ++ "\n", ""⟩ := by
  rw [run_of_writes h]
  exact runStringify_of_express hd he

end RelativeDate.CommandLine
