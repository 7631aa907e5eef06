import RelativeDate.Proofs.CommandLine.Request
import RelativeDate.Proofs.Millisecond

/-! # How the command ends

The command prints what it is asked for, or says what is wrong and how it is used. There is one
other ending: a date and time among the arguments that lies outside the years 1 to 9999 in UTC is
not reported by the command itself, unless something else is wrong before. -/

namespace RelativeDate.CommandLine

open Calendar

variable {wall : Nat → Instant} {clock : Clock} {args : List String} {arguments : Arguments}
  {cause : Iso.ReadError}

/-! ## What is wrong with the dates -/

/-- The date and time of an argument, if it is given. -/
def readGiven (arg : Option String) : Except Iso.ReadError (Option DateTime) :=
  match given arg with
  | none => .ok none
  | some text => (Iso.read text).map some

/-- A date and time has to lie in the years 1 to 9999 in UTC. -/
def checkUtc : Option DateTime → Except Iso.ReadError Unit
  | none => .ok ()
  | some d => if Within (dayLimit * microsPerDay) d.utcMicros then .ok () else .error .overflow

/-- What is wrong first with the dates and times among the arguments. Both are read before one of
    them is brought to UTC, and the anchor comes last then. -/
def checkDates (arguments : Arguments) : Except Iso.ReadError Unit := do
  let now ← readGiven arguments.now
  let date ← readGiven arguments.stringify
  checkUtc date
  checkUtc now

/-! ## Endings -/

/-- The command says what is wrong and how it is used. -/
def Outcome.IsReported (o : Outcome) : Prop :=
  ∃ log message : String, o = .finished ⟨2, "", log ++ usage ++ s!"datemath: error: {message}\n"⟩

/-- The answer to what the arguments ask for. -/
inductive IsAnswer (wall : Clock) (args : List String) : String → Prop
  | help (h : read args = .ok .help) : IsAnswer wall args helpText
  | expression {clock : Clock} {text e : String} {d : DateTime} (h : Writes wall args clock text)
      (hd : Iso.read text = .ok d)
      (he : (((Evaluator.shared clock).express (.dateTime d)).run 0).1 = .ok e) :
      IsAnswer wall args (e ++ "\n")
  | value {clock : Clock} {expression : String} {d : DateTime}
      (h : Evaluates wall args clock expression)
      (hd : (((Evaluator.shared clock).evaluate (.text expression)).run 0).1.outcome = .ok d) :
      IsAnswer wall args (d.text .millis ++ "\n")

/-- An expression is given, or a date and time to write as one. -/
def Arguments.Asks (arguments : Arguments) : Prop :=
  given arguments.expression ≠ none ∨ given arguments.stringify ≠ none

/-- The wall clock shows the time in UTC. -/
def wallClock (wall : Nat → Instant) : Clock :=
  fun n => .dateTime (.utc (wall n))

/-! ## Dates -/

/-- The check is passed by the dates and times that denote an instant. -/
theorem checkUtc_cases (d : DateTime) :
    (checkUtc (some d) = .ok () ∧ ∃ t, (Value.dateTime d).normalize = .ok t) ∨
    (checkUtc (some d) = .error .overflow ∧
      (Value.dateTime d).normalize = .error .outOfRange) := by
  by_cases hd : Within (dayLimit * microsPerDay) d.utcMicros
  · refine .inl ⟨if_pos hd, ?_⟩
    cases hnormal : d.normalize? with
    | none => exact absurd hd (DateTime.normalize?_eq_none_iff.mp hnormal)
    | some t => exact ⟨t, Value.normalize_dateTime_eq_ok_iff.mpr hnormal⟩
  · exact .inr ⟨if_neg hd, Value.normalize_dateTime_eq_outOfRange_iff.mpr hd⟩

/-- What the wall clock shows passes the check. -/
theorem checkUtc_getD (date : Option DateTime) (t : Instant) :
    checkUtc (some (date.getD (.utc t))) = checkUtc date := by
  cases date with
  | some d => rfl
  | none =>
    have hwithin : Within (dayLimit * microsPerDay) (DateTime.utc t).utcMicros := by
      have hlt := t.micros_lt
      unfold DateTime.utcMicros DateTime.utc Within
      simp only [Option.getD_some]
      omega
    simp only [Option.getD_none, checkUtc, hwithin, if_true]

theorem readGiven_of_given {arg : Option String} {text : String} (h : given arg = some text) :
    readGiven arg = (Iso.read text).map some := by
  rw [readGiven, h]

theorem clockFor_eq (clock : Clock) (now : Option String) :
    clockFor clock now =
      (readGiven now).map fun date => date.elim clock fun d => .still (.dateTime d) := by
  rw [clockFor, readGiven]
  cases given now with
  | none => rfl
  | some text =>
    dsimp only
    cases Iso.read text <;> rfl

/-- The clock of a run shows the date and time that is given for it, or else the time. -/
theorem clockFor_of_readGiven {now : Option String} {date : Option DateTime}
    (h : readGiven now = .ok date) (wall : Nat → Instant) :
    ∃ clock, clockFor (wallClock wall) now = .ok clock ∧
      clock 0 = .dateTime (date.getD (.utc (wall 0))) := by
  rw [clockFor_eq, h]
  refine ⟨_, rfl, ?_⟩
  cases date <;> rfl

/-! ## Runs -/

theorem isReported_ofReadError (h : cause ≠ .overflow) :
    (Outcome.ofReadError cause).IsReported := by
  cases cause with
  | overflow => exact absurd rfl h
  | _ => exact ⟨_, _, rfl⟩

variable {a : DateTime}

/-- To write a date and time, it is brought to UTC before the anchor is. -/
theorem runStringify_cases (ha : clock 0 = .dateTime a) {text : String} {d : DateTime}
    (hd : Iso.read text = .ok d) :
    ((checkUtc (some d) >>= fun _ => checkUtc (some a)) = .error .overflow ∧
      runStringify (.shared clock) text = .outOfRange) ∨
    ((checkUtc (some d) >>= fun _ => checkUtc (some a)) = .ok () ∧
      ((∃ e, (((Evaluator.shared clock).express (.dateTime d)).run 0).1 = .ok e) ∨
        (runStringify (.shared clock) text).IsReported)) := by
  let c := Evaluator.shared clock
  have hanchor : (c.anchor.run 0).1 = (Value.dateTime a).normalize :=
    ha ▸ Evaluator.anchor_of_clock rfl
  rcases checkUtc_cases d with ⟨hcheck, t, ht⟩ | ⟨hcheck, hout⟩
  · rcases checkUtc_cases a with ⟨hcheck', anchor, hnormal⟩ | ⟨hcheck', hout⟩
    · refine .inr ⟨by rw [hcheck, hcheck']; rfl, ?_⟩
      have hexpress := Evaluator.express_of_anchor ht (hanchor.trans hnormal)
      cases hsteps : stepsTo c.config.scale anchor t with
      | error cause =>
        rw [hsteps] at hexpress
        refine .inr ⟨"", (Evaluator.Failure.express cause).message, ?_⟩
        exact runStringify_of_express_error hd hexpress
      | ok ops =>
        rw [hsteps] at hexpress
        exact .inl ⟨_, hexpress⟩
    · refine .inl ⟨by rw [hcheck, hcheck']; rfl, ?_⟩
      exact runStringify_of_express_error hd
        (Evaluator.express_of_anchor_error ht (hanchor.trans hout))
  · refine .inl ⟨by rw [hcheck]; rfl, ?_⟩
    exact runStringify_of_express_error hd (Evaluator.express_of_normalize_error hout)

/-- To evaluate an expression, the anchor is brought to UTC before the expression is looked at. -/
theorem runEvaluate_cases (ha : clock 0 = .dateTime a) (verbose : Bool) (expression : String) :
    (checkUtc (some a) = .error .overflow ∧
      runEvaluate (.shared clock) verbose expression = .outOfRange) ∨
    (checkUtc (some a) = .ok () ∧
      ((∃ d, (((Evaluator.shared clock).evaluate (.text expression)).run 0).1.outcome = .ok d) ∨
        (runEvaluate (.shared clock) verbose expression).IsReported)) := by
  let c := Evaluator.shared clock
  have hanchor : (c.anchor.run 0).1 = (Value.dateTime a).normalize :=
    ha ▸ Evaluator.anchor_of_clock rfl
  rcases checkUtc_cases a with ⟨hcheck, anchor, hnormal⟩ | ⟨hcheck, hout⟩
  · refine .inr ⟨hcheck, ?_⟩
    have houtcome := Evaluator.outcome_evaluate_text (hanchor.trans hnormal) expression
    cases hvalue : (evaluate expression anchor).outcome with
    | error cause =>
      rw [hvalue] at houtcome
      obtain ⟨log, hrun⟩ := runEvaluate_of_outcome_error verbose houtcome
      exact .inr ⟨log, (Evaluator.Failure.expression cause).message, hrun⟩
    | ok t =>
      rw [hvalue] at houtcome
      exact .inl ⟨_, houtcome⟩
  · refine .inl ⟨hcheck, ?_⟩
    have hanswer := Evaluator.evaluate_of_anchor_error (hanchor.trans hout) expression
    obtain ⟨log, hrun⟩ :=
      runEvaluate_of_outcome_error verbose (congrArg Evaluator.Answer.outcome hanswer)
    exact hrun

theorem runArguments_of_clockFor_error (hasks : arguments.Asks)
    (h : clockFor clock arguments.now = .error cause) :
    runArguments clock arguments = .ofReadError cause := by
  unfold runArguments
  split
  · rename_i hexpression hstringify
    exact absurd hasks (by simp [Arguments.Asks, hexpression, hstringify])
  · rw [h]

/-- Once the arguments ask for something, the dates among them are checked. What is wrong with them
    first is the ending, and else there is an answer or a report. -/
theorem run_cases (wall : Nat → Instant) (hread : read args = .ok (.run arguments))
    (hasks : arguments.Asks) :
    (∃ cause, checkDates arguments = .error cause ∧
      run (wallClock wall) args = .ofReadError cause) ∨
    (checkDates arguments = .ok () ∧
      ((∃ text, IsAnswer (wallClock wall) args text) ∨
        (run (wallClock wall) args).IsReported)) := by
  -- The cases are in the order of the run: the anchor is read first, and used last.
  cases hnow : readGiven arguments.now with
  | error cause =>
    have hclock : clockFor (wallClock wall) arguments.now = .error cause := by
      rw [clockFor_eq, hnow]
      rfl
    refine .inl ⟨cause, by rw [checkDates, hnow]; rfl, ?_⟩
    rw [run, hread]
    exact runArguments_of_clockFor_error hasks hclock
  | ok now =>
    obtain ⟨clock, hclock, ha⟩ := clockFor_of_readGiven hnow wall
    have hcheck := checkUtc_getD now (wall 0)
    cases hstringify : given arguments.stringify with
    | some text =>
      have hwrites : Writes (wallClock wall) args clock text :=
        ⟨arguments, hread, hstringify, hclock⟩
      cases hd : Iso.read text with
      | error cause =>
        have hdate : readGiven arguments.stringify = .error cause := by
          rw [readGiven_of_given hstringify, hd]
          rfl
        refine .inl ⟨cause, by rw [checkDates, hnow, hdate]; rfl, ?_⟩
        rw [run_of_writes hwrites, runStringify, hd]
      | ok d =>
        have hdate : readGiven arguments.stringify = .ok (some d) := by
          rw [readGiven_of_given hstringify, hd]
          rfl
        have hdates : checkDates arguments =
            (checkUtc (some d) >>= fun _ => checkUtc (some (now.getD (.utc (wall 0))))) := by
          rw [checkDates, hnow, hdate, hcheck]
          rfl
        rw [hdates, run_of_writes hwrites]
        rcases runStringify_cases ha hd with ⟨herror, hout⟩ | ⟨hok, ⟨e, he⟩ | hreported⟩
        · exact .inl ⟨_, herror, hout⟩
        · exact .inr ⟨hok, .inl ⟨_, .expression hwrites hd he⟩⟩
        · exact .inr ⟨hok, .inr hreported⟩
    | none =>
      obtain ⟨expression, hexpression⟩ : ∃ e, given arguments.expression = some e :=
        Option.ne_none_iff_exists'.mp (hasks.resolve_right (not_not.mpr hstringify))
      have hevaluates : Evaluates (wallClock wall) args clock expression :=
        ⟨arguments, hread, hexpression, hstringify, hclock⟩
      have hdate : readGiven arguments.stringify = .ok none := by rw [readGiven, hstringify]
      have hdates : checkDates arguments = checkUtc (some (now.getD (.utc (wall 0)))) := by
        rw [checkDates, hnow, hdate, hcheck]
        rfl
      obtain ⟨verbose, hrun⟩ := run_of_evaluates hevaluates
      rw [hdates, hrun]
      rcases runEvaluate_cases ha verbose expression with
        ⟨herror, hout⟩ | ⟨hok, ⟨d, hd⟩ | hreported⟩
      · exact .inl ⟨_, herror, hout⟩
      · exact .inr ⟨hok, .inl ⟨_, .value hevaluates hd⟩⟩
      · exact .inr ⟨hok, .inr hreported⟩

/-! ## All endings -/

theorem Outcome.IsReported.ne_outOfRange {o : Outcome} (h : o.IsReported) : o ≠ .outOfRange := by
  obtain ⟨log, message, rfl⟩ := h
  exact Outcome.noConfusion

theorem IsAnswer.run_eq {text : String} (h : IsAnswer clock args text) :
    ∃ log, run clock args = .finished ⟨0, text, log⟩ := by
  cases h with
  | help h => exact ⟨"", by rw [run, h]⟩
  | expression h hd he => exact ⟨"", run_of_express h hd he⟩
  | value h hd => exact run_of_outcome h hd

theorem isReported_of_not_asks (hread : read args = .ok (.run arguments)) (h : ¬ arguments.Asks) :
    (run clock args).IsReported := by
  obtain ⟨hexpression, hstringify⟩ := not_or.mp h
  rw [not_not] at hexpression hstringify
  rw [run, hread]
  simp only [runArguments, hexpression, hstringify]
  exact ⟨_, _, rfl⟩

/-- A run that is not reported was asked for something, and the dates among its arguments pass the
    check or are out of range. -/
theorem run_ends_cases (wall : Nat → Instant) (args : List String) :
    (run (wallClock wall) args = .outOfRange ∧ ∃ arguments, read args = .ok (.run arguments) ∧
      arguments.Asks ∧ checkDates arguments = .error .overflow) ∨
    (∃ text, IsAnswer (wallClock wall) args text) ∨ (run (wallClock wall) args).IsReported := by
  cases hread : read args with
  | error cause => exact .inr (.inr ⟨"", cause.message, by rw [run, hread]; rfl⟩)
  | ok request =>
    cases request with
    | help => exact .inr (.inl ⟨_, .help hread⟩)
    | run arguments =>
      by_cases hasks : arguments.Asks
      · rcases run_cases wall hread hasks with ⟨cause, hcheck, hrun⟩ | ⟨-, hends⟩
        · by_cases hcause : cause = .overflow
          · subst hcause
            exact .inl ⟨hrun, arguments, rfl, hasks, hcheck⟩
          · exact .inr (.inr (hrun ▸ isReported_ofReadError hcause))
        · exact .inr hends
      · exact .inr (.inr (isReported_of_not_asks hread hasks))

/-- The command ends with status 0 exactly when there is an answer, which is what it prints. It
    does not end on its own exactly when it is asked for something and the first thing wrong with
    the dates among its arguments is that one is out of range. Whatever else is wrong is reported
    with status 2 and the usage. -/
theorem run_ends (wall : Nat → Instant) (args : List String) :
    (∀ text, (∃ log, run (wallClock wall) args = .finished ⟨0, text, log⟩) ↔
      IsAnswer (wallClock wall) args text) ∧
    (run (wallClock wall) args = .outOfRange ↔ ∃ arguments, read args = .ok (.run arguments) ∧
      arguments.Asks ∧ checkDates arguments = .error .overflow) ∧
    (run (wallClock wall) args ≠ .outOfRange →
      (∃ text, IsAnswer (wallClock wall) args text) ∨
        (run (wallClock wall) args).IsReported) := by
  have hcases := run_ends_cases wall args
  refine ⟨fun text => ⟨?_, IsAnswer.run_eq⟩, ⟨?_, ?_⟩, ?_⟩
  · rintro ⟨log, hrun⟩
    rcases hcases with ⟨hout, -⟩ | ⟨other, hanswer⟩ | ⟨log', message, hreported⟩
    · cases hout.symm.trans hrun
    · obtain ⟨log', hother⟩ := hanswer.run_eq
      cases hother.symm.trans hrun
      exact hanswer
    · cases hreported.symm.trans hrun
  · intro hout
    rcases hcases with ⟨-, harguments⟩ | ⟨text, hanswer⟩ | hreported
    · exact harguments
    · obtain ⟨log, hrun⟩ := hanswer.run_eq
      cases hout.symm.trans hrun
    · exact absurd hout hreported.ne_outOfRange
  · rintro ⟨arguments, hread, hasks, hcheck⟩
    rcases run_cases wall hread hasks with ⟨cause, hcause, hrun⟩ | ⟨hok, -⟩
    · cases hcheck.symm.trans hcause
      exact hrun
    · cases hcheck.symm.trans hok
  · intro hne
    exact hcases.resolve_left fun hout => hne hout.1

/-- The first instant of the calendar at an offset of one hour lies before it in UTC. As the anchor
    it is out of range, and the command does not report that. -/
theorem not_forall_run_finished :
    ¬ ∀ (wall : Nat → Instant) (args : List String),
      (∃ text log, run (wallClock wall) args = .finished ⟨0, text, log⟩) ∨
        (run (wallClock wall) args).IsReported := by
  intro h
  let args := ["now", "--now", "0001-01-01T00:00:00+01:00"]
  have hout : run (wallClock fun _ => ⟨0, by decide⟩) args = .outOfRange := by decide
  rcases h (fun _ => ⟨0, by decide⟩) args with ⟨text, log, hrun⟩ | hreported
  · cases hout.symm.trans hrun
  · exact hreported.ne_outOfRange hout

end RelativeDate.CommandLine
