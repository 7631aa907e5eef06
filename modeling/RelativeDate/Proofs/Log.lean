import RelativeDate.Proofs.Record
import RelativeDate.Proofs.Token.Printing
import RelativeDate.Proofs.Trace

/-! # The log of an evaluation

Operations write to the log as they are applied, each record when what it tells of has succeeded.
So an operation that leaves the calendar writes nothing. What is written in this way is the log of
the trace. The main statement says which lines the log of an evaluation shows. They follow the path
of its steps, up to the end or up to the first operation that leaves the calendar. -/

namespace RelativeDate

open Operation Token

variable {t s : Instant} {op : Operation} {steps : List Step} {notes lines : List (String × String)}

/-! ## Computations that write -/

/-- A computation that writes to the log. If it fails, what it has written stays there. -/
abbrev Logging := OptionT (StateM (List Record))

namespace Logging

def write (r : Record) : Logging Unit :=
  modify (· ++ [r])

/-- What succeeds or fails without a record. -/
def ofOption {α : Type} (x : Option α) : Logging α :=
  OptionT.mk (pure x)

/-- What comes of a computation, and the log after it. -/
def outcome {α : Type} (x : Logging α) (log : List Record) : Option α × List Record :=
  (OptionT.run x).run log

section Laws

variable {α β : Type} (log : List Record)

@[simp] theorem outcome_pure (a : α) : outcome (pure a) log = (some a, log) := rfl

@[simp] theorem outcome_ofOption (x : Option α) : outcome (ofOption x) log = (x, log) := rfl

@[simp] theorem outcome_write (r : Record) : outcome (write r) log = (some (), log ++ [r]) := rfl

@[simp] theorem outcome_bind (x : Logging α) (f : α → Logging β) :
    outcome (x >>= f) log =
      match outcome x log with
      | (none, log) => (none, log)
      | (some a, log) => outcome (f a) log := by
  unfold outcome
  rw [OptionT.run_bind, Option.elimM, StateT.run_bind]
  cases StateT.run (OptionT.run x) log with
  | mk a log => cases a <;> rfl

end Laws

/-! ## Operations that write -/

/-- A step of years writes its correction once the corrected date is reached. -/
def move (dir : Direction) (u : TimeUnit) (amount : Int) (t : Instant) : Logging Instant :=
  match u with
  | .year => do
    let nominal ← ofOption (t.addNominalYears? (dir.sign * amount))
    let finish ← ofOption (t.restoreLeapDays? nominal dir)
    write (.leapCorrection (t.missedLeapDays nominal dir) t dir)
    return finish
  | u => ofOption (t.move? dir u amount)

/-- A rounding writes where it came out. -/
def round (u : TimeUnit) (t : Instant) : Logging Instant := do
  let finish ← ofOption (t.round? u)
  write (.rounded t finish u)
  return finish

/-- An operation is written once it has been applied. -/
def apply (op : Operation) (t : Instant) : Logging Instant := do
  let finish ← match op with
    | .move dir u amount => move dir u amount t
    | .round u => round u t
  write (.applied ⟨op, t, finish⟩)
  return finish

def applyAll (ops : List Operation) (t : Instant) : Logging Instant :=
  ops.foldlM (fun t op => apply op t) t

theorem applyAll_cons (op : Operation) (ops : List Operation) (t : Instant) :
    applyAll (op :: ops) t = apply op t >>= applyAll ops := rfl

variable (log : List Record)

/-- An operation that succeeds writes the records of its step, and one that fails writes nothing. -/
theorem outcome_apply (op : Operation) (t : Instant) :
    outcome (apply op t) log =
      match op.run? t with
      | none => (none, log)
      | some finish => (some finish, log ++ Step.records ⟨op, t, finish⟩) := by
  cases op with
  | move dir u amount =>
    cases u with
    | fixed u =>
      simp only [apply, move, run?, outcome_bind, outcome_ofOption]
      cases t.move? dir (.fixed u) amount <;> rfl
    | month =>
      simp only [apply, move, run?, outcome_bind, outcome_ofOption]
      cases t.move? dir .month amount <;> rfl
    | year =>
      simp only [apply, move, run?, Instant.move?, outcome_bind, outcome_ofOption]
      cases hnominal : t.addNominalYears? (dir.sign * amount) with
      | none => rfl
      | some nominal =>
        cases hfinish : t.restoreLeapDays? nominal dir with
        | none => simp [hfinish]
        | some finish => simp [hnominal, hfinish, Step.records, Step.note?]
  | round u =>
    simp only [apply, round, run?, outcome_bind, outcome_ofOption]
    cases t.round? u with
    | none => rfl
    | some finish => simp [Step.records, Step.note?]

/-- What a run writes are the records of its trace. -/
theorem outcome_applyAll (ops : List Operation) (t : Instant) :
    outcome (applyAll ops t) log = ((trace ops t).result, log ++ (trace ops t).records) := by
  induction ops generalizing t log with
  | nil => simp [applyAll, trace, Trace.records]
  | cons op ops ih =>
    rw [applyAll_cons, outcome_bind, outcome_apply, trace]
    cases op.run? t with
    | none => simp [Trace.records]
    | some finish => simp [ih, Trace.records]

end Logging

/-! ## The lines of a path -/

/-- What a step shows before its own line. For years it is the correction, by the leap days that
    lead from the nominal date to the end of the step, and for a rounding it is where it came out.
    Other steps show nothing. -/
inductive IsNote : Step → List (String × String) → Prop
  | fixed (dir : Direction) (u : FixedUnit) (amount : Int) (t s : Instant) :
      IsNote ⟨.move dir (.fixed u) amount, t, s⟩ []
  | month (dir : Direction) (amount : Int) (t s : Instant) :
      IsNote ⟨.move dir .month amount, t, s⟩ []
  | year {dir : Direction} {amount : Int} {t nominal s : Instant}
      (hnominal : t.addNominalYears? (dir.sign * amount) = some nominal)
      (hfinish : nominal.addDays? (dir.sign * t.missedLeapDays nominal dir) = some s) :
      IsNote ⟨.move dir .year amount, t, s⟩
        [("datemath.arithmetic",
          "Leap correction of " ++ toString (t.missedLeapDays nominal dir) ++ " day(s) for "
            ++ t.utcText .whenNeeded ++ " " ++ dir.symbol.toString ++ "y")]
  | rounding (u : TimeUnit) (t s : Instant) :
      IsNote ⟨.round u, t, s⟩
        [("datemath.rounding",
          "Rounded " ++ t.utcText .whenNeeded ++ " to " ++ s.utcText .whenNeeded ++ " (/"
            ++ u.symbol.toString ++ ")")]

/-- The lines are those of the steps, in turn. -/
inductive IsLog : List Step → List (String × String) → Prop
  | nil : IsLog [] []
  | cons {step : Step} {notes : List (String × String)} {steps : List Step}
      {lines : List (String × String)} (hnote : IsNote step notes) (hrest : IsLog steps lines) :
      IsLog (step :: steps) (notes ++ step.line :: lines)

theorem isNote_of_run? (h : op.run? t = some s) :
    IsNote ⟨op, t, s⟩ ((Step.note? ⟨op, t, s⟩).toList.map Record.line) := by
  cases op with
  | move dir u amount =>
    cases u with
    | fixed u => exact .fixed dir u amount t s
    | month => exact .month dir amount t s
    | year =>
      obtain ⟨nominal, hnominal, hfinish⟩ := Option.bind_eq_some_iff.mp h
      simp only [Step.note?, hnominal, Option.map_some, Option.toList_some, List.map_singleton,
        Record.line, Record.message_leapCorrection]
      exact .year hnominal hfinish
  | round u =>
    simp only [Step.note?, Option.toList_some, List.map_singleton, Record.line,
      Record.message_rounded]
    exact .rounding u t s

theorem IsPath.isLog (h : IsPath t steps s) :
    IsLog steps ((steps.flatMap Step.records).map Record.line) := by
  induction h with
  | nil t => exact .nil
  | cons hop _ ih =>
    rw [List.flatMap_cons, Step.records, List.append_assoc, List.map_append, List.singleton_append,
      List.map_cons, Step.line_applied]
    exact .cons (isNote_of_run? hop) ih

theorem IsNote.filter_eq_nil {step : Step} (h : IsNote step notes) :
    notes.filter (·.1 = "datemath.calculator") = [] := by
  cases h <;> rfl

/-- There is one line for each step itself. -/
theorem IsLog.filter_eq_map (h : IsLog steps lines) :
    lines.filter (·.1 = "datemath.calculator") = steps.map Step.line := by
  induction h with
  | nil => rfl
  | cons hnote _ ih =>
    rw [List.filter_append, hnote.filter_eq_nil, List.nil_append, List.map_cons, ← ih]
    rfl

/-! ## Calls of an evaluator -/

namespace Evaluator

variable {c : Evaluator} {n : Nat} {a : Instant}

/-- Nothing is logged for the word `now` alone, and nothing when no tokens follow the word.
    Otherwise the log shows the tokens. If an amount has too many digits, it shows nothing else. If
    not, the lines of a path from the anchor come next, which are those of what the operations write
    when they are applied. Each step has its note and then its own line, and no other steps of
    operations that can be written have the same lines. When the evaluation has a value, the path
    has all operations and ends in the value. When an operation is the first to leave the calendar,
    the path has the operations before it and ends where that one starts. -/
theorem evaluate_text_logged (ha : (c.anchor.run n).1 = .ok a) (e : String) :
    let answer := ((c.evaluate (.text e)).run n).1
    let lines := answer.log.map Record.line
    (e = "now" ∨ (¬ ∃ rest, e = "now" ++ rest) ∨
      (∃ rest, e = "now" ++ rest ∧ ¬ IsText rest.toList) → lines = []) ∧
    ∀ rest ts ops, e = "now" ++ rest → rest ≠ "" → rest.toList = ts.flatten → IsSequence ts →
      List.Forall₂ Writes ts ops →
      let tokenized := ("datemath.tokenizer",
        "Tokenized '" ++ e ++ "' into ["
          ++ ", ".intercalate (ts.map fun r => "'" ++ r.text ++ "'") ++ "]")
      ((∃ long ∈ ts, Text.digitLimit < long.amountDigits.length) → lines = [tokenized]) ∧
      ((∀ r ∈ ts, r.amountDigits.length ≤ Text.digitLimit) →
        ∃ steps shown s, lines = tokenized :: shown ∧ IsPath a steps s ∧ IsLog steps shown ∧
          shown = ((Logging.applyAll ops a).outcome []).2.map Record.line ∧
          shown.filter (·.1 = "datemath.calculator") = steps.map Step.line ∧
          (∀ others : List Step, (∀ step ∈ others, step.operation.Writable) →
            others.map Step.line = steps.map Step.line → others = steps) ∧
          (∀ r, answer.outcome = .ok r → steps.map Step.operation = ops ∧
            steps.getLast?.map Step.finish = some s ∧ r = c.present s) ∧
          ∀ before op after x, ops = before ++ op :: after → runAll? before a = some x →
            op.LeavesCalendar x → steps.map Step.operation = before ∧ s = x) := by
  intro answer lines
  have hlog : answer.log = (RelativeDate.evaluate e a).log := log_evaluate_text ha e
  constructor
  · rintro (rfl | hnow | ⟨rest, rfl, htext⟩)
    · exact congrArg _ hlog
    · exact congrArg _ (hlog.trans (by rw [evaluate_of_not_now hnow]))
    · exact congrArg _ (hlog.trans (by rw [evaluate_of_not_isText htext]))
  rintro rest ts ops rfl hne hflat hts hwrites tokenized
  have htokens : ts ≠ [] := by
    rintro rfl
    exact hne (String.toList_eq_nil_iff.mp hflat)
  have htokenized : (Record.tokenized ("now" ++ rest) ts).line = tokenized :=
    Record.line_tokenized hflat (isCharacter_of_writes hwrites)
  have hevaluate := evaluate_of_isSequence hts htokens hflat a
  rcases mapM_ofToken hwrites with ⟨hshort, hread⟩ | ⟨long, hmem, hlong, hread⟩
  · rw [hread] at hevaluate
    refine ⟨fun ⟨long, hmem, hlong⟩ => absurd (hshort long hmem) (by omega), fun _ => ?_⟩
    obtain ⟨s, hpath, hsuccess, hfailure⟩ := exists_isPath_trace ops a
    have hwritable : ∀ step ∈ (trace ops a).steps, step.operation.Writable := fun step hstep =>
      forall_writable hwrites hshort _
        ((map_operation_trace_isPrefix ops a).subset (List.mem_map_of_mem hstep))
    refine ⟨_, (trace ops a).records.map Record.line, s, ?_, hpath, hpath.isLog, ?_,
      hpath.isLog.filter_eq_map, fun others hothers => Step.eq_of_map_line_eq hwritable hothers,
      ?_, hfailure⟩
    · rw [← htokenized]
      exact congrArg _ (hlog.trans (by rw [hevaluate]))
    · rw [Logging.outcome_applyAll, List.nil_append]
    · intro r hr
      obtain ⟨t, ht, rfl⟩ := (outcome_evaluate_text_eq_ok_iff ha).mp hr
      rw [hevaluate, elim_eq_ok_iff] at ht
      obtain ⟨hops, rfl⟩ := hsuccess t ht
      refine ⟨hops, hpath.getLast?_map_finish ?_, rfl⟩
      intro hnil
      rw [hnil] at hops
      obtain rfl : [] = ops := hops
      exact htokens (List.forall₂_nil_right_iff.mp hwrites)
  -- All tokens are read before the first operation is applied, so one that fails leaves no steps.
  · rw [hread] at hevaluate
    refine ⟨fun _ => ?_, fun hshort => absurd (hshort long hmem) (by omega)⟩
    rw [← htokenized]
    exact congrArg _ (hlog.trans (by rw [hevaluate]))

/-- From 1 May 2020, a year back is corrected by the leap day on the way. From there, 2019 years
    back still reach their nominal date in year 1, but the leap correction leads out of the
    calendar. It leaves no line, and the rounding after it is not reached. -/
theorem evaluate_text_logged_2020_years_back :
    let a : Instant := ⟨737545 * microsPerDay, by decide⟩
    let c := Evaluator.shared (.still (.dateTime (.bare a)))
    (c.anchor.run 0).1 = .ok a ∧
      ((c.evaluate (.text "now-1y-2019y/y")).run 0).1.log.map Record.line =
        [("datemath.tokenizer", "Tokenized 'now-1y-2019y/y' into ['-1y', '-2019y', '/y']"),
          ("datemath.arithmetic", "Leap correction of 1 day(s) for 2020-05-01T00:00:00+00:00 -y"),
          ("datemath.calculator",
            "-1y: 2020-05-01T00:00:00+00:00 -> 2019-05-01T00:00:00+00:00")] := by
  intro a c
  let s : Instant := ⟨737179 * microsPerDay, by decide⟩
  let back (years : Int) : Operation := .move .backward .year years
  have ha : (c.anchor.run 0).1 = .ok a := anchor_shared_still (by decide)
  let ops : List Operation := [back 1, back 2019, .round .year]
  have hops : ∀ op ∈ ops, op.Writable := by
    simpa [ops] using ⟨writable_move (n := 1) (by decide) .backward .year,
      writable_move (n := 2019) (by decide) .backward .year, trivial⟩
  have hseq : IsSequence (ops.map chars) := isSequence_map_chars hops (by simp [ops, back, IsMove])
  have hleaves : (back 2019).LeavesCalendar s :=
    .inr ⟨⟨244 * microsPerDay, by decide⟩, by decide, by decide⟩
  obtain ⟨-, hall⟩ := evaluate_text_logged ha "now-1y-2019y/y"
  obtain ⟨-, hshort⟩ := hall "-1y-2019y/y" (ops.map chars) ops rfl (by decide) (by decide) hseq
    (writes_map_chars hops)
  obtain ⟨steps, shown, x, hlines, hpath, hshown, -, -, -, -, hfailure⟩ := hshort (by decide)
  obtain ⟨hsteps, rfl⟩ := hfailure [back 1] (back 2019) [.round .year] s rfl (by decide) hleaves
  refine ⟨ha, hlines.trans ?_⟩
  obtain ⟨step, rfl, hstep⟩ := List.map_eq_singleton_iff.mp hsteps
  cases hpath with
  | cons hop hend =>
    obtain rfl : _ = back 1 := hstep
    cases hend
    cases hshown with
    | cons hnote hrest =>
      cases hrest
      cases hnote with
      | @year _ _ _ nominal _ hnominal _ =>
        let reached : Instant := ⟨737180 * microsPerDay, by decide⟩
        have hreached : a.addNominalYears? (Direction.backward.sign * 1) = some reached := by decide
        have hdays : a.missedLeapDays reached .backward = 1 := by decide
        obtain rfl : reached = nominal := Option.some.inj (hreached.symm.trans hnominal)
        rw [hdays]
        decide

end Evaluator

end RelativeDate
