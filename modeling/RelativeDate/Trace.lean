import RelativeDate.Operation.Token
import RelativeDate.DateTime.Text

/-! # Traces

Operations are applied one after the other, each to the instant that the last one led to. The
trace of a run keeps every instant on the way. Each step leaves records in the log: a note of
how a year step was corrected or how a rounding came out, and then the step itself. -/

namespace RelativeDate

/-- One operation of a run, with the instants before and after it. -/
structure Step where
  operation : Operation
  start : Instant
  finish : Instant

/-- The steps of a run, and the instant it ends in. A run that leaves the years 1 to 9999 has
    the steps up to there and ends nowhere. -/
structure Trace where
  steps : List Step
  result : Option Instant

/-- Apply operations in turn. -/
def Operation.trace : List Operation → Instant → Trace
  | [], t => ⟨[], some t⟩
  | op :: ops, t =>
    match op.run? t with
    | none => ⟨[], none⟩
    | some finish =>
      let rest := trace ops finish
      ⟨⟨op, t, finish⟩ :: rest.steps, rest.result⟩

/-! ## The log -/

inductive Record
  | tokenized (expression : String) (tokens : List Token)
  | leapCorrection (days : Int) (origin : Instant) (dir : Direction)
  | rounded (start finish : Instant) (unit : TimeUnit)
  | applied (step : Step)

namespace Record

/-- The name of the channel that a record goes to. -/
def logger : Record → String
  | .tokenized .. => "datemath.tokenizer"
  | .leapCorrection .. => "datemath.arithmetic"
  | .rounded .. => "datemath.rounding"
  | .applied _ => "datemath.calculator"

/-- How the log shows an instant. -/
def shown (t : Instant) : String :=
  t.utcText .whenNeeded

def message : Record → String
  | .tokenized expression tokens =>
    s!"Tokenized {Text.quoted expression} into {Text.quotedList (tokens.map Token.text)}"
  | .leapCorrection days origin dir =>
    s!"Leap correction of {days} day(s) for {shown origin} {dir.symbol}y"
  | .rounded start finish u => s!"Rounded {shown start} to {shown finish} (/{u.symbol})"
  | .applied step => s!"{step.operation.text}: {shown step.start} -> {shown step.finish}"

end Record

namespace Step

/-- What the log says on how a step came about. -/
def note? (s : Step) : Option Record :=
  match s.operation with
  | .move dir .year amount =>
    (s.start.addNominalYears? (dir.sign * amount)).map fun nominal =>
      .leapCorrection (s.start.missedLeapDays nominal dir) s.start dir
  | .move .. => none
  | .round u => some (.rounded s.start s.finish u)

def records (s : Step) : List Record :=
  s.note?.toList ++ [.applied s]

end Step

def Trace.records (t : Trace) : List Record :=
  t.steps.flatMap Step.records

end RelativeDate
