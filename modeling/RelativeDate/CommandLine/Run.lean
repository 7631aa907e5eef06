import RelativeDate.Evaluator
import RelativeDate.CommandLine.Arguments
import RelativeDate.DateTime.Iso

/-! # Running the command

The command evaluates an expression, or writes a date and time as one, and prints the answer.
Whatever is wrong with the arguments, the dates or the expression is reported with the usage. -/

namespace RelativeDate.CommandLine

/-- What the command prints, and the status it ends with. -/
structure Output where
  exit : Nat
  stdout : String
  stderr : String
  deriving DecidableEq, Repr

/-- How a run ends. A date and time outside the years 1 to 9999 in UTC is not reported by the
    command itself. -/
inductive Outcome
  | finished (output : Output)
  | outOfRange
  deriving DecidableEq, Repr

/-! ## Texts -/

def usage : String :=
  "usage: datemath [-h] [--stringify ISO8601] [--now ISO8601] [-v] [expression]\n"

def helpText : String :=
  usage
    ++ "\n"
    ++ "Evaluate date-math expressions such as now-1d or now-1y/y.\n"
    ++ "\n"
    ++ "positional arguments:\n"
    ++ "  expression           Expression to evaluate, e.g. \"now-4d-4h\"\n"
    ++ "\n"
    ++ "options:\n"
    ++ "  -h, --help           show this help message and exit\n"
    ++ "  --stringify ISO8601  Print the expression that denotes this ISO 8601 instant\n"
    ++ "                       instead\n"
    ++ "  --now ISO8601        Use this ISO 8601 instant as the anchor instead of the\n"
    ++ "                       system clock\n"
    ++ "  -v, --verbose        Log every evaluation step\n"

/-- A record of the log as the command prints it. -/
def logLine (r : Record) : String :=
  s!"DEBUG:{r.logger}:{r.message}\n"

/-- The log of a run, if it is asked for. -/
def logText (verbose : Bool) (log : List Record) : String :=
  if verbose then String.join (log.map logLine) else ""

/-! ## Endings -/

def Outcome.answer (log text : String) : Outcome :=
  .finished ⟨0, text ++ "\n", log⟩

def Outcome.error (log message : String) : Outcome :=
  .finished ⟨2, "", log ++ usage ++ s!"datemath: error: {message}\n"⟩

/-- The ending after a call that has no answer. -/
def Outcome.ofFailure (log : String) : Evaluator.Failure → Outcome
  | .instant .outOfRange => .outOfRange
  | cause => .error log cause.message

/-- The ending after a text that is no date and time. -/
def Outcome.ofReadError : Iso.ReadError → Outcome
  | .overflow => .outOfRange
  | cause => .error "" cause.message

/-! ## Running -/

/-- An argument that is there and not empty. -/
def given (arg : Option String) : Option String :=
  arg.filter (· ≠ "")

/-- Write a date and time as an expression. -/
def runStringify (c : Evaluator) (text : String) : Outcome :=
  match Iso.read text with
  | .error cause => .ofReadError cause
  | .ok d =>
    match (c.express (.dateTime d) 0).1 with
    | .error cause => .ofFailure "" cause
    | .ok expression => .answer "" expression

/-- Evaluate an expression. -/
def runEvaluate (c : Evaluator) (verbose : Bool) (expression : String) : Outcome :=
  let answer := (c.evaluate (.text expression) 0).1
  let log := logText verbose answer.log
  match answer.outcome with
  | .error cause => .ofFailure log cause
  | .ok d => .answer log (d.text .millis)

/-- The clock that the arguments ask for: one that stands still, or else the wall clock. -/
def clockFor (wall : Clock) (now : Option String) : Except Iso.ReadError Clock :=
  match given now with
  | none => .ok wall
  | some text => (Iso.read text).map fun d => .still (.dateTime d)

/-- Do what the arguments ask for. -/
def runArguments (wall : Clock) (args : Arguments) : Outcome :=
  match given args.expression, given args.stringify with
  | none, none => .error "" "datemath: You need to give an expression or --stringify"
  | expression, stringify =>
    match clockFor wall args.now with
    | .error cause => .ofReadError cause
    | .ok clock =>
      match stringify with
      | some text => runStringify (.shared clock) text
      | none => runEvaluate (.shared clock) args.verbose (expression.getD "")

/-- Run the command. -/
def run (wall : Clock) (args : List String) : Outcome :=
  match read args with
  | .error cause => .error "" cause.message
  | .ok .help => .finished ⟨0, helpText, ""⟩
  | .ok (.run arguments) => runArguments wall arguments

end RelativeDate.CommandLine
