import RelativeDate.Expression
import RelativeDate.Settings

/-! # Evaluators

An evaluator evaluates expressions, and writes instants as expressions, relative to an anchor.
The anchor is the base that its configuration names, or else a reading of its clock. A clock
is a sequence of readings. The state of a run is the number of readings taken so far, and each
call of an evaluator takes one at most. -/

namespace RelativeDate

/-! ## Clocks -/

/-- The readings of a clock, in order. A reading may be any value. -/
abbrev Clock := Nat → Value

namespace Clock

/-- A clock that stands still. -/
def still (v : Value) : Clock :=
  fun _ => v

/-- A clock that gives these readings, and goes on giving the last one. -/
def ofReadings (first : Value) (others : List Value) : Clock
  | 0 => first
  | n + 1 => others.getD n (others.getLastD first)

/-- Take the next reading. -/
def read (clock : Clock) : StateM Nat Value := fun n =>
  (clock n, n + 1)

end Clock

/-! ## Making an evaluator -/

structure Evaluator where
  config : Config
  clock : Clock

/-- What a caller hands over as a clock. -/
inductive ClockArgument
  | absent
  | clock (clock : Clock)
  | other (kind : Kind)

/-- What a caller hands over as settings. -/
inductive SettingsArgument
  | absent
  | entries (entries : List Entry)
  | settings (settings : Settings)
  | other (kind : Kind)

/-- Why an evaluator cannot be made. -/
inductive SetupError
  | settings (cause : SettingError)
  | notSettings (kind : Kind)
  | notClock (kind : Kind)
  deriving DecidableEq, Repr

def SetupError.message : SetupError → String
  | .settings cause => cause.message
  | .notSettings _ => "settings can only be either dict or instance of Settings class"
  | .notClock kind => s!"clock argument must be callable ({kind.shown} given)"

/-- The settings that an argument stands for. Named values are checked on their own, before
    the defaults are added. -/
def SettingsArgument.resolve : SettingsArgument → Except SetupError Settings
  | .absent => .ok .default
  | .entries given =>
    let entries := assignAll [] given
    match Config.ofEntries entries with
    | .error cause => .error (.settings cause)
    | .ok _ => .ok (Settings.ofEntries entries)
  | .settings given => .ok given
  | .other kind => .error (.notSettings kind)

/-- The clock that an argument stands for. `wall` is read when none is given. -/
def ClockArgument.resolve (wall : Clock) : ClockArgument → Except SetupError Clock
  | .absent => .ok wall
  | .clock given => .ok given
  | .other kind => .error (.notClock kind)

namespace Evaluator

/-- The evaluator with these settings, once they pass the check. -/
def ofSettings (wall : Clock) (clock : ClockArgument) (settings : Settings) :
    Except SetupError Evaluator := do
  let clock ← clock.resolve wall
  let config ← settings.check.mapError .settings
  pure ⟨config, clock⟩

/-- Make an evaluator. The settings are looked at first, then the clock, and then the settings
    are checked as a whole. -/
def make (wall : Clock) (clock : ClockArgument) (settings : SettingsArgument) :
    Except SetupError Evaluator := do
  let settings ← settings.resolve
  ofSettings wall clock settings

/-- The evaluator that is shared by all calls without a clock whose settings pass for the
    defaults. -/
def shared (wall : Clock) : Evaluator :=
  ⟨.default, wall⟩

/-- The evaluator for a single call. The shared one is taken where it will do. -/
def forCall (wall : Clock) (clock : ClockArgument) (settings : SettingsArgument) :
    Except SetupError Evaluator := do
  let settings ← settings.resolve
  match clock with
  | .absent =>
    if settings.passForDefault then pure (shared wall) else ofSettings wall clock settings
  | _ => ofSettings wall clock settings

/-! ## Calls -/

/-- Why a call has no answer. -/
inductive Failure
  | notText
  | instant (cause : InstantError)
  | expression (cause : ExpressionError)
  | express (cause : ExpressError)

def Failure.message : Failure → String
  | .notText => "Input type must be str"
  | .instant cause => cause.message
  | .expression cause => cause.message
  | .express cause => cause.message

/-- The anchor of the next call. -/
def anchor (c : Evaluator) : StateM Nat (Except InstantError Instant) :=
  match c.config.base with
  | some d => pure (Value.normalize (.dateTime d))
  | none => Value.normalize <$> c.clock.read

/-- What is handed back for an instant. -/
def present (c : Evaluator) (t : Instant) : DateTime :=
  if c.config.withOffset then .utc t else .bare t

/-- The answer to an evaluation, and what was logged on the way. -/
structure Answer where
  log : List Record
  outcome : Except Failure DateTime

/-- The answer for an expression, once the anchor is known. -/
def answer (c : Evaluator) (expression : String) : Except InstantError Instant → Answer
  | .error cause => ⟨[], .error (.instant cause)⟩
  | .ok anchor =>
    let evaluation := RelativeDate.evaluate expression anchor
    ⟨evaluation.log, (evaluation.outcome.map c.present).mapError .expression⟩

/-- Evaluate an expression. The clock is read before the expression is looked at, and is not
    read at all for a value that is no text. -/
def evaluate (c : Evaluator) : Value → StateM Nat Answer
  | .text expression => c.answer expression <$> c.anchor
  | _ => pure ⟨[], .error .notText⟩

/-- The expression for a target, once the anchor is known. -/
def expressionFor (c : Evaluator) (target : Instant) :
    Except InstantError Instant → Except Failure String
  | .error cause => .error (.instant cause)
  | .ok anchor => ((stepsTo c.config.scale anchor target).map expressionText).mapError .express

/-- Write an instant as an expression. The clock is not read for a value that denotes no
    instant. -/
def express (c : Evaluator) (v : Value) : StateM Nat (Except Failure String) :=
  match v.normalize with
  | .error cause => pure (.error (.instant cause))
  | .ok target => c.expressionFor target <$> c.anchor

/-- Write an instant as an expression, and evaluate that. Each of the two has an anchor of its
    own. -/
def roundTrip (c : Evaluator) (v : Value) : StateM Nat (Except Failure (String × DateTime)) := do
  match ← c.express v with
  | .error cause => pure (.error cause)
  | .ok expression =>
    let answer ← c.evaluate (.text expression)
    pure (answer.outcome.map fun d => (expression, d))

end Evaluator

end RelativeDate
