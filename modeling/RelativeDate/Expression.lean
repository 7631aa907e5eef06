import RelativeDate.Trace

/-! # Expressions

An expression is the word `now` and the operations that follow it. Its value is the instant
that they lead to from an anchor. -/

namespace RelativeDate

/-- The version of the language of expressions that this library evaluates. -/
def version : String := "0.1.0"

/-- Why an expression has no value. Each cause names the whole expression. -/
inductive ExpressionError
  | noNow (expression : String)
  | malformed (expression : String)
  | outOfRange (expression : String)
  deriving DecidableEq, Repr

namespace ExpressionError

def expression : ExpressionError → String
  | .noNow e => e
  | .malformed e => e
  | .outOfRange e => e

def message : ExpressionError → String
  | .noNow e => s!"Expression must start with 'now': {Text.quoted e}"
  | .malformed e => s!"Unable to parse date-math expression: {Text.quoted e}"
  | .outOfRange e => s!"Expression {Text.quoted e} leaves the supported date range"

end ExpressionError

/-- The value of an expression, and what was logged on the way. -/
structure Evaluation where
  log : List Record
  outcome : Except ExpressionError Instant

/-- Evaluate what follows the word `now` in `expression`. All tokens are read before the first
    operation is applied. A number too long to read counts as out of range. -/
def evaluateSuffix (expression : String) (suffix : List Char) (anchor : Instant) : Evaluation :=
  match tokens? suffix with
  | none => ⟨[], .error (.malformed expression)⟩
  | some tokens =>
    let head := Record.tokenized expression tokens
    match tokens.mapM Operation.ofToken with
    | .error _ => ⟨[head], .error (.outOfRange expression)⟩
    | .ok operations =>
      let trace := Operation.trace operations anchor
      ⟨head :: trace.records, trace.result.elim (.error (.outOfRange expression)) .ok⟩

/-- Evaluate an expression. The word `now` alone is the anchor. -/
def evaluate (expression : String) (anchor : Instant) : Evaluation :=
  match expression.toList with
  | ['n', 'o', 'w'] => ⟨[], .ok anchor⟩
  | 'n' :: 'o' :: 'w' :: suffix => evaluateSuffix expression suffix anchor
  | _ => ⟨[], .error (.noNow expression)⟩

/-- The text of the expression with these operations. -/
def expressionText (operations : List Operation) : String :=
  String.ofList ('n' :: 'o' :: 'w' :: operations.flatMap Operation.chars)

end RelativeDate
