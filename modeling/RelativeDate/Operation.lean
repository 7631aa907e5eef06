import RelativeDate.Period
import RelativeDate.Move

/-! # Operations

An expression is a list of operations on an instant: steps forward and backward by an amount
of a unit, and rounding to a unit. -/

namespace RelativeDate

inductive Operation
  | move (dir : Direction) (unit : TimeUnit) (amount : Int)
  | round (unit : TimeUnit)
  deriving DecidableEq, Repr

/-- What the first character of a written operation says. -/
inductive Operator
  | move (dir : Direction)
  | round
  deriving DecidableEq, Repr

namespace Operator

def symbol : Operator → Char
  | .move dir => dir.symbol
  | .round => '/'

def ofSymbol? : Char → Option Operator
  | '+' => some (.move .forward)
  | '-' => some (.move .backward)
  | '/' => some .round
  | _ => none

@[simp] theorem ofSymbol?_symbol (o : Operator) : ofSymbol? o.symbol = some o := by
  cases o with
  | move dir => cases dir <;> rfl
  | round => rfl

/-- The direction of a leap correction. Only addition looks ahead. -/
def direction : Operator → Direction
  | .move dir => dir
  | .round => .backward

end Operator

namespace Operation

def unit : Operation → TimeUnit
  | .move _ u _ => u
  | .round u => u

def operator : Operation → Operator
  | .move dir _ _ => .move dir
  | .round _ => .round

/-- The characters of a written operation. -/
def chars : Operation → List Char
  | .move dir u amount => dir.symbol :: amount.repr.toList ++ [u.symbol]
  | .round u => ['/', u.symbol]

def text (op : Operation) : String :=
  String.ofList op.chars

/-- The instant that an operation leads to, if it lies in the years 1 to 9999. -/
def run? : Operation → Instant → Option Instant
  | .move dir u amount, t => t.move? dir u amount
  | .round u, t => t.round? u

/-! ## Steps only -/

/-- Why an operation is no step to an instant. -/
inductive MoveError
  | outOfRange
  | rounding (unit : TimeUnit)
  deriving DecidableEq, Repr

/-- Apply an operation that has to be a step. -/
def moveOnly : Operation → Instant → Except MoveError Instant
  | .move dir u amount, t => (t.move? dir u amount).elim (.error .outOfRange) .ok
  | .round u, _ => .error (.rounding u)

def MoveError.message : MoveError → String
  | .outOfRange => "date value out of range"
  | .rounding u =>
    s!"shift() only handles Add and Subtract (Round(unit=<Unit.{u.name}: '{u.symbol}'>) given)"

end Operation

end RelativeDate
