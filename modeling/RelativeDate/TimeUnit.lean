/-! # Units of time

The seven units that an expression may name. Five of them have a fixed length, from the second
to the week. The length of a month and of a year depends on the calendar. -/

namespace RelativeDate

/-- A unit of fixed length. -/
inductive FixedUnit
  | second
  | minute
  | hour
  | day
  | week
  deriving DecidableEq, Repr

inductive TimeUnit
  | fixed (unit : FixedUnit)
  | month
  | year
  deriving DecidableEq, Repr

namespace FixedUnit

/-- All units of fixed length, the longest first. -/
def all : List FixedUnit :=
  [.week, .day, .hour, .minute, .second]

/-- The length in milliseconds. -/
def millis : FixedUnit → Nat
  | .second => 1000
  | .minute => 60000
  | .hour => 3600000
  | .day => 86400000
  | .week => 604800000

/-- The length in microseconds. -/
def micros (u : FixedUnit) : Nat :=
  1000 * u.millis

def symbol : FixedUnit → Char
  | .second => 's'
  | .minute => 'm'
  | .hour => 'h'
  | .day => 'd'
  | .week => 'w'

def ofSymbol? : Char → Option FixedUnit
  | 's' => some .second
  | 'm' => some .minute
  | 'h' => some .hour
  | 'd' => some .day
  | 'w' => some .week
  | _ => none

@[simp] theorem ofSymbol?_symbol (u : FixedUnit) : ofSymbol? u.symbol = some u := by
  cases u <;> rfl

theorem millis_pos (u : FixedUnit) : 0 < u.millis := by
  cases u <;> decide

/-- The symbols of the units of fixed length, the longest first. -/
def symbols : String :=
  String.ofList (all.map symbol)

end FixedUnit

namespace TimeUnit

/-- All units, the shortest first. -/
def all : List TimeUnit :=
  [.fixed .second, .fixed .minute, .fixed .hour, .fixed .day, .fixed .week, .month, .year]

def symbol : TimeUnit → Char
  | .fixed u => u.symbol
  | .month => 'M'
  | .year => 'y'

def ofSymbol? : Char → Option TimeUnit
  | 'M' => some .month
  | 'y' => some .year
  | c => (FixedUnit.ofSymbol? c).map .fixed

@[simp] theorem ofSymbol?_symbol (u : TimeUnit) : ofSymbol? u.symbol = some u := by
  cases u with
  | fixed u => cases u <;> rfl
  | month => rfl
  | year => rfl

/-- The symbols of all units, the shortest first. -/
def symbols : String :=
  String.ofList (all.map symbol)

/-- The length in milliseconds of a unit for stepping. A year counts as 365 days, which a
    leap correction then mends. A month has no such length. -/
def nominalMillis? : TimeUnit → Option Nat
  | .fixed u => some u.millis
  | .month => none
  | .year => some (365 * FixedUnit.day.millis)

/-- The name of the unit in messages. -/
def name : TimeUnit → String
  | .fixed .second => "SECOND"
  | .fixed .minute => "MINUTE"
  | .fixed .hour => "HOUR"
  | .fixed .day => "DAY"
  | .fixed .week => "WEEK"
  | .month => "MONTH"
  | .year => "YEAR"

end TimeUnit

end RelativeDate
