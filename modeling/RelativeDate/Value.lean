import RelativeDate.DateTime.Text
import RelativeDate.Text.Decimal
import RelativeDate.Text.Quoted

/-! # Values

What a caller may hand over where a date, a text or a setting is asked for. Most values are
refused, and the message then names their kind. -/

namespace RelativeDate

/-- The kinds of values. -/
inductive Kind
  | null
  | bool
  | integer
  | decimal
  | text
  | dateTime
  | list
  | record
  deriving DecidableEq, Repr

inductive Value
  | null
  | bool (b : Bool)
  | integer (n : Int)
  /-- The number `mantissa / 10 ^ places`. -/
  | decimal (mantissa : Int) (places : Nat)
  | text (s : String)
  | dateTime (d : DateTime)
  | list (items : List Value)
  | record (fields : List (String × Value))

instance : Inhabited Value := ⟨.null⟩

namespace Kind

/-- The name of a kind in messages. -/
def name : Kind → String
  | .null => "NoneType"
  | .bool => "bool"
  | .integer => "int"
  | .decimal => "float"
  | .text => "str"
  | .dateTime => "datetime"
  | .list => "list"
  | .record => "dict"

/-- How a message shows the kind itself. -/
def shown : Kind → String
  | .dateTime => "<class 'datetime.datetime'>"
  | k => s!"<class '{k.name}'>"

end Kind

namespace Value

def kind : Value → Kind
  | .null => .null
  | .bool _ => .bool
  | .integer _ => .integer
  | .decimal .. => .decimal
  | .text _ => .text
  | .dateTime _ => .dateTime
  | .list _ => .list
  | .record _ => .record

/-- How a message shows a value. Of lists and records it shows the brackets. -/
def literal : Value → String
  | .null => "None"
  | .bool true => "True"
  | .bool false => "False"
  | .integer n => n.repr
  | .decimal mantissa places => Text.decimalText mantissa places
  | .text s => Text.quoted s
  | .dateTime d => d.text .whenNeeded
  | .list _ => "[...]"
  | .record _ => "\x7b...\x7d"

/-- Whether a value counts as true where a condition is asked for. Zero and what is empty do not. -/
def isTruthy : Value → Bool
  | .null => false
  | .bool b => b
  | .integer n => n ≠ 0
  | .decimal mantissa _ => mantissa ≠ 0
  | .text s => s ≠ ""
  | .dateTime _ => true
  | .list items => !items.isEmpty
  | .record fields => !fields.isEmpty

/-- Whether a value counts as the number one. Truth does. -/
def isOne : Value → Bool
  | .bool b => b
  | .integer n => n = 1
  | .decimal mantissa places => mantissa = Nat.pow 10 places
  | _ => false

end Value

/-! ## Dates among values -/

/-- Why a value denotes no instant. -/
inductive InstantError
  | notDateTime (kind : Kind)
  | outOfRange
  deriving DecidableEq, Repr

def InstantError.message : InstantError → String
  | .notDateTime kind => s!"Expected a datetime ({kind.shown} given)"
  | .outOfRange => "date value out of range"

/-- The instant that a value denotes, in UTC and cut to whole milliseconds. -/
def Value.normalize : Value → Except InstantError Instant
  | .dateTime d => d.normalize?.elim (.error .outOfRange) .ok
  | v => .error (.notDateTime v.kind)

/-! ## Units among values -/

/-- Why a value that is no unit of time cannot be rounded to. -/
inductive UnitError
  | unsupported (given : Value)
  | container (kind : Kind)

/-- The complaint about a value that stands where a unit is asked for. -/
def UnitError.ofValue : Value → UnitError
  | .list _ => .container .list
  | .record _ => .container .record
  | v => .unsupported v

def UnitError.message : UnitError → String
  | .unsupported given => s!"Unsupported rounding unit: {given.literal}"
  | .container kind => s!"unhashable type: '{kind.name}'"

end RelativeDate
