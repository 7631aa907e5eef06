import RelativeDate.Text.Digit
import RelativeDate.CommandLine.Switch

/-! # What an argument looks like

An argument with a dash in front is a switch, except a dash alone, a negative number and a text
with a blank that is no switch. A long switch may be cut short as long as only one can be meant.
After `--` no argument is a switch.

All arguments are told apart before any of them is used, so one that could mean several switches
is reported first. -/

namespace RelativeDate.CommandLine

/-! ## One argument -/

/-- What is written together with a switch. -/
inductive Attached
  | nothing
  /-- What is behind the equals sign of a long switch. -/
  | value (text : List Char)
  /-- What is after a short switch, at once or behind an equals sign. -/
  | joined (text : List Char)
  deriving DecidableEq, Repr

/-- What an argument looks like. -/
inductive Word
  | plain
  | switch (switch : Switch) (attached : Attached)
  | unknown
  deriving DecidableEq, Repr

/-- The part of an argument before its first equals sign, and the part after it. -/
def splitValue (arg : List Char) : List Char × Option (List Char) :=
  match arg.dropWhile (· ≠ '=') with
  | _ :: value => (arg.takeWhile (· ≠ '='), some value)
  | [] => (arg, none)

/-- What an equals sign attaches to a spelling. A short one has two characters. -/
def attach (spelling : List Char) : Option (List Char) → Attached
  | none => .nothing
  | some text => if spelling.length = 2 then .joined text else .value text

/-- The spellings that an argument may stand for: with two dashes every one that its name
    starts, with one dash the short one that it starts with. -/
def candidates (arg : List Char) : List (String × Switch × Attached) :=
  let (name, value) := splitValue arg
  Switch.table.filterMap fun (spelling, s) =>
    if arg.take 2 = ['-', '-'] then
      if name.isPrefixOf spelling.toList then some (spelling, s, attach spelling.toList value)
      else none
    else if arg.take 2 = spelling.toList then some (spelling, s, .joined (arg.drop 2))
    else none

/-- Whether an argument is a dash and a number, whole or with a point. A line break may
    follow. -/
def isNegativeNumber : List Char → Bool
  | '-' :: s =>
    let s := if s.getLast? = some '\n' then s.dropLast else s
    let isDigit (c : Char) := (Text.digitValue? c).isSome
    let digits (t : List Char) := t ≠ [] && t.all isDigit
    digits s ||
      match s.dropWhile isDigit with
      | '.' :: places => digits places
      | _ => false
  | _ => false

/-- Say what an argument looks like. -/
def classify (arg : String) : Except ArgumentError Word :=
  let chars := arg.toList
  let (name, value) := splitValue chars
  if chars.head? ≠ some '-' then .ok .plain
  else
    match Switch.ofSpelling? chars with
    | some s => .ok (.switch s .nothing)
    | none =>
      if chars = ['-'] then .ok .plain
      else
        match Switch.ofSpelling? name with
        | some s => .ok (.switch s (attach name value))
        | none =>
          match candidates chars with
          | [(_, s, attached)] => .ok (.switch s attached)
          | [] =>
            if isNegativeNumber chars || chars.contains ' ' then .ok .plain else .ok .unknown
          | several => .error (.ambiguous arg (several.map (·.1)))

/-! ## All arguments -/

/-- The arguments, told apart. -/
structure Words where
  /-- The arguments before `--`, each with what it looks like. -/
  before : List (String × Word)
  /-- The arguments after `--`, if that is there. -/
  after : Option (List String)
  deriving DecidableEq, Repr

/-- Tell the arguments apart. The first ambiguous one is reported. -/
def Words.ofArguments : List String → Except ArgumentError Words
  | [] => .ok ⟨[], none⟩
  | arg :: rest =>
    if arg = "--" then .ok ⟨[], some rest⟩
    else do
      let word ← classify arg
      let words ← ofArguments rest
      return { words with before := (arg, word) :: words.before }

end RelativeDate.CommandLine
