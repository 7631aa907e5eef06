import RelativeDate.Text.Digit

/-! # Reading whole numbers

A numeral may have blanks around it, a sign, and single underscores between its digits. Digits
of any script count, and blanks outside ASCII as well. A run of very many digits is refused,
since the cost of reading grows faster than its length, and it is refused before anybody looks
at what follows it. -/

namespace RelativeDate.Text

/-- Why a text is no number. -/
inductive NumeralError
  | malformed
  | tooLong (digits : Nat)
  deriving DecidableEq, Repr

/-- The most digits that a numeral may have, leading zeros included. -/
def digitLimit : Nat := 4300

/-! ## Spelling -/

/-- The ASCII spelling of a blank or a digit. Any other character is kept, and no numeral has
    one outside ASCII. -/
def asciiSpelling (c : Char) : Char :=
  if isWideBlank c then ' ' else ((digitValue? c).map Nat.digitChar).getD c

/-- The digits of a run in which single underscores may stand between two digits. -/
def digitRun? : List Char → Option (List Char)
  | [] => none
  | [c] => if c.isDigit then some [c] else none
  | c :: '_' :: rest => if c.isDigit then (digitRun? rest).map (c :: ·) else none
  | c :: rest => if c.isDigit then (digitRun? rest).map (c :: ·) else none

/-! ## Reading -/

/-- Whether a character belongs to a run of digits. -/
def isRunCharacter (c : Char) : Bool :=
  c.isDigit || c = '_'

/-- The value of a numeral without a sign, from its first digit on. -/
def readUnsigned (s : List Char) : Except NumeralError Nat :=
  match digitRun? (s.takeWhile isRunCharacter) with
  | none => .error .malformed
  | some digits =>
    if digitLimit < digits.length then .error (.tooLong digits.length)
    else if (s.dropWhile isRunCharacter).all isAsciiBlank then
      .ok (Nat.ofDigitChars 10 digits 0)
    else .error .malformed

/-- The value of a numeral. -/
def readInteger (s : List Char) : Except NumeralError Int :=
  match (s.map asciiSpelling).dropWhile isAsciiBlank with
  | '-' :: s => (readUnsigned s).map fun n => -(n : Int)
  | '+' :: s => (readUnsigned s).map Int.ofNat
  | s => (readUnsigned s).map Int.ofNat

/-- What a refused numeral is told. `shown` is the way the message shows the text. -/
def NumeralError.message (shown : String) : NumeralError → String
  | .malformed => s!"invalid literal for int() with base 10: {shown}"
  | .tooLong digits =>
    s!"Exceeds the limit ({digitLimit} digits) for integer string conversion: value has "
      ++ s!"{digits} digits; use sys.set_int_max_str_digits() to increase the limit"

end RelativeDate.Text
