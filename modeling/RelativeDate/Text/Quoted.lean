import RelativeDate.Text.Printable

/-! # Quoted text

How a message shows a text: between quotes, with every character visible. Single quotes are
used, unless the text holds one and no double quote. -/

namespace RelativeDate.Text

/-- The mark that a text is quoted with. -/
def quoteMark (s : List Char) : Char :=
  if s.contains '\'' && !s.contains '"' then '"' else '\''

/-- `n` in hexadecimal, with zeros in front up to `width` digits. -/
def hexPadded (width n : Nat) : List Char :=
  let digits := Nat.toDigits 16 n
  List.replicate (width - digits.length) '0' ++ digits

/-- How a character is written between the marks `mark`. -/
def escape (mark c : Char) : List Char :=
  if c = mark || c = '\\' then ['\\', c]
  else if c = '\t' then ['\\', 't']
  else if c = '\n' then ['\\', 'n']
  else if c = '\r' then ['\\', 'r']
  else if isPrintable c then [c]
  else if c.toNat < 0x100 then '\\' :: 'x' :: hexPadded 2 c.toNat
  else if c.toNat < 0x10000 then '\\' :: 'u' :: hexPadded 4 c.toNat
  else '\\' :: 'U' :: hexPadded 8 c.toNat

def quotedChars (s : List Char) : List Char :=
  let mark := quoteMark s
  mark :: s.flatMap (escape mark) ++ [mark]

/-- A text in quotes. -/
def quoted (s : String) : String :=
  String.ofList (quotedChars s.toList)

/-- A list of texts in brackets, each in quotes. -/
def quotedList (items : List String) : String :=
  "[" ++ ", ".intercalate (items.map quoted) ++ "]"

end RelativeDate.Text
