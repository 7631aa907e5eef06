import RelativeDate.Operation
import RelativeDate.Text.Numeral
import RelativeDate.Text.Quoted

/-! # Tokens of an expression

What follows the word `now` is a run of steps, such as `-1d` or `+12h`, and then at most one
rounding, such as `/d`. A step has a sign, at least one digit and a unit.

`tokens?` looks for steps anywhere in a suffix, and refuses it when they do not cover all of it.
`ofToken` reads one token, and is more liberal: between the first and the last character it
takes any numeral. -/

namespace RelativeDate

/-- The characters of one written operation. -/
abbrev Token := List Char

namespace Token

def text (t : Token) : String :=
  String.ofList t

/-! ## Cutting a suffix -/

def isSign (c : Char) : Bool :=
  c = '+' || c = '-'

def isUnit (c : Char) : Bool :=
  (TimeUnit.ofSymbol? c).isSome

/-- The step that a text starts with. Its digits go on as far as they can. -/
def leadingStep? : List Char → Option Token
  | [] => none
  | sign :: rest =>
    if isSign sign then
      let digits := rest.takeWhile Char.isDigit
      match rest.dropWhile Char.isDigit with
      | unit :: _ => if digits ≠ [] ∧ isUnit unit then some (sign :: digits ++ [unit]) else none
      | [] => none
    else none

/-- The steps in a text, from left to right. What starts no step is passed over. The first
    argument counts the characters that still belong to the step found last. -/
def stepsIn : Nat → List Char → List Token
  | _, [] => []
  | n + 1, _ :: rest => stepsIn n rest
  | 0, c :: rest =>
    match leadingStep? (c :: rest) with
    | some t => t :: stepsIn (t.length - 1) rest
    | none => stepsIn 0 rest

/-- The number of characters of tokens taken together. -/
def totalLength : List Token → Nat
  | [] => 0
  | t :: ts => t.length + totalLength ts

/-- Part a text from the rounding at its end. Only its last two characters are looked at. -/
def partRounding (s : List Char) : List Char × Option Token :=
  match s.reverse with
  | u :: '/' :: front => if isUnit u then (front.reverse, some ['/', u]) else (s, none)
  | _ => (s, none)

end Token

/-- The tokens of what follows the word `now`. The steps found in it have to cover all that
    stands before the rounding, and there has to be one token at least. -/
def tokens? (suffix : List Char) : Option (List Token) :=
  let (front, rounding) := Token.partRounding suffix
  let steps := Token.stepsIn 0 front
  let tokens := steps ++ rounding.toList
  if Token.totalLength steps = front.length ∧ tokens ≠ [] then some tokens else none

/-! ## Reading a token -/

/-- Why a token is no operation. -/
inductive TokenError
  | empty
  | notOperator (c : Char)
  | notUnit (c : Char)
  | number (text : List Char) (cause : Text.NumeralError)
  deriving DecidableEq, Repr

/-- The longest that a message shows a text that is no number. -/
def shownLimit : Nat := 200

def TokenError.message : TokenError → String
  | .empty => "string index out of range"
  | .notOperator c => s!"{Text.quoted (String.ofList [c])} is not a valid Operator"
  | .notUnit c => s!"{Text.quoted (String.ofList [c])} is not a valid Unit"
  | .number text cause =>
    cause.message (String.ofList ((Text.quotedChars text).take shownLimit))

namespace Operation

/-- Read an operation from its first character, its last one, and the numeral between them. A
    rounding does not look at what is between. -/
def ofToken : Token → Except TokenError Operation
  | [] => .error .empty
  | c :: rest =>
    match Operator.ofSymbol? c with
    | none => .error (.notOperator c)
    | some operator =>
      let last := rest.getLastD c
      match TimeUnit.ofSymbol? last, operator with
      | none, _ => .error (.notUnit last)
      | some u, .round => .ok (.round u)
      | some u, .move dir =>
        match Text.readInteger rest.dropLast with
        | .error cause => .error (.number rest.dropLast cause)
        | .ok amount => .ok (.move dir u amount)

end Operation

/-! ## Reading a suffix -/

/-- Why a suffix is no list of operations. -/
inductive SuffixError
  | malformed (expression : String)
  | token (cause : TokenError)
  deriving DecidableEq, Repr

/-- The expression that a suffix belongs to when none is given. -/
def expressionOf (suffix : String) : String :=
  "now" ++ suffix

/-- The tokens of a suffix. An error names the whole expression. -/
def tokensOf (suffix : String) (expression : String := expressionOf suffix) :
    Except SuffixError (List Token) :=
  (tokens? suffix.toList).elim (.error (.malformed expression)) .ok

/-- The operations of a suffix. -/
def operationsOf (suffix : String) (expression : String := expressionOf suffix) :
    Except SuffixError (List Operation) := do
  let tokens ← tokensOf suffix expression
  (tokens.mapM Operation.ofToken).mapError .token

end RelativeDate
