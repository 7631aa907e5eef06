import RelativeDate.CommandLine.Word

/-! # Arguments of the command

The command takes one expression and a few switches. Short switches may be written together. A
switch with a value takes it from behind an equals sign or from the next argument.

Arguments are read from left to right, and asking for help ends the reading. What nobody takes
is complained about at the end. -/

namespace RelativeDate.CommandLine

/-! ## Short switches in one argument -/

/-- The switches that are written together from `s` on. None of them takes a value, so what is no
    switch is a value in excess, given to the switch before it. -/
def joinedSwitches (s : Switch) : List Char → Except ArgumentError (List Switch)
  | [] => .ok [s]
  | c :: rest =>
    match Switch.ofLetter? c with
    | none => .error (.ignoredValue s (c :: rest))
    | some next => (joinedSwitches next rest).map (s :: ·)

/-- The switches without a value that an argument sets. -/
def switchesOf (s : Switch) : Attached → Except ArgumentError (List Switch)
  | .nothing => .ok [s]
  | .value text => .error (.ignoredValue s text)
  | .joined [] => .error (.ignoredValue s [])
  | .joined text => joinedSwitches s text

/-! ## All arguments -/

/-- What the arguments ask for. -/
structure Arguments where
  expression : Option String := none
  stringify : Option String := none
  now : Option String := none
  verbose : Bool := false
  deriving DecidableEq, Repr

inductive Request
  | help
  | run (arguments : Arguments)
  deriving DecidableEq, Repr

/-- What has been read of the arguments. -/
structure Progress where
  arguments : Arguments := {}
  /-- What nobody took, in order. -/
  unused : List String := []
  /-- Whether the last argument was taken as the expression. -/
  justTaken : Bool := false

namespace Progress

/-- Leave arguments unused. -/
def leave (p : Progress) (args : List String) : Progress :=
  { p with unused := p.unused ++ args, justTaken := false }

/-- Take a plain argument as the expression, unless there is one. -/
def take (p : Progress) (arg : String) : Progress :=
  if p.arguments.expression.isSome then p.leave [arg]
  else { p with arguments.expression := some arg, justTaken := true }

/-- Take what follows `--`, where nothing is a switch. The mark itself is part of the
    expression that it stands before or right after, and unused anywhere else. -/
def takeRest (p : Progress) (args : List String) : Progress :=
  if p.arguments.expression.isSome then
    if p.justTaken then p.leave args else p.leave ("--" :: args)
  else
    match args with
    | [] => p
    | arg :: rest => (p.take arg).leave rest

/-- Set switches that take no value. -/
def set (p : Progress) (switches : List Switch) : Progress :=
  let p := p.leave []
  if .verbose ∈ switches then { p with arguments.verbose := true } else p

/-- Give a switch its value. A later value replaces an earlier one, and `--` takes an earlier
    one back. -/
def give (p : Progress) (s : Switch) (value : String) : Progress :=
  let p := p.leave []
  let value := if value = "--" then none else some value
  match s with
  | .stringify => { p with arguments.stringify := value }
  | .now => { p with arguments.now := value }
  | _ => p

/-- End the reading. -/
def finish (p : Progress) : Except ArgumentError Request :=
  if p.unused = [] then .ok (.run p.arguments) else .error (.unrecognized p.unused)

/-- Read words from left to right, and what follows `--` after them. -/
def read (after : Option (List String)) (p : Progress) :
    List (String × Word) → Except ArgumentError Request
  | [] => (after.elim p p.takeRest).finish
  | (arg, .plain) :: rest => read after (p.take arg) rest
  | (arg, .unknown) :: rest => read after (p.leave [arg]) rest
  | (_, .switch s attached) :: rest =>
    if s.takesValue then
      match attached, rest with
      | .value text, rest => read after (p.give s (String.ofList text)) rest
      | _, (arg, .plain) :: rest => read after (p.give s arg) rest
      | _, _ => .error (.missingValue s)
    else
      match switchesOf s attached with
      | .error cause => .error cause
      | .ok switches => if .help ∈ switches then .ok .help else read after (p.set switches) rest

end Progress

/-- What the arguments of the command ask for. -/
def read (args : List String) : Except ArgumentError Request :=
  match Words.ofArguments args with
  | .error cause => .error cause
  | .ok words => Progress.read words.after {} words.before

end RelativeDate.CommandLine
