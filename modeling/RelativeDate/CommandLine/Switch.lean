import RelativeDate.Text.Quoted

/-! # Switches of the command

Every switch has a long spelling, and some have a short one. An argument that cannot be read is
reported by the switch that it belongs to. -/

namespace RelativeDate.CommandLine

/-! ## Switches -/

inductive Switch
  | help
  | stringify
  | now
  | verbose
  deriving DecidableEq, Repr

namespace Switch

def all : List Switch :=
  [.help, .stringify, .now, .verbose]

def spellings : Switch → List String
  | .help => ["-h", "--help"]
  | .stringify => ["--stringify"]
  | .now => ["--now"]
  | .verbose => ["-v", "--verbose"]

/-- Whether a switch takes a value. -/
def takesValue : Switch → Bool
  | .stringify | .now => true
  | .help | .verbose => false

/-- All spellings, each with its switch. -/
def table : List (String × Switch) :=
  all.flatMap fun s => s.spellings.map fun spelling => (spelling, s)

def ofSpelling? (spelling : List Char) : Option Switch :=
  (table.find? fun (known, _) => known.toList = spelling).map (·.2)

/-- The switch with this letter for its short spelling. -/
def ofLetter? (c : Char) : Option Switch :=
  ofSpelling? ['-', c]

/-- The name of a switch in messages. -/
def name (s : Switch) : String :=
  "/".intercalate s.spellings

end Switch

/-! ## Errors -/

inductive ArgumentError
  | ambiguous (argument : String) (spellings : List String)
  | missingValue (switch : Switch)
  | ignoredValue (switch : Switch) (value : List Char)
  | unrecognized (arguments : List String)
  deriving DecidableEq, Repr

def ArgumentError.message : ArgumentError → String
  | .ambiguous argument spellings =>
    s!"ambiguous option: {argument} could match " ++ ", ".intercalate spellings
  | .missingValue switch => s!"argument {switch.name}: expected one argument"
  | .ignoredValue switch value =>
    s!"argument {switch.name}: ignored explicit argument "
      ++ String.ofList (Text.quotedChars value)
  | .unrecognized arguments => "unrecognized arguments: " ++ " ".intercalate arguments

end RelativeDate.CommandLine
