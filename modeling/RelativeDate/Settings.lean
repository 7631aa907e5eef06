import RelativeDate.UnitScale
import RelativeDate.Value

/-! # Settings

Three settings govern an evaluator. They come as named values in order, and any name and any
value may be held until the settings are checked. The check goes through the entries in order
and answers the first fault. When there is none, it yields a configuration. -/

namespace RelativeDate

/-! ## The settings there are -/

inductive Setting
  /-- The anchor, in place of the clock. -/
  | base
  /-- Whether results carry their offset. -/
  | withOffset
  /-- The units that differences are written in. -/
  | scale
  deriving DecidableEq, Repr

namespace Setting

def all : List Setting :=
  [.base, .withOffset, .scale]

def name : Setting → String
  | .base => "RELATIVE_BASE"
  | .withOffset => "RETURN_AS_TIMEZONE_AWARE"
  | .scale => "STRINGIFY_UNITS"

def ofName? (name : String) : Option Setting :=
  all.find? (·.name = name)

/-- The kind of the values of a setting. -/
def kind : Setting → Kind
  | .base => .dateTime
  | .withOffset => .bool
  | .scale => .text

def defaultValue : Setting → Value
  | .base => .null
  | .withOffset => .bool true
  | .scale => .text FixedUnit.symbols

/-- Whether a value equals the default of a setting. Numbers equal to one count as truth. -/
def isDefault : Setting → Value → Bool
  | .base, .null => true
  | .withOffset, v => v.isOne
  | .scale, .text s => s = FixedUnit.symbols
  | _, _ => false

end Setting

/-! ## Faults -/

inductive SettingError
  | unknown (name : String)
  | wrongKind (setting : Setting) (given : Kind)
  | noUnits
  | invalidUnits (symbols : List Char)
  | repeatedUnits
  | misorderedUnits
  deriving DecidableEq, Repr

def SettingError.message : SettingError → String
  | .unknown name => s!"\"{name}\" is not a valid setting"
  | .wrongKind setting given =>
    s!"\"{setting.name}\" must be \"{setting.kind.name}\", not \"{given.name}\"."
  | .noUnits => s!"\"{Setting.scale.name}\" must contain at least one unit"
  | .invalidUnits symbols =>
    let shown := ", ".intercalate (symbols.map fun c => Text.quoted (String.ofList [c]))
    s!"Found invalid units {shown} in \"{Setting.scale.name}\". "
      ++ s!"Supported units: \"{FixedUnit.symbols}\""
  | .repeatedUnits => s!"There are repeated units in \"{Setting.scale.name}\""
  | .misorderedUnits =>
    s!"Units in \"{Setting.scale.name}\" must go from largest to smallest "
      ++ s!"(\"{FixedUnit.symbols}\")"

/-! ## Named values in order -/

/-- A named value. -/
abbrev Entry := String × Value

/-- Give a name a value. A name that has one keeps its place, and a new one comes last. -/
def assign (entries : List Entry) (entry : Entry) : List Entry :=
  if entries.any (·.1 = entry.1) then
    entries.map fun held => if held.1 = entry.1 then entry else held
  else entries ++ [entry]

/-- Give names their values one after the other. -/
def assignAll (entries updates : List Entry) : List Entry :=
  updates.foldl assign entries

structure Settings where
  entries : List Entry

namespace Settings

/-- All settings at their defaults. -/
def default : Settings where
  entries := Setting.all.map fun s => (s.name, s.defaultValue)

def update (settings : Settings) (updates : List Entry) : Settings :=
  ⟨assignAll settings.entries updates⟩

/-- The defaults, with some names given other values. -/
def ofEntries (updates : List Entry) : Settings :=
  default.update updates

/-- Whether every value equals its default and no other name is held. -/
def isDefault (settings : Settings) : Bool :=
  settings.entries.all fun (name, v) =>
    (Setting.ofName? name).elim false fun setting => setting.isDefault v

/-- The attributes of settings. What they hold as a whole comes first, and whether it equals the
    defaults. Then every entry becomes an attribute, in the place of an earlier one of its name. -/
def attributes (settings : Settings) : List Entry :=
  assignAll [("_settings", .record settings.entries), ("_default", .bool settings.isDefault)]
    settings.entries

def attribute? (settings : Settings) (name : String) : Option Value :=
  settings.attributes.lookup name

/-- Whether settings pass for the defaults. An entry may decide that in the place of the
    comparison. -/
def passForDefault (settings : Settings) : Bool :=
  (settings.attribute? "_default").any Value.isTruthy

/-- Why settings cannot be replaced: this name, given on its own, is no setting. -/
structure ReplaceError where
  name : String
  deriving DecidableEq, Repr

def ReplaceError.message (e : ReplaceError) : String :=
  s!"Invalid setting: {Text.quoted e.name}"

/-- Settings with other values. The names in `named` have to be settings, those in `updates`
    need not be. Of two values for one name, the one in `named` wins. The settings are made anew
    from the defaults and all of these values. -/
def replace (settings : Settings) (updates named : List Entry) : Except ReplaceError Settings :=
  match named.find? fun entry => (Setting.ofName? entry.1).isNone with
  | some entry => .error ⟨entry.1⟩
  | none => .ok (ofEntries (assignAll (assignAll settings.entries updates) named))

end Settings

/-! ## Checking -/

/-- Settings that passed the check. -/
structure Config where
  base : Option DateTime
  withOffset : Bool
  scale : UnitScale

def Config.default : Config :=
  ⟨none, true, .full⟩

/-- The scale with these symbols. It must not be empty, hold other symbols, or repeat one, and
    the longest unit must come first. -/
def UnitScale.ofSymbols (symbols : List Char) : Except SettingError UnitScale :=
  let units := symbols.filterMap FixedUnit.ofSymbol?
  let invalid := symbols.filter fun c => (FixedUnit.ofSymbol? c).isNone
  if symbols = [] then .error .noUnits
  else if invalid ≠ [] then .error (.invalidUnits invalid)
  else if ¬ units.Nodup then .error .repeatedUnits
  else if h : units ≠ [] ∧ units.Pairwise fun u v => v.millis < u.millis then .ok ⟨units, h.1, h.2⟩
  else .error .misorderedUnits

/-- Set one setting of a configuration. -/
def Config.set (config : Config) (setting : Setting) (v : Value) : Except SettingError Config :=
  match setting, v with
  | .base, .null => .ok { config with base := none }
  | .base, .dateTime d => .ok { config with base := some d }
  | .withOffset, .bool b => .ok { config with withOffset := b }
  | .scale, .text s =>
    (UnitScale.ofSymbols s.toList).map fun scale => { config with scale }
  | _, _ => .error (.wrongKind setting v.kind)

/-- Set what one named value asks for. -/
def Config.apply (config : Config) (entry : Entry) : Except SettingError Config :=
  match Setting.ofName? entry.1 with
  | none => .error (.unknown entry.1)
  | some setting => config.set setting entry.2

/-- Check named values in order. The settings that none of them names are at their defaults. -/
def Config.ofEntries (entries : List Entry) : Except SettingError Config :=
  entries.foldlM Config.apply .default

/-- Check settings. -/
def Settings.check (settings : Settings) : Except SettingError Config :=
  Config.ofEntries settings.entries

end RelativeDate
