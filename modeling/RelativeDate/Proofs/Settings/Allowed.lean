import Mathlib.Data.List.Sort
import RelativeDate.Proofs.Config

/-! # Allowed settings

The values that each setting may have, and what is said about a named value that is not allowed.
The check accepts the entries when all of them are allowed, and otherwise says what there is to say
about the first one that is not. The symbols of units are put to four tests, the last of which sorts
them. They pass all four when they are some of `wdhms` in this order. -/

namespace RelativeDate

variable {entry : Entry} {entries : List Entry} {symbols : List Char} {config : Config}

/-! ## What is allowed -/

def Setting.names : List String :=
  Setting.all.map Setting.name

/-- The values that a setting may have. -/
def Setting.Allows : Setting → Value → Prop
  | .base, v => v = .null ∨ ∃ d, v = .dateTime d
  | .withOffset, v => ∃ b, v = .bool b
  | .scale, v => ∃ s, v = .text s ∧ s ≠ "" ∧ s.toList.Sublist "wdhms".toList

/-- An entry gives one of the settings a value that it may have. -/
def IsAllowed (entry : Entry) : Prop :=
  ∃ setting, Setting.name setting = entry.1 ∧ setting.Allows entry.2

/-! ## What is said about the rest -/

/-- The place of a symbol among the symbols of all units. -/
def symbolPlace (c : Char) : Nat :=
  "wdhms".toList.idxOf c

/-- What is said about symbols. They must not be missing, nor unknown, nor repeated, and sorting
    them must not change their order. -/
def symbolsComplaint? (symbols : List Char) : Option String :=
  let unknown := symbols.filter fun c => c ∉ "wdhms".toList
  if symbols = [] then some "\"STRINGIFY_UNITS\" must contain at least one unit"
  else if unknown ≠ [] then
    let shown := unknown.map fun c => Text.quoted (String.ofList [c])
    some ("Found invalid units " ++ ", ".intercalate shown
      ++ " in \"STRINGIFY_UNITS\". Supported units: \"wdhms\"")
  else if ¬ symbols.Nodup then some "There are repeated units in \"STRINGIFY_UNITS\""
  else if symbols.mergeSort (fun c d => symbolPlace c ≤ symbolPlace d) ≠ symbols then
    some "Units in \"STRINGIFY_UNITS\" must go from largest to smallest (\"wdhms\")"
  else none

/-- What is said about an entry that is not allowed. -/
inductive Complaint : Entry → String → Prop
  | unknown {name : String} {v : Value} (h : name ∉ Setting.names) :
    Complaint (name, v) ("\"" ++ name ++ "\" is not a valid setting")
  /-- The base may be missing. All other values must have the kind of their setting. -/
  | wrongKind {setting : Setting} {v : Value} (hbase : ¬ (setting = .base ∧ v.kind = .null))
      (h : v.kind ≠ setting.kind) :
    Complaint (setting.name, v) ("\"" ++ setting.name ++ "\" must be \"" ++ setting.kind.name
      ++ "\", not \"" ++ v.kind.name ++ "\".")
  | symbols {s m : String} (h : symbolsComplaint? s.toList = some m) :
    Complaint ("STRINGIFY_UNITS", .text s) m

/-! ## Symbols -/

namespace FixedUnit

theorem mem_wdhms_iff {c : Char} : c ∈ "wdhms".toList ↔ ∃ u, symbol u = c := by
  have hsymbols : "wdhms".toList = all.map symbol := by decide
  have hall : ∀ u, u ∈ all := by
    intro u
    cases u <;> decide
  simp [hsymbols, hall]

theorem isNone_ofSymbol?_iff {c : Char} : (ofSymbol? c).isNone ↔ c ∉ "wdhms".toList := by
  rw [mem_wdhms_iff, not_exists, Option.isNone_iff_eq_none]
  constructor
  · rintro h u rfl
    simp at h
  · intro h
    cases hc : ofSymbol? c with
    | none => rfl
    | some u => exact absurd (symbol_of_ofSymbol? hc) (h u)

theorem symbol_injective : Function.Injective symbol := by
  intro u v h
  simpa using congrArg ofSymbol? h

/-- A unit is longer than another one when its symbol comes first. -/
theorem symbolPlace_le_and_ne_iff (u v : FixedUnit) :
    symbolPlace u.symbol ≤ symbolPlace v.symbol ∧ u.symbol ≠ v.symbol ↔ v.millis < u.millis := by
  cases u <;> cases v <;> decide

theorem nodup_and_ordered_iff {units : List FixedUnit} :
    (units.map symbol).Nodup ∧
        (units.map symbol).Pairwise (fun c d => symbolPlace c ≤ symbolPlace d) ↔
      units.Pairwise fun u v => v.millis < u.millis := by
  rw [and_comm, List.Nodup, ← List.pairwise_and_iff, List.pairwise_map]
  simp only [symbolPlace_le_and_ne_iff]

theorem mergeSort_symbols_eq_iff :
    symbols.mergeSort (fun c d => symbolPlace c ≤ symbolPlace d) = symbols ↔
      symbols.Pairwise fun c d => symbolPlace c ≤ symbolPlace d := by
  constructor
  · intro h
    have hsorted := @List.pairwise_mergeSort Char (fun c d => symbolPlace c ≤ symbolPlace d)
      (by simpa using fun _ _ _ => Nat.le_trans) (by simpa using fun _ _ => Nat.le_total _ _)
      symbols
    rw [h] at hsorted
    simpa using hsorted
  · intro h
    exact List.mergeSort_of_pairwise (by simpa using h)

/-- Units are in decreasing order when they are some of all units in the order of these. -/
theorem pairwise_iff_sublist_all {units : List FixedUnit} :
    (units.Pairwise fun u v => v.millis < u.millis) ↔ units.Sublist all := by
  have hall : all.Pairwise fun u v => v.millis < u.millis := by decide
  constructor
  · intro h
    have hnodup : units.Nodup := h.imp fun hlt heq => by
      rw [heq] at hlt
      exact Nat.lt_irrefl _ hlt
    have hsubset : units ⊆ all := fun u _ => by cases u <;> decide
    have : Std.Antisymm fun u v : FixedUnit => v.millis < u.millis :=
      ⟨fun u v huv hvu => absurd huv (Nat.lt_asymm hvu)⟩
    exact List.sublist_of_subperm_of_pairwise (List.subperm_of_subset hnodup hsubset) h hall
  · intro h
    exact hall.sublist h

end FixedUnit

/-! ## The messages of the check -/

namespace SettingError

theorem message_unknown (name : String) :
    (unknown name).message = "\"" ++ name ++ "\" is not a valid setting" := by
  unfold message
  simp only [toString, String.append_assoc]

theorem message_wrongKind (setting : Setting) (given : Kind) :
    (wrongKind setting given).message = "\"" ++ setting.name ++ "\" must be \"" ++ setting.kind.name
      ++ "\", not \"" ++ given.name ++ "\"." := by
  unfold message
  simp only [toString, String.append_assoc]

theorem message_invalidUnits (unknown : List Char) :
    (invalidUnits unknown).message = "Found invalid units "
      ++ ", ".intercalate (unknown.map fun c => Text.quoted (String.ofList [c]))
      ++ " in \"STRINGIFY_UNITS\". Supported units: \"wdhms\"" := by
  unfold message
  simp only [toString, String.append_assoc]
  congr 2

end SettingError

/-- What is said about symbols is the message of the fault that is found in them. -/
theorem symbolsComplaint?_eq (symbols : List Char) :
    symbolsComplaint? symbols =
      match UnitScale.ofSymbols symbols with
      | .ok _ => none
      | .error cause => some cause.message := by
  have hunknown : symbols.filter (fun c => c ∉ "wdhms".toList) =
      symbols.filter fun c => (FixedUnit.ofSymbol? c).isNone :=
    List.filter_congr fun c _ => by
      rw [Bool.eq_iff_iff, FixedUnit.isNone_ofSymbol?_iff, decide_eq_true_iff]
  simp only [symbolsComplaint?, UnitScale.ofSymbols, hunknown]
  split
  · rfl
  split
  · exact congrArg some (SettingError.message_invalidUnits _).symm
  rename_i hempty hvalid
  -- All symbols are symbols of units from here on, and none is lost in reading them.
  have hunits : (symbols.filterMap FixedUnit.ofSymbol?).map FixedUnit.symbol = symbols := by
    rw [Decidable.not_not, List.filter_eq_nil_iff] at hvalid
    exact FixedUnit.map_symbol_filterMap (by simpa using hvalid)
  have hnodup : (symbols.filterMap FixedUnit.ofSymbol?).Nodup ↔ symbols.Nodup := by
    conv_rhs => rw [← hunits]
    exact (List.nodup_map_iff FixedUnit.symbol_injective).symm
  simp only [hnodup]
  split
  · rfl
  rename_i hrepeated
  have horder : symbols.mergeSort (fun c d => symbolPlace c ≤ symbolPlace d) = symbols ↔
      symbols.filterMap FixedUnit.ofSymbol? ≠ [] ∧
        (symbols.filterMap FixedUnit.ofSymbol?).Pairwise fun u v => v.millis < u.millis := by
    have hne : symbols.filterMap FixedUnit.ofSymbol? ≠ [] := by
      intro hnil
      rw [hnil] at hunits
      exact hempty hunits.symm
    rw [← FixedUnit.nodup_and_ordered_iff, hunits, FixedUnit.mergeSort_symbols_eq_iff]
    simp [hne, Decidable.not_not.mp hrepeated]
  simp only [ne_eq, horder, ite_not]
  split
  · rfl
  · rfl

/-- The symbols of some units in order are the symbols of units in decreasing order. -/
theorem sublist_wdhms_iff :
    symbols ≠ [] ∧ symbols.Sublist "wdhms".toList ↔
      ∃ units, units ≠ [] ∧ units.Pairwise (fun u v => v.millis < u.millis) ∧
        units.map FixedUnit.symbol = symbols := by
  have hsymbols : "wdhms".toList = FixedUnit.all.map FixedUnit.symbol := by decide
  simp only [hsymbols, FixedUnit.pairwise_iff_sublist_all]
  constructor
  · rintro ⟨hne, hsublist⟩
    obtain ⟨units, hunits, rfl⟩ := List.sublist_map_iff.mp hsublist
    exact ⟨units, by simpa using hne, hunits, rfl⟩
  · rintro ⟨units, hne, hunits, rfl⟩
    exact ⟨by simpa using hne, hunits.map _⟩

/-- The texts that are accepted for a scale are the symbols of some units in order. -/
theorem exists_ofSymbols_iff :
    (∃ scale, UnitScale.ofSymbols symbols = .ok scale) ↔
      symbols ≠ [] ∧ symbols.Sublist "wdhms".toList := by
  simp only [UnitScale.ofSymbols_eq_ok_iff, sublist_wdhms_iff]
  constructor
  · rintro ⟨scale, rfl⟩
    exact ⟨scale.units, scale.units_ne_nil, scale.decreasing, rfl⟩
  · rintro ⟨units, hne, hdecreasing, rfl⟩
    exact ⟨⟨units, hne, hdecreasing⟩, rfl⟩

/-! ## The check of one entry -/

@[simp] theorem Setting.ofName?_name (setting : Setting) :
    ofName? setting.name = some setting := by
  cases setting <;> decide

theorem Setting.ofName?_eq_none_iff {name : String} : ofName? name = none ↔ name ∉ names := by
  simp [ofName?, names]

/-- A value that is accepted for a setting is one that the setting may have. -/
theorem exists_set_iff_allows {setting : Setting} {v : Value} :
    (∃ next, config.set setting v = .ok next) ↔ setting.Allows v := by
  cases setting with
  | base => cases v <;> simp [Config.set, Setting.Allows]
  | withOffset => cases v <;> simp [Config.set, Setting.Allows]
  | scale =>
    cases v with
    | text s =>
      have hsymbols := @exists_ofSymbols_iff s.toList
      rw [Ne, String.toList_eq_nil_iff] at hsymbols
      simp only [Setting.Allows, Value.text.injEq, exists_eq_left', ← hsymbols, Config.set]
      cases UnitScale.ofSymbols s.toList <;> simp [Except.map]
    | _ => simp [Config.set, Setting.Allows]

theorem isValidEntry_iff_isAllowed : IsValidEntry entry ↔ IsAllowed entry := by
  obtain ⟨name, v⟩ := entry
  unfold IsValidEntry IsAllowed Config.apply
  cases hname : Setting.ofName? name with
  | none =>
    have hunknown : ∀ setting, Setting.name setting ≠ name := by
      rintro setting rfl
      simp at hname
    simp [hunknown]
  | some setting =>
    obtain rfl := Setting.name_of_ofName? hname
    simp only [exists_set_iff_allows, Setting.name_injective.eq_iff, exists_eq_left]

theorem apply_name (config : Config) (setting : Setting) (v : Value) :
    config.apply (setting.name, v) = config.set setting v := by
  simp [Config.apply]

/-- A value of another kind is refused, unless it says that there is no base. -/
theorem set_of_kind_ne {setting : Setting} {v : Value}
    (hbase : ¬ (setting = .base ∧ v.kind = .null)) (h : v.kind ≠ setting.kind) :
    config.set setting v = .error (.wrongKind setting v.kind) := by
  cases setting with
  | base =>
    cases v with
    | null => exact absurd ⟨rfl, rfl⟩ hbase
    | dateTime d => exact absurd rfl h
    | _ => rfl
  | withOffset =>
    cases v with
    | bool b => exact absurd rfl h
    | _ => rfl
  | scale =>
    cases v with
    | text s => exact absurd rfl h
    | _ => rfl

/-- A value of the right kind is only refused when it is a text of symbols that are not. -/
theorem exists_text_of_set_eq_error {setting : Setting} {v : Value} {cause : SettingError}
    (hkind : v.kind = setting.kind) (h : config.set setting v = .error cause) :
    setting = .scale ∧ ∃ s, v = .text s ∧ UnitScale.ofSymbols s.toList = .error cause := by
  cases setting with
  | base => cases v <;> cases hkind; cases h
  | withOffset => cases v <;> cases hkind; cases h
  | scale =>
    cases v <;> cases hkind
    rename_i s
    simp only [Config.set] at h
    cases hscale : UnitScale.ofSymbols s.toList with
    | ok scale => simp [hscale, Except.map] at h
    | error fault => exact ⟨rfl, s, rfl, by simpa [hscale, Except.map] using h⟩

theorem complaint_of_set_eq_error {setting : Setting} {v : Value} {cause : SettingError}
    (h : config.set setting v = .error cause) : Complaint (setting.name, v) cause.message := by
  by_cases hkind : v.kind = setting.kind
  · obtain ⟨rfl, s, rfl, hsymbols⟩ := exists_text_of_set_eq_error hkind h
    exact .symbols (by rw [symbolsComplaint?_eq, hsymbols])
  · have hbase : ¬ (setting = .base ∧ v.kind = .null) := by
      rintro ⟨rfl, hnull⟩
      cases v <;> cases hnull
      cases h
    rw [set_of_kind_ne hbase hkind] at h
    obtain rfl := Except.error.inj h
    rw [SettingError.message_wrongKind]
    exact .wrongKind hbase hkind

/-- The messages of the check are what is said about the entries that are not allowed. -/
theorem exists_apply_error_iff {m : String} :
    (∃ cause, Config.default.apply entry = .error cause ∧ cause.message = m) ↔
      Complaint entry m := by
  constructor
  · obtain ⟨name, v⟩ := entry
    rintro ⟨cause, h, rfl⟩
    cases hname : Setting.ofName? name with
    | none =>
      simp only [Config.apply, hname, Except.error.injEq] at h
      rw [← h, SettingError.message_unknown]
      exact .unknown (Setting.ofName?_eq_none_iff.mp hname)
    | some setting =>
      obtain rfl := Setting.name_of_ofName? hname
      rw [apply_name] at h
      exact complaint_of_set_eq_error h
  · intro h
    cases h with
    | unknown hname =>
      refine ⟨_, ?_, SettingError.message_unknown _⟩
      simp only [Config.apply, Setting.ofName?_eq_none_iff.mpr hname]
    | wrongKind hbase hkind =>
      exact ⟨_, (apply_name .default _ _).trans (set_of_kind_ne hbase hkind),
        SettingError.message_wrongKind _ _⟩
    | @symbols s m hm =>
      rw [symbolsComplaint?_eq] at hm
      cases hsymbols : UnitScale.ofSymbols s.toList with
      | ok scale => simp [hsymbols] at hm
      | error cause =>
        refine ⟨cause, (apply_name .default .scale _).trans ?_, by simpa [hsymbols] using hm⟩
        simp only [Config.set, hsymbols, Except.map]

/-! ## The check of all entries -/

/-- The check accepts entries when each of them is allowed. -/
theorem exists_ofEntries_iff :
    (∃ config, Config.ofEntries entries = .ok config) ↔ ∀ entry ∈ entries, IsAllowed entry := by
  simp only [Config.ofEntries, exists_foldlM_apply_iff, isValidEntry_iff_isAllowed]

theorem exists_ofEntries_eq_error_iff :
    (∃ cause, Config.ofEntries entries = .error cause) ↔ ∃ entry ∈ entries, ¬ IsAllowed entry := by
  have hok := @exists_ofEntries_iff entries
  cases h : Config.ofEntries entries with
  | ok config => simpa [h] using hok
  | error cause => simpa [h] using hok

/-- The message of the check is what is said about the first entry that is not allowed. -/
theorem exists_message_ofEntries_iff {m : String} :
    (∃ cause, Config.ofEntries entries = .error cause ∧ cause.message = m) ↔
      ∃ before entry after, entries = before ++ entry :: after ∧
        (∀ e ∈ before, IsAllowed e) ∧ Complaint entry m := by
  simp only [Config.ofEntries, foldlM_apply_eq_error_iff, isValidEntry_iff_isAllowed,
    ← exists_apply_error_iff]
  constructor
  · rintro ⟨cause, ⟨before, entry, after, rfl, hbefore, hentry⟩, hmessage⟩
    exact ⟨before, entry, after, rfl, hbefore, cause, hentry, hmessage⟩
  · rintro ⟨before, entry, after, rfl, hbefore, cause, hentry, hmessage⟩
    exact ⟨cause, ⟨before, entry, after, rfl, hbefore, hentry⟩, hmessage⟩

/-- The check accepts entries exactly when all of them are allowed. Otherwise its message is what is
    said about the first one that is not. The texts that are allowed for the scale are the symbols
    of units in decreasing order, one at least. -/
theorem Config.ofEntries_accepts_allowed (entries : List Entry) :
    ((∃ config, Config.ofEntries entries = .ok config) ↔ ∀ entry ∈ entries, IsAllowed entry) ∧
    (∀ m, (∃ cause, Config.ofEntries entries = .error cause ∧ cause.message = m) ↔
      ∃ before entry after, entries = before ++ entry :: after ∧
        (∀ e ∈ before, IsAllowed e) ∧ Complaint entry m) ∧
    ∀ s : String, s ≠ "" ∧ s.toList.Sublist "wdhms".toList ↔
      ∃ units, units ≠ [] ∧ units.Pairwise (fun u v => v.millis < u.millis) ∧
        units.map FixedUnit.symbol = s.toList := by
  refine ⟨exists_ofEntries_iff, fun m => exists_message_ofEntries_iff, ?_⟩
  intro s
  rw [Ne, ← String.toList_eq_nil_iff]
  exact sublist_wdhms_iff

/-- Unknown symbols come before everything else that is wrong with a text, and are all shown. -/
example : symbolsComplaint? "mxdxd".toList =
    some "Found invalid units 'x', 'x' in \"STRINGIFY_UNITS\". Supported units: \"wdhms\"" := by
  decide

end RelativeDate
