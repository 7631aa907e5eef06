import RelativeDate.Proofs.Settings

/-! # Configurations

Nothing is lost in the check of settings. The configuration that it yields has the values that the
settings hold, and the scale of a configuration has the symbols that were given for it. -/

namespace RelativeDate

variable {config next last : Config} {entries : List Entry} {entry : Entry}
variable {setting : Setting} {v : Value}

/-! ## Symbols -/

namespace FixedUnit

theorem symbol_of_ofSymbol? {c : Char} {u : FixedUnit} (h : ofSymbol? c = some u) :
    u.symbol = c := by
  unfold ofSymbol? at h
  split at h <;> cases h <;> rfl

theorem map_symbol_filterMap {symbols : List Char} (h : ∀ c ∈ symbols, ofSymbol? c ≠ none) :
    (symbols.filterMap ofSymbol?).map symbol = symbols := by
  induction symbols with
  | nil => rfl
  | cons c symbols ih =>
    rw [List.forall_mem_cons] at h
    obtain ⟨u, hu⟩ := Option.ne_none_iff_exists'.mp h.1
    rw [List.filterMap_cons_some hu, List.map_cons, ih h.2, symbol_of_ofSymbol? hu]

end FixedUnit

/-- The texts that pass the check are the symbols of the scales. -/
theorem UnitScale.ofSymbols_eq_ok_iff {symbols : List Char} {scale : UnitScale} :
    ofSymbols symbols = .ok scale ↔ scale.units.map FixedUnit.symbol = symbols := by
  constructor
  · intro h
    simp only [ofSymbols] at h
    split at h
    · cases h
    split at h
    · cases h
    rename_i hinvalid
    split at h
    · cases h
    split at h
    · obtain rfl := Except.ok.inj h
      rw [Decidable.not_not, List.filter_eq_nil_iff] at hinvalid
      exact FixedUnit.map_symbol_filterMap (by simpa using hinvalid)
    · cases h
  · rintro rfl
    have hsome : FixedUnit.ofSymbol? ∘ FixedUnit.symbol = some :=
      funext FixedUnit.ofSymbol?_symbol
    have hunits :
        (scale.units.map FixedUnit.symbol).filterMap FixedUnit.ofSymbol? = scale.units := by
      rw [List.filterMap_map, hsome, List.filterMap_some]
    have hvalid :
        (scale.units.map FixedUnit.symbol).filter (fun c => (FixedUnit.ofSymbol? c).isNone) =
          [] := by
      simp [List.filter_eq_nil_iff]
    simp only [ofSymbols, hunits, hvalid]
    rw [if_neg (by simpa using scale.units_ne_nil), if_neg (by simp),
      if_neg (by simpa using scale.nodup_units), dif_pos ⟨scale.units_ne_nil, scale.decreasing⟩]

/-! ## The values of a configuration -/

namespace Setting

theorem name_injective : Function.Injective name := by
  intro s s' h
  cases s <;> cases s' <;> first | rfl | exact absurd h (by decide)

theorem name_of_ofName? {s : String} (h : ofName? s = some setting) : setting.name = s := by
  simpa using List.find?_some h

end Setting

namespace Config

/-- The value that a configuration has for a setting. -/
def value (config : Config) : Setting → Value
  | .base => config.base.elim .null .dateTime
  | .withOffset => .bool config.withOffset
  | .scale => .text config.scale.symbols

/-- A setting that is set has the value it is set to, and the others keep theirs. -/
theorem value_set (h : config.set setting v = .ok next) (other : Setting) :
    next.value other = if other = setting then v else config.value other := by
  unfold set at h
  split at h
  · obtain rfl := Except.ok.inj h
    cases other <;> rfl
  · obtain rfl := Except.ok.inj h
    cases other <;> rfl
  · obtain rfl := Except.ok.inj h
    cases other <;> rfl
  · rename_i s
    cases hscale : UnitScale.ofSymbols s.toList with
    | error cause => simp [hscale, Except.map] at h
    | ok scale =>
      rw [hscale] at h
      obtain rfl := Except.ok.inj h
      cases other with
      | base => rfl
      | withOffset => rfl
      | scale =>
        have hsymbols := UnitScale.ofSymbols_eq_ok_iff.mp hscale
        exact congrArg Value.text (by rw [UnitScale.symbols, hsymbols, String.ofList_toList])
  · cases h

theorem value_apply (h : config.apply entry = .ok next) (setting : Setting) :
    next.value setting = if setting.name = entry.1 then entry.2 else config.value setting := by
  unfold apply at h
  split at h
  · cases h
  · rename_i found hfound
    rw [value_set h, ← Setting.name_of_ofName? hfound]
    simp only [Setting.name_injective.eq_iff]

/-! ## The values that were checked -/

theorem value_of_notMem (h : entries.foldlM apply config = .ok last)
    (hname : setting.name ∉ entries.map Prod.fst) : last.value setting = config.value setting := by
  induction entries generalizing config with
  | nil =>
    obtain rfl := Except.ok.inj h
    rfl
  | cons entry entries ih =>
    obtain ⟨next, hnext, hrest⟩ := foldlM_apply_cons_eq_ok_iff.mp h
    rw [List.map_cons, List.mem_cons, not_or] at hname
    rw [ih hrest hname.2, value_apply hnext, if_neg hname.1]

/-- When no name is given twice, a setting has the value that is given for it. -/
theorem value_of_mem (h : entries.foldlM apply config = .ok last)
    (hnodup : (entries.map Prod.fst).Nodup) (hmem : (setting.name, v) ∈ entries) :
    last.value setting = v := by
  induction entries generalizing config with
  | nil => cases hmem
  | cons entry entries ih =>
    obtain ⟨next, hnext, hrest⟩ := foldlM_apply_cons_eq_ok_iff.mp h
    rw [List.map_cons, List.nodup_cons] at hnodup
    cases hmem with
    | head => rw [value_of_notMem hrest hnodup.1, value_apply hnext, if_pos rfl]
    | tail _ hmem => exact ih hrest hnodup.2 hmem

end Config

/-- Settings that pass the check hold the values of the configuration, and no others. -/
theorem Settings.mem_iff_of_check (h : (ofEntries entries).check = .ok config) :
    (setting.name, v) ∈ (ofEntries entries).entries ↔ v = config.value setting := by
  have hdefault : (default.entries.map Prod.fst).Nodup := by decide
  have hname : setting.name ∈ default.entries.map Prod.fst := by cases setting <;> decide
  have hvalue {w : Value} (hw : (setting.name, w) ∈ (ofEntries entries).entries) :=
    Config.value_of_mem h (nodup_assignAll entries hdefault) hw
  constructor
  · intro hmem
    exact (hvalue hmem).symm
  · rintro rfl
    -- The name is there from the defaults on, so the settings hold some value for it.
    obtain ⟨w, hw⟩ := exists_mem_assignAll entries hname
    rwa [hvalue hw]

end RelativeDate
