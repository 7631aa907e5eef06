import RelativeDate.Settings

/-! # Checked settings

Whether a named value passes the check depends on nothing but itself, so a list of named values
passes exactly when each of them does. Values that equal the defaults pass as the default
configuration, but for one exception: a number equal to one counts as truth in a comparison, and
is still no truth value. -/

namespace RelativeDate

variable {config last : Config} {entries held updates : List Entry} {entry e : Entry}

/-! ## Single values -/

/-- A named value that passes the check. -/
def IsValidEntry (entry : Entry) : Prop :=
  ∃ config, Config.default.apply entry = .ok config

/-- The values that are already set do not matter to the check of another one. -/
theorem set_eq_error_iff (config other : Config) {setting : Setting} {v : Value}
    {cause : SettingError} :
    config.set setting v = .error cause ↔ other.set setting v = .error cause := by
  unfold Config.set
  split
  · simp
  · simp
  · simp
  · rename_i s
    cases UnitScale.ofSymbols s.toList <;> simp [Except.map]
  · simp

theorem apply_eq_error_iff (config other : Config) {cause : SettingError} :
    config.apply entry = .error cause ↔ other.apply entry = .error cause := by
  unfold Config.apply
  cases Setting.ofName? entry.1 with
  | none => simp
  | some setting => exact set_eq_error_iff config other

theorem exists_apply_iff (config : Config) (entry : Entry) :
    (∃ next, config.apply entry = .ok next) ↔ IsValidEntry entry := by
  have herror := fun cause => @apply_eq_error_iff entry config .default cause
  unfold IsValidEntry
  cases hconfig : config.apply entry with
  | error cause => simp [(herror cause).mp hconfig]
  | ok next =>
    cases hdefault : Config.default.apply entry with
    | error cause => simp [(herror cause).mpr hdefault] at hconfig
    | ok other => simp

theorem isValidEntry_default (setting : Setting) :
    IsValidEntry (setting.name, setting.defaultValue) := by
  cases setting with
  | base => exact ⟨_, rfl⟩
  | withOffset => exact ⟨_, rfl⟩
  | scale => exact ⟨_, rfl⟩

/-! ## Lists of values -/

theorem foldlM_apply_cons_eq_ok_iff :
    (entry :: entries).foldlM Config.apply config = .ok last ↔
      ∃ next, config.apply entry = .ok next ∧ entries.foldlM Config.apply next = .ok last := by
  rw [List.foldlM_cons]
  cases config.apply entry with
  | error cause => simp [bind, Except.bind]
  | ok next => simp [bind, Except.bind]

/-- A list passes the check when each of its values does. -/
theorem exists_foldlM_apply_iff (config : Config) (entries : List Entry) :
    (∃ last, entries.foldlM Config.apply config = .ok last) ↔
      ∀ entry ∈ entries, IsValidEntry entry := by
  -- The configuration grows from value to value, but no check looks at it.
  induction entries generalizing config with
  | nil => exact iff_of_true ⟨config, rfl⟩ (by simp)
  | cons entry entries ih =>
    rw [List.forall_mem_cons, ← exists_apply_iff config entry]
    simp only [foldlM_apply_cons_eq_ok_iff]
    constructor
    · rintro ⟨last, next, hnext, hlast⟩
      exact ⟨⟨next, hnext⟩, (ih next).mp ⟨last, hlast⟩⟩
    · rintro ⟨⟨next, hnext⟩, hvalid⟩
      obtain ⟨last, hlast⟩ := (ih next).mpr hvalid
      exact ⟨last, next, hnext, hlast⟩

/-- What comes first in a list is its head, or else comes first behind it. -/
theorem exists_first_cons_iff {P Q : Entry → Prop} :
    (∃ before e after, entry :: entries = before ++ e :: after ∧ (∀ e ∈ before, P e) ∧ Q e) ↔
      Q entry ∨ P entry ∧
        ∃ before e after, entries = before ++ e :: after ∧ (∀ e ∈ before, P e) ∧ Q e := by
  constructor
  · rintro ⟨before, e, after, hsplit, hbefore, he⟩
    cases before with
    | nil =>
      obtain ⟨rfl, rfl⟩ := List.cons.inj hsplit
      exact .inl he
    | cons first before =>
      obtain ⟨rfl, rfl⟩ := List.cons.inj hsplit
      rw [List.forall_mem_cons] at hbefore
      exact .inr ⟨hbefore.1, before, e, after, rfl, hbefore.2, he⟩
  · rintro (hentry | ⟨hentry, before, e, after, rfl, hbefore, he⟩)
    · exact ⟨[], entry, entries, rfl, by simp, hentry⟩
    · exact ⟨entry :: before, e, after, rfl, List.forall_mem_cons.mpr ⟨hentry, hbefore⟩, he⟩

/-- The fault of a list is the fault of the first value that has one. -/
theorem foldlM_apply_eq_error_iff {cause : SettingError} :
    entries.foldlM Config.apply config = .error cause ↔
      ∃ before e after, entries = before ++ e :: after ∧
        (∀ e ∈ before, IsValidEntry e) ∧ Config.default.apply e = .error cause := by
  induction entries generalizing config with
  | nil => simp [pure, Except.pure]
  | cons first entries ih =>
    rw [exists_first_cons_iff, List.foldlM_cons, ← apply_eq_error_iff config,
      ← exists_apply_iff config]
    cases config.apply first with
    | error fault => simp [bind, Except.bind]
    | ok next => simpa [bind, Except.bind] using ih

theorem mem_assign (h : e ∈ assign held entry) : e ∈ held ∨ e = entry := by
  unfold assign at h
  split at h
  · obtain ⟨old, hold, rfl⟩ := List.mem_map.mp h
    split
    · exact .inr rfl
    · exact .inl hold
  · simpa using h

/-- Named values that are held after an update were held before it or are part of it. -/
theorem mem_assignAll (h : e ∈ assignAll held updates) : e ∈ held ∨ e ∈ updates := by
  induction updates generalizing held with
  | nil => exact .inl h
  | cons entry updates ih =>
    rcases ih h with hmem | hmem
    · rcases mem_assign hmem with hheld | rfl
      · exact .inl hheld
      · exact .inr (by simp)
    · exact .inr (by simp [hmem])

/-- Values that pass the check on their own pass it among the defaults. -/
theorem exists_check_ofEntries (h : ∃ config, Config.ofEntries entries = .ok config) :
    ∃ config, (Settings.ofEntries entries).check = .ok config := by
  have hvalid := (exists_foldlM_apply_iff _ entries).mp h
  refine (exists_foldlM_apply_iff _ _).mpr ?_
  intro entry hentry
  rcases mem_assignAll hentry with hdefault | hgiven
  · obtain ⟨setting, -, rfl⟩ := List.mem_map.mp hdefault
    exact isValidEntry_default setting
  · exact hvalid entry hgiven

/-! ## Names that are held -/

theorem assign_eq (held : List Entry) (entry : Entry) :
    assign held entry =
      if entry.1 ∈ held.map Prod.fst then
        held.map fun old => if old.1 = entry.1 then entry else old
      else held ++ [entry] := by
  simp only [assign, List.any_eq_true, decide_eq_true_eq, List.mem_map]

theorem map_fst_assign (held : List Entry) (entry : Entry) :
    (assign held entry).map Prod.fst =
      if entry.1 ∈ held.map Prod.fst then held.map Prod.fst
      else held.map Prod.fst ++ [entry.1] := by
  rw [assign_eq]
  split
  · rw [List.map_map]
    refine List.map_congr_left fun old hold => ?_
    rw [Function.comp_apply]
    split
    · rename_i hname
      exact hname.symm
    · rfl
  · rw [List.map_append, List.map_singleton]

@[simp] theorem assignAll_cons (held : List Entry) (entry : Entry) (updates : List Entry) :
    assignAll held (entry :: updates) = assignAll (assign held entry) updates := rfl

/-- The names that are held stay where they are. -/
theorem map_fst_prefix_assignAll (held updates : List Entry) :
    held.map Prod.fst <+: (assignAll held updates).map Prod.fst := by
  induction updates generalizing held with
  | nil => exact List.prefix_rfl
  | cons entry updates ih =>
    refine List.IsPrefix.trans ?_ (ih (assign held entry))
    rw [map_fst_assign]
    split
    · exact List.prefix_rfl
    · exact List.prefix_append _ _

/-- A name that has a value keeps one. -/
theorem exists_mem_assignAll (updates : List Entry) (h : name ∈ held.map Prod.fst) :
    ∃ v, (name, v) ∈ assignAll held updates := by
  obtain ⟨⟨_, v⟩, hmem, rfl⟩ := List.mem_map.mp ((map_fst_prefix_assignAll held updates).subset h)
  exact ⟨v, hmem⟩

/-- No name is held twice. -/
theorem nodup_assignAll (updates : List Entry) (h : (held.map Prod.fst).Nodup) :
    ((assignAll held updates).map Prod.fst).Nodup := by
  induction updates generalizing held with
  | nil => exact h
  | cons entry updates ih =>
    refine ih ?_
    rw [map_fst_assign]
    split
    · exact h
    · rename_i hnew
      refine List.nodup_append.mpr ⟨h, by simp, ?_⟩
      intro name hname other hother
      obtain rfl := List.mem_singleton.mp hother
      exact fun heq => hnew (heq ▸ hname)

theorem mem_assign_self (held : List Entry) (entry : Entry) : entry ∈ assign held entry := by
  unfold assign
  split
  · rename_i hany
    obtain ⟨old, hold, hname⟩ := List.any_eq_true.mp hany
    exact List.mem_map.mpr ⟨old, hold, if_pos (by simpa using hname)⟩
  · simp

theorem mem_assign_of_ne (h : e ∈ held) (hne : e.1 ≠ entry.1) : e ∈ assign held entry := by
  unfold assign
  split
  · exact List.mem_map.mpr ⟨e, h, if_neg hne⟩
  · exact List.mem_append_left _ h

theorem mem_assignAll_of_notMem (h : e ∈ held) (hnew : e.1 ∉ updates.map Prod.fst) :
    e ∈ assignAll held updates := by
  induction updates generalizing held with
  | nil => exact h
  | cons entry updates ih =>
    rw [List.map_cons, List.mem_cons, not_or] at hnew
    exact ih (mem_assign_of_ne h hnew.1) hnew.2

/-- Updates with different names are all held afterwards. -/
theorem mem_assignAll_of_mem (hnodup : (updates.map Prod.fst).Nodup) (h : e ∈ updates) :
    e ∈ assignAll held updates := by
  induction updates generalizing held with
  | nil => cases h
  | cons entry updates ih =>
    rw [List.map_cons, List.nodup_cons] at hnodup
    rw [assignAll_cons]
    cases h with
    | head => exact mem_assignAll_of_notMem (mem_assign_self held e) hnodup.1
    | tail _ hmem => exact ih hnodup.2 hmem

/-- Values with different names pass the check among the defaults exactly when they pass it on
    their own. -/
theorem exists_check_ofEntries_iff (hnodup : (entries.map Prod.fst).Nodup) :
    (∃ config, (Settings.ofEntries entries).check = .ok config) ↔
      ∃ config, Config.ofEntries entries = .ok config := by
  refine ⟨?_, exists_check_ofEntries⟩
  intro h
  have hvalid := (exists_foldlM_apply_iff _ _).mp h
  exact (exists_foldlM_apply_iff _ _).mpr fun entry hentry =>
    hvalid entry (mem_assignAll_of_mem hnodup hentry)

/-! ## Values that equal the defaults -/

/-- The one fault that settings may have which equal the defaults. -/
def IsNumberForTruth (cause : SettingError) : Prop :=
  ∃ kind ∈ [Kind.integer, .decimal], cause = .wrongKind .withOffset kind

theorem set_of_isDefault {setting : Setting} {v : Value} (h : setting.isDefault v) :
    Config.default.set setting v = .ok .default ∨
      ∃ cause, Config.default.set setting v = .error cause ∧ IsNumberForTruth cause := by
  cases setting with
  | base =>
    cases v with
    | null => exact .inl rfl
    | _ => cases h
  | withOffset =>
    cases v with
    | bool b =>
      obtain rfl : b = true := h
      exact .inl rfl
    | integer n => exact .inr ⟨_, rfl, .integer, by decide, rfl⟩
    | decimal mantissa places => exact .inr ⟨_, rfl, .decimal, by decide, rfl⟩
    | _ => cases h
  | scale =>
    cases v with
    | text s =>
      obtain rfl : s = FixedUnit.symbols := by simpa [Setting.isDefault] using h
      exact .inl rfl
    | _ => cases h

/-- Settings that equal the defaults pass the check as the defaults, or hold a number for a truth
    value. -/
theorem check_of_isDefault {settings : Settings} (h : settings.isDefault) :
    settings.check = .ok .default ∨
      ∃ cause, settings.check = .error cause ∧ IsNumberForTruth cause := by
  obtain ⟨entries⟩ := settings
  simp only [Settings.isDefault, List.all_eq_true] at h
  unfold Settings.check Config.ofEntries
  induction entries with
  | nil => exact .inl rfl
  | cons entry entries ih =>
    rw [List.forall_mem_cons] at h
    obtain ⟨name, v⟩ := entry
    have hentry : Config.default.apply (name, v) = .ok .default ∨
        ∃ cause, Config.default.apply (name, v) = .error cause ∧ IsNumberForTruth cause := by
      unfold Config.apply
      cases hname : Setting.ofName? name with
      | none => simp [hname] at h
      | some setting => exact set_of_isDefault (by simpa [hname] using h.1)
    -- A value that is accepted leaves the defaults as they are, and the check starts anew.
    rw [List.foldlM_cons]
    rcases hentry with hok | ⟨cause, herror, hcause⟩
    · rw [hok]
      exact ih h.2
    · rw [herror]
      exact .inr ⟨cause, rfl, hcause⟩

end RelativeDate
