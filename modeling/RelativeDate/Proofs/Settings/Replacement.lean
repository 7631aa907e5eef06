import RelativeDate.Proofs.Settings.Allowed
import RelativeDate.Proofs.Settings.Assignment

/-! # Replaced settings

Settings can be replaced time and again. However often that is done, they hold what would be held if
all values had been given at once, in the order in which they were given: every name has its last
value, and the names stand in the order in which they came up first. Replacements that fail give no
values. -/

namespace RelativeDate

variable {entry : Entry} {name : String}

/-! ## Values that are equal -/

/-- The number that a value counts as when values are compared. -/
def Value.number? : Value → Option Rat
  | .bool b => some (mkRat (if b then 1 else 0) 1)
  | .integer n => some (mkRat n 1)
  | .decimal mantissa places => some (mkRat mantissa (Nat.pow 10 places))
  | _ => none

/-- Values are equal when they count as the same number, or count as none and are the same. One of
    them has to be a number, a truth value, a text or null. -/
def Value.Equals (v w : Value) : Prop :=
  v.number? = w.number? ∧ (v.number? = none → v = w)

/-- As many names are held as there are defaults, and each of them has a value that equals its
    default. -/
def Settings.EqualsDefaults (settings : Settings) : Prop :=
  settings.entries.length = Settings.default.entries.length ∧
    ∀ entry ∈ settings.entries,
      ∃ v, Settings.default.entries.lookup entry.1 = some v ∧ entry.2.Equals v

theorem Value.isOne_iff (v : Value) : v.isOne ↔ v.Equals (.bool true) := by
  have hequals : v.Equals (.bool true) ↔ v.number? = some (mkRat 1 1) := by
    refine ⟨And.left, fun h => ⟨h, fun hnone => ?_⟩⟩
    rw [h] at hnone
    cases hnone
  rw [hequals]
  cases v with
  | bool b => cases b <;> simp only [isOne, number?] <;> decide
  | integer n => simp [isOne, number?, Rat.mkRat_eq_iff]
  | decimal mantissa places =>
    have hne : Nat.pow 10 places ≠ 0 := Nat.ne_of_gt (Nat.pow_pos (by decide))
    rw [number?, Option.some_inj, Rat.mkRat_eq_iff hne Nat.one_ne_zero]
    simp [isOne]
  | _ => simp [isOne, number?]

theorem Setting.isDefault_iff (setting : Setting) (v : Value) :
    setting.isDefault v ↔ v.Equals setting.defaultValue := by
  cases setting with
  | base => cases v <;> simp [isDefault, defaultValue, Value.Equals, Value.number?]
  | withOffset => exact v.isOne_iff
  | scale => cases v <;> simp [isDefault, defaultValue, Value.Equals, Value.number?]

theorem Settings.lookup_default (name : String) :
    default.entries.lookup name = (Setting.ofName? name).map Setting.defaultValue := by
  cases hname : Setting.ofName? name with
  | none =>
    rw [Setting.ofName?_eq_none_iff] at hname
    exact lookup_eq_none_iff_notMem.mpr hname
  | some setting =>
    obtain rfl := Setting.name_of_ofName? hname
    cases setting <;> rfl

namespace Settings

theorem nodup_ofEntries (updates : List Entry) :
    ((ofEntries updates).entries.map Prod.fst).Nodup :=
  nodup_assignAll updates (by decide)

theorem name_mem_ofEntries (updates : List Entry) (setting : Setting) :
    setting.name ∈ (ofEntries updates).entries.map Prod.fst := by
  refine (map_fst_prefix_assignAll default.entries updates).subset ?_
  cases setting <;> decide

/-- Settings are at their defaults when what they hold equals the defaults. -/
theorem isDefault_ofEntries_iff (updates : List Entry) :
    (ofEntries updates).isDefault ↔ (ofEntries updates).EqualsDefaults := by
  have hentry : ∀ entry : Entry,
      (Setting.ofName? entry.1).elim false (fun setting => setting.isDefault entry.2) = true ↔
        ∃ v, default.entries.lookup entry.1 = some v ∧ entry.2.Equals v := by
    intro entry
    rw [lookup_default]
    cases Setting.ofName? entry.1 with
    | none => simp
    | some setting => simp [Setting.isDefault_iff]
  have hall : (ofEntries updates).isDefault ↔ ∀ entry ∈ (ofEntries updates).entries,
      ∃ v, default.entries.lookup entry.1 = some v ∧ entry.2.Equals v := by
    simp only [isDefault, List.all_eq_true, hentry]
  rw [hall, EqualsDefaults, and_iff_right_of_imp]
  intro h
  -- No name occurs twice, so there are as many entries as there are settings.
  have hnames : ((ofEntries updates).entries.map Prod.fst).Perm Setting.names := by
    rw [List.perm_ext_iff_of_nodup (nodup_ofEntries updates) (by decide)]
    refine fun name => ⟨?_, ?_⟩
    · rintro hname
      obtain ⟨entry, hmem, rfl⟩ := List.mem_map.mp hname
      obtain ⟨v, hv, -⟩ := h entry hmem
      by_contra hunknown
      rw [lookup_default, Setting.ofName?_eq_none_iff.mpr hunknown] at hv
      cases hv
    · rintro hname
      obtain ⟨setting, -, rfl⟩ := List.mem_map.mp hname
      exact name_mem_ofEntries updates setting
  exact (List.length_map Prod.fst).symm.trans hnames.length_eq

/-! ## Settings made anew -/

/-- Values for all the settings take the places of the defaults. -/
theorem assignAll_default {given : List Entry}
    (h : given.map Prod.fst = default.entries.map Prod.fst) :
    assignAll default.entries given = given := by
  obtain ⟨⟨_, base⟩, others, rfl, rfl, hothers⟩ := List.map_eq_cons_iff.mp h
  obtain ⟨⟨_, withOffset⟩, last, rfl, rfl, hlast⟩ := List.map_eq_cons_iff.mp hothers
  obtain ⟨⟨_, scale⟩, none, rfl, rfl, hnone⟩ := List.map_eq_cons_iff.mp hlast
  obtain rfl := List.map_eq_nil_iff.mp hnone
  rfl

/-- Settings stay the same when they are made anew from what they hold. -/
theorem ofEntries_entries (updates : List Entry) :
    ofEntries (ofEntries updates).entries = ofEntries updates := by
  obtain ⟨others, hothers⟩ := map_fst_prefix_assignAll default.entries updates
  obtain ⟨first, rest, hsplit, hfirst, -⟩ := List.map_eq_append_iff.mp hothers.symm
  have hnodup := nodup_ofEntries updates
  have hupdates : ofEntries updates = ⟨first ++ rest⟩ := congrArg Settings.mk hsplit
  rw [hupdates] at hnodup ⊢
  refine congrArg Settings.mk ?_
  rw [assignAll_append, assignAll_default hfirst, assignAll_eq_append hnodup]

/-- Values can also be given later on. -/
theorem ofEntries_append (first second : List Entry) :
    ofEntries (assignAll (ofEntries first).entries second) = ofEntries (first ++ second) := by
  have hheld : assignAll (ofEntries first).entries second = (ofEntries (first ++ second)).entries :=
    (assignAll_append _ _ _).symm
  rw [hheld, ofEntries_entries]

end Settings

/-! ## Replacements -/

/-- What one replacement gives: values that come together, and values for names on their own. -/
structure Replacement where
  updates : List Entry
  named : List Entry

namespace Replacement

/-- All names that are given on their own are settings. -/
def IsKnown (r : Replacement) : Prop :=
  ∀ entry ∈ r.named, entry.1 ∈ Setting.names

instance (r : Replacement) : Decidable r.IsKnown :=
  inferInstanceAs (Decidable (∀ entry ∈ r.named, entry.1 ∈ Setting.names))

/-- The values that a replacement gives, in order. With an unknown name it gives none. -/
def assigned (r : Replacement) : List Entry :=
  if r.IsKnown then r.updates ++ r.named else []

end Replacement

namespace Settings

/-- The settings after a replacement. They stay as they were if it fails. -/
def afterReplacing (settings : Settings) (r : Replacement) : Settings :=
  match settings.replace r.updates r.named with
  | .ok next => next
  | .error _ => settings

/-- The settings after replacements that follow one another. -/
def replaceAll (settings : Settings) (rs : List Replacement) : Settings :=
  rs.foldl afterReplacing settings

/-- All values that were given, in order, from the defaults on. -/
def history (initial : List Entry) (rs : List Replacement) : List Entry :=
  default.entries ++ initial ++ rs.flatMap Replacement.assigned

theorem isNone_ofName?_iff {name : String} :
    (Setting.ofName? name).isNone = true ↔ name ∉ Setting.names := by
  rw [Option.isNone_iff_eq_none, Setting.ofName?_eq_none_iff]

theorem find?_named_eq_none_iff {r : Replacement} :
    r.named.find? (fun entry => (Setting.ofName? entry.1).isNone) = none ↔ r.IsKnown := by
  simp only [List.find?_eq_none, isNone_ofName?_iff, not_not, Replacement.IsKnown]

theorem replace_of_isKnown {r : Replacement} (settings : Settings) (h : r.IsKnown) :
    settings.replace r.updates r.named =
      .ok (ofEntries (assignAll settings.entries (r.updates ++ r.named))) := by
  rw [replace, find?_named_eq_none_iff.mpr h, assignAll_append]

/-- The first unknown name is the one that is complained about. -/
theorem replace_of_unknown (settings : Settings) {updates named before after : List Entry}
    (hnamed : named = before ++ entry :: after)
    (hbefore : ∀ e ∈ before, e.1 ∈ Setting.names) (hentry : entry.1 ∉ Setting.names) :
    settings.replace updates named = .error ⟨entry.1⟩ := by
  have hfind : named.find? (fun entry => (Setting.ofName? entry.1).isNone) = some entry := by
    rw [List.find?_eq_some_iff_append]
    refine ⟨isNone_ofName?_iff.mpr hentry, before, after, hnamed, ?_⟩
    intro e he
    rw [Bool.not_eq_true', ← Bool.not_eq_true, isNone_ofName?_iff, not_not]
    exact hbefore e he
  rw [replace, hfind]

theorem exists_replace_eq_error {r : Replacement} (settings : Settings) (h : ¬ r.IsKnown) :
    ∃ e, settings.replace r.updates r.named = .error e := by
  unfold replace
  cases hfind : r.named.find? (fun entry => (Setting.ofName? entry.1).isNone) with
  | some entry => exact ⟨⟨entry.1⟩, rfl⟩
  | none => exact absurd (find?_named_eq_none_iff.mp hfind) h

/-- A replacement leads to the settings that its values would have led to right away. -/
theorem afterReplacing_ofEntries (initial : List Entry) (r : Replacement) :
    (ofEntries initial).afterReplacing r = ofEntries (initial ++ r.assigned) := by
  unfold afterReplacing Replacement.assigned
  by_cases h : r.IsKnown
  · rw [replace_of_isKnown _ h, if_pos h]
    exact ofEntries_append initial (r.updates ++ r.named)
  · obtain ⟨e, he⟩ := exists_replace_eq_error (ofEntries initial) h
    rw [he, if_neg h, List.append_nil]

/-- So does a run of replacements. -/
theorem replaceAll_ofEntries (initial : List Entry) (rs : List Replacement) :
    (ofEntries initial).replaceAll rs =
      ofEntries (initial ++ rs.flatMap Replacement.assigned) := by
  induction rs generalizing initial with
  | nil => exact congrArg ofEntries (List.append_nil initial).symm
  | cons r rs ih =>
    have hfirst : (ofEntries initial).replaceAll (r :: rs) =
        ((ofEntries initial).afterReplacing r).replaceAll rs := rfl
    rw [hfirst, afterReplacing_ofEntries, ih, List.append_assoc, List.flatMap_cons]

theorem entries_ofEntries (updates : List Entry) :
    (ofEntries updates).entries = assignAll [] (default.entries ++ updates) := by
  have hdefault : assignAll [] default.entries = default.entries := assignAll_eq_append (by decide)
  rw [assignAll_append, hdefault]
  rfl

theorem entries_replaceAll (initial : List Entry) (rs : List Replacement) :
    ((ofEntries initial).replaceAll rs).entries = assignAll [] (history initial rs) := by
  rw [replaceAll_ofEntries, entries_ofEntries, history, List.append_assoc]

theorem replaceAll_append_singleton (settings : Settings) (rs : List Replacement)
    (r : Replacement) :
    settings.replaceAll (rs ++ [r]) = (settings.replaceAll rs).afterReplacing r :=
  List.foldl_concat _ _ _ _

/-- However often settings are replaced, no value is lost. A further replacement fails for the first
    of its own names that is unknown, and then changes nothing. After all of them a name has the
    last value of the history, and the names stand in the order in which they come up in it. The
    settings count as the defaults when they are equal to them. Checking them fails when an entry is
    not allowed, with what there is to say about the first such entry. -/
theorem replaceAll_keeps_history (initial : List Entry) (rs : List Replacement) :
    let settings := (ofEntries initial).replaceAll rs
    (∀ name, settings.entries.lookup name = (history initial rs).reverse.lookup name) ∧
    settings.entries.map Prod.fst = ((history initial rs).map Prod.fst).eraseDups ∧
    (settings.isDefault ↔ settings.EqualsDefaults) ∧
    ((∃ cause, settings.check = .error cause) ↔ ∃ entry ∈ settings.entries, ¬ IsAllowed entry) ∧
    (∀ m, (∃ cause, settings.check = .error cause ∧ cause.message = m) ↔
      ∃ before entry after, settings.entries = before ++ entry :: after ∧
        (∀ e ∈ before, IsAllowed e) ∧ Complaint entry m) ∧
    ∀ r : Replacement,
      (r.IsKnown → settings.replace r.updates r.named =
        .ok ((ofEntries initial).replaceAll (rs ++ [r]))) ∧
      ∀ before entry after, r.named = before ++ entry :: after →
        (∀ e ∈ before, e.1 ∈ Setting.names) → entry.1 ∉ Setting.names →
        settings.replace r.updates r.named = .error ⟨entry.1⟩ ∧
          (ofEntries initial).replaceAll (rs ++ [r]) = settings := by
  intro settings
  have hentries : settings.entries = assignAll [] (history initial rs) :=
    entries_replaceAll initial rs
  refine ⟨?_, ?_, ?_, exists_ofEntries_eq_error_iff, fun m => exists_message_ofEntries_iff,
    fun r => ⟨?_, ?_⟩⟩
  · intro name
    rw [hentries, lookup_assignAll]
    exact Option.or_none
  · rw [hentries, map_fst_assignAll]
  · have hsettings : settings = ofEntries (initial ++ rs.flatMap Replacement.assigned) :=
      replaceAll_ofEntries initial rs
    rw [hsettings]
    exact isDefault_ofEntries_iff _
  · intro h
    rw [replaceAll_append_singleton, afterReplacing, replace_of_isKnown _ h]
  · intro before entry after hnamed hbefore hentry
    have hreplace : settings.replace r.updates r.named = .error ⟨entry.1⟩ :=
      replace_of_unknown settings hnamed hbefore hentry
    refine ⟨hreplace, ?_⟩
    rw [replaceAll_append_singleton, afterReplacing, hreplace]

/-- The second of two replacements fails and gives no value. In the first one the number wins over
    the truth value, and is what the check complains about. -/
theorem replaceAll_keeps_history_number_for_truth :
    let first : Replacement :=
      ⟨[("MODE", .integer 5), ("RETURN_AS_TIMEZONE_AWARE", .bool false)],
        [("RETURN_AS_TIMEZONE_AWARE", .integer 1)]⟩
    let second : Replacement :=
      ⟨[("RETURN_AS_TIMEZONE_AWARE", .bool true)], [("TIMEZONE", .text "UTC")]⟩
    let settings := (ofEntries [("LOCALE", .null)]).replaceAll [first]
    (ofEntries [("LOCALE", .null)]).replaceAll [first, second] = settings ∧
      settings.replace second.updates second.named = .error ⟨"TIMEZONE"⟩ ∧
      settings.entries.lookup "RETURN_AS_TIMEZONE_AWARE" = some (.integer 1) ∧
      settings.entries.map Prod.fst =
        ["RELATIVE_BASE", "RETURN_AS_TIMEZONE_AWARE", "STRINGIFY_UNITS", "LOCALE", "MODE"] ∧
      ∃ cause, settings.check = .error cause ∧
        cause.message = "\"RETURN_AS_TIMEZONE_AWARE\" must be \"bool\", not \"int\"." := by
  intro first second settings
  obtain ⟨hvalues, hnames, -, -, hmessage, hfurther⟩ :=
    replaceAll_keeps_history [("LOCALE", .null)] [first]
  obtain ⟨hreplace, hsame⟩ := (hfurther second).2 [] _ [] rfl (by simp) (by decide)
  refine ⟨hsame, hreplace, (hvalues _).trans rfl, hnames.trans (by decide), ?_⟩
  refine (hmessage _).mpr ⟨[("RELATIVE_BASE", .null)], _, _, rfl, ?_, ?_⟩
  · intro e he
    obtain rfl := List.mem_singleton.mp he
    exact ⟨.base, rfl, .inl rfl⟩
  · exact @Complaint.wrongKind .withOffset (.integer 1) (by decide) (by decide)

end Settings

end RelativeDate
