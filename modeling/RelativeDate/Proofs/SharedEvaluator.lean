import RelativeDate.Proofs.Evaluator
import RelativeDate.Proofs.Settings.Assignment

/-! # The shared evaluator

A call without a clock whose settings pass for the defaults takes the shared evaluator, and leaves
out the check of the settings. That is a shortcut for making an evaluator of its own, except that
settings may pass for the defaults and still not pass the check. They may hold a number for a truth
value, which is equal to the default, and they may hold an entry that says itself that they are the
defaults. The shared evaluator is then taken where none can be made. -/

namespace RelativeDate

variable {settings : Settings} {entry : Entry} {name : String}

/-! ## Attributes -/

namespace Settings

/-- No entry takes the place of the entries as a whole, or of what keeps the attributes. Settings
    that hold one of these names are not dealt with here. -/
def IsPlain (settings : Settings) : Prop :=
  ∀ entry ∈ settings.entries, entry.1 ∉ ["_settings", "__dict__", "__class__", "__weakref__"]

instance (settings : Settings) : Decidable settings.IsPlain :=
  inferInstanceAs (Decidable (∀ entry ∈ settings.entries, _))

theorem attribute?_of_notMem (h : name ∉ settings.entries.map Prod.fst) :
    settings.attribute? name =
      [("_settings", .record settings.entries), ("_default", .bool settings.isDefault)].lookup
        name := by
  have hnone : settings.entries.reverse.lookup name = none := by
    rwa [lookup_eq_none_iff_notMem, List.map_reverse, List.mem_reverse]
  rw [attribute?, attributes, lookup_assignAll, hnone, Option.none_or]

theorem IsPlain.attribute?_settings (h : settings.IsPlain) :
    settings.attribute? "_settings" = some (.record settings.entries) := by
  refine (attribute?_of_notMem ?_).trans rfl
  intro hmem
  obtain ⟨entry, hentry, hname⟩ := List.mem_map.mp hmem
  exact h entry hentry (hname ▸ List.mem_cons_self)

/-- Without an entry that decides it, settings pass for the defaults when they equal them. -/
theorem passForDefault_of_notMem (h : "_default" ∉ settings.entries.map Prod.fst) :
    settings.passForDefault = settings.isDefault := by
  rw [passForDefault, attribute?_of_notMem h]
  rfl

/-- An entry whose name is no setting does not pass the check. -/
theorem exists_check_error_of_mem (hmem : name ∈ settings.entries.map Prod.fst)
    (hname : Setting.ofName? name = none) : ∃ cause, settings.check = .error cause := by
  obtain ⟨entry, hentry, rfl⟩ := List.mem_map.mp hmem
  cases hcheck : settings.check with
  | error cause => exact ⟨cause, rfl⟩
  | ok config =>
    obtain ⟨next, hnext⟩ := (exists_foldlM_apply_iff _ _).mp ⟨config, hcheck⟩ entry hentry
    simp [Config.apply, hname] at hnext

/-- Settings that pass for the defaults pass the check as the defaults, or do not pass it, for one
    of two reasons. -/
theorem check_of_passForDefault (h : settings.passForDefault) :
    settings.check = .ok .default ∨ ∃ cause, settings.check = .error cause ∧
      (settings.isDefault ∧ IsNumberForTruth cause ∨
        "_default" ∈ settings.entries.map Prod.fst) := by
  by_cases hmem : "_default" ∈ settings.entries.map Prod.fst
  · obtain ⟨cause, hcause⟩ := exists_check_error_of_mem hmem (by decide)
    exact .inr ⟨cause, hcause, .inr hmem⟩
  · rw [passForDefault_of_notMem hmem] at h
    rcases check_of_isDefault h with hok | ⟨cause, herror, hcause⟩
    · exact .inl hok
    · exact .inr ⟨cause, herror, .inl ⟨h, hcause⟩⟩

end Settings

/-! ## Evaluators for calls -/

namespace Evaluator

variable {wall : Clock}

/-- With settings that pass the check as the defaults, the evaluator made is the shared one. -/
theorem ofSettings_absent_of_check (h : settings.check = .ok .default) :
    ofSettings wall .absent settings = .ok (shared wall) := by
  unfold ofSettings
  rw [h]
  rfl

theorem ofSettings_absent_of_check_error {cause : SettingError}
    (h : settings.check = .error cause) :
    ofSettings wall .absent settings = .error (.settings cause) := by
  unfold ofSettings
  rw [h]
  rfl

/-- The settings that an argument stands for pass the check, unless they were given as settings
    to start with. -/
theorem exists_check_of_resolve {argument : SettingsArgument} (h : argument.resolve = .ok settings)
    (hgiven : argument ≠ .settings settings) : ∃ config, settings.check = .ok config := by
  cases argument with
  | absent =>
    obtain rfl : Settings.default = settings := Except.ok.inj h
    exact ⟨.default, rfl⟩
  | entries given =>
    simp only [SettingsArgument.resolve] at h
    split at h
    · cases h
    · rename_i config hconfig
      obtain rfl := Except.ok.inj h
      exact exists_check_ofEntries ⟨config, hconfig⟩
  | settings given =>
    obtain rfl : given = settings := Except.ok.inj h
    exact absurd rfl hgiven
  | other kind => cases h

/-- The evaluator for a call is the one made from the same arguments, or the same error. The one
    exception are settings, given as such and without a clock, that pass for the defaults without
    passing the check. They equal the defaults but hold a number for a truth value, or they hold an
    entry that decides what they pass for. They get the shared evaluator, and none can be made from
    them. -/
theorem forCall_eq_make_or_unchecked (wall : Clock) (clock : ClockArgument)
    (argument : SettingsArgument)
    (hplain : ∀ settings, argument = .settings settings → settings.IsPlain) :
    forCall wall clock argument = make wall clock argument ∨
      ∃ settings held cause, clock = .absent ∧ argument = .settings settings ∧
        settings.passForDefault ∧
        (settings.isDefault ∧ IsNumberForTruth cause ∨
          "_default" ∈ settings.entries.map Prod.fst) ∧
        settings.attribute? "_settings" = some (.record held) ∧
        Config.ofEntries held = .error cause ∧
        forCall wall clock argument = .ok (shared wall) ∧
        make wall clock argument = .error (.settings cause) := by
  unfold forCall make
  cases hresolve : argument.resolve with
  | error cause => exact .inl rfl
  | ok settings =>
    simp only [bind, Except.bind]
    cases clock with
    | clock given => exact .inl rfl
    | other kind => exact .inl rfl
    | absent =>
      by_cases hdefault : settings.passForDefault
      · rw [if_pos hdefault]
        -- The shortcut is taken, so what matters is whether the check would have passed.
        rcases Settings.check_of_passForDefault hdefault with hok | ⟨cause, herror, hcause⟩
        · exact .inl (ofSettings_absent_of_check hok).symm
        · have hgiven : argument = .settings settings := by
            by_contra hgiven
            obtain ⟨config, hconfig⟩ := exists_check_of_resolve hresolve hgiven
            simp [herror] at hconfig
          exact .inr ⟨settings, settings.entries, cause, rfl, hgiven, hdefault, hcause,
            (hplain settings hgiven).attribute?_settings, herror, rfl,
            ofSettings_absent_of_check_error herror⟩
      · exact .inl (if_neg hdefault)

/-- Settings that hold nothing but an entry by which they are the defaults get the shared evaluator.
    What is checked when an evaluator is made from them are all of their entries, and that one is
    no setting. -/
theorem forCall_eq_make_or_unchecked_default_entry :
    let wall : Clock := .still .null
    let settings := Settings.ofEntries [("_default", .integer 1)]
    settings.IsPlain ∧ forCall wall .absent (.settings settings) = .ok (shared wall) ∧
      settings.attribute? "_settings" = some (.record settings.entries) ∧
      make wall .absent (.settings settings) = .error (.settings (.unknown "_default")) := by
  intro wall settings
  have hplain : settings.IsPlain := by decide
  have hmake : make wall .absent (.settings settings) =
      .error (.settings (.unknown "_default")) := rfl
  rcases forCall_eq_make_or_unchecked wall .absent (.settings settings)
    (fun _ h => SettingsArgument.settings.inj h ▸ hplain) with
    heq | ⟨_, _, _, -, -, -, -, -, -, hcall, -⟩
  · have hcall : forCall wall .absent (.settings settings) = .ok (shared wall) := rfl
    rw [heq, hmake] at hcall
    cases hcall
  · exact ⟨hplain, hcall, hplain.attribute?_settings, hmake⟩

/-- A call may have an answer where no evaluator can be made for it, as with the settings that
    hold the number one for a truth value. -/
theorem not_forall_forCall_answers_as_make :
    ¬ ∀ (wall : Clock) (clock : ClockArgument) (argument : SettingsArgument) (v : Value) (n : Nat),
      (forCall wall clock argument).map (fun c => ((c.evaluate v).run n).1.outcome) =
        (make wall clock argument).map (fun c => ((c.evaluate v).run n).1.outcome) := by
  intro h
  let wall : Clock := .still (.dateTime (.bare ⟨737545 * microsPerDay, by decide⟩))
  let settings := Settings.ofEntries [(Setting.withOffset.name, .integer 1)]
  have hcall : forCall wall .absent (.settings settings) = .ok (shared wall) := rfl
  have hmake : make wall .absent (.settings settings) =
      .error (.settings (.wrongKind .withOffset .integer)) := rfl
  have hanswer := h wall .absent (.settings settings) (.text "now") 0
  rw [hcall, hmake] at hanswer
  cases hanswer

end Evaluator

end RelativeDate
