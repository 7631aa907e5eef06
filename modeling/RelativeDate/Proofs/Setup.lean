import RelativeDate.Proofs.Config
import RelativeDate.Proofs.Evaluator

/-! # Named values or settings

Named values can be handed over as they are, or as settings that hold them. As they are, they are
checked twice, on their own and then among the defaults. As settings, they are only checked among
the defaults. Both ways lead to the same evaluator, or else to none. The check lets no symbol
through that a division over the scale would fail to look up. -/

namespace RelativeDate

/-! ## Looking units up -/

/-- Why a symbol has no length. -/
inductive LookupError
  | notUnit (symbol : Char)
  | noLength (u : TimeUnit)
  deriving DecidableEq, Repr

/-- The length in milliseconds of the unit with this symbol. -/
def lengthOf (symbol : Char) : Except LookupError Nat :=
  match TimeUnit.ofSymbol? symbol with
  | none => .error (.notUnit symbol)
  | some u => u.nominalMillis?.elim (.error (.noLength u)) .ok

@[simp] theorem lengthOf_symbol (u : FixedUnit) : lengthOf u.symbol = .ok u.millis := by
  cases u <;> rfl

/-- Greedy division over symbols. Each length is looked up when its turn comes. -/
def divideOverSymbols : List Char → Nat → Except LookupError (List (Char × Nat) × Nat)
  | [], n => .ok ([], n)
  | c :: symbols, n => do
    let length ← lengthOf c
    let (amounts, rest) ← divideOverSymbols symbols (n % length)
    .ok ((c, n / length) :: amounts, rest)

/-- Over the symbols of units no lookup fails, and the amounts are the same as over the units. -/
theorem divideOverSymbols_map_symbol (units : List FixedUnit) (n : Nat) :
    divideOverSymbols (units.map FixedUnit.symbol) n =
      .ok ((divideOver units n).1.map fun (u, k) => (u.symbol, k), (divideOver units n).2) := by
  induction units generalizing n with
  | nil => rfl
  | cons u units ih =>
    rw [List.map_cons, divideOverSymbols, lengthOf_symbol]
    simp only [bind, Except.bind, ih]
    rfl

/-! ## Two ways to make an evaluator -/

/-- A clock that is given, or none. -/
def ClockArgument.ofOption : Option Clock → ClockArgument
  | none => .absent
  | some given => .clock given

namespace Evaluator

variable {settings : Settings} {cause : SettingError} {config : Config}

theorem make_settings_of_check (wall : Clock) (given : Option Clock)
    (h : settings.check = .ok config) :
    make wall (.ofOption given) (.settings settings) = .ok ⟨config, given.getD wall⟩ := by
  have hclock : (ClockArgument.ofOption given).resolve wall = .ok (given.getD wall) := by
    cases given <;> rfl
  exact make_eq_ok_iff.mpr ⟨settings, rfl, hclock, h⟩

theorem make_settings_of_check_error (wall : Clock) (given : Option Clock)
    (h : settings.check = .error cause) :
    make wall (.ofOption given) (.settings settings) = .error (.settings cause) := by
  have hmake : make wall (.ofOption given) (.settings settings) =
      ofSettings wall (.ofOption given) settings := rfl
  rw [hmake, ofSettings, h]
  cases given <;> rfl

/-- Named values that pass the check on their own are as good as settings that hold them. -/
theorem make_entries_of_check (wall : Clock) (clock : ClockArgument) {given : List Entry}
    (h : Config.ofEntries (assignAll [] given) = .ok config) :
    make wall clock (.entries given) =
      make wall clock (.settings (.ofEntries (assignAll [] given))) := by
  have hresolve : (SettingsArgument.entries given).resolve =
      .ok (.ofEntries (assignAll [] given)) := by
    simp only [SettingsArgument.resolve, h]
  unfold make
  rw [hresolve]
  rfl

theorem make_entries_of_check_error (wall : Clock) (clock : ClockArgument) {given : List Entry}
    (h : Config.ofEntries (assignAll [] given) = .error cause) :
    make wall clock (.entries given) = .error (.settings cause) := by
  have hresolve : (SettingsArgument.entries given).resolve = .error (.settings cause) := by
    simp only [SettingsArgument.resolve, h]
  unfold make
  rw [hresolve]
  rfl

/-- From named values the same evaluator is made as from settings that hold them, or the check
    answers a fault both times. When an evaluator is made, every unit can be looked up from the
    symbols that are held for the scale, and dividing by them is dividing over the scale. -/
theorem make_entries_or_settings (wall : Clock) (clock : Option Clock) (given : List Entry) :
    let settings := Settings.ofEntries (assignAll [] given)
    (∃ c, make wall (.ofOption clock) (.entries given) = .ok c ∧
      make wall (.ofOption clock) (.settings settings) = .ok c ∧
      ∃ symbols, (∀ v, (Setting.scale.name, v) ∈ settings.entries ↔ v = .text symbols) ∧
        ∀ n, divideOverSymbols symbols.toList n =
          .ok ((divideOver c.config.scale.units n).1.map fun (u, k) => (u.symbol, k),
            (divideOver c.config.scale.units n).2)) ∨
    ∃ cause other, make wall (.ofOption clock) (.entries given) = .error (.settings cause) ∧
      make wall (.ofOption clock) (.settings settings) = .error (.settings other) := by
  intro settings
  have hnodup : ((assignAll [] given).map Prod.fst).Nodup := nodup_assignAll given (by simp)
  cases hentries : Config.ofEntries (assignAll [] given) with
  | error cause =>
    have hnone : ¬ ∃ config, settings.check = .ok config := by
      rw [exists_check_ofEntries_iff hnodup, hentries]
      simp
    cases hcheck : settings.check with
    | ok config => exact absurd ⟨config, hcheck⟩ hnone
    | error other =>
      exact .inr ⟨cause, other, make_entries_of_check_error wall _ hentries,
        make_settings_of_check_error wall clock hcheck⟩
  | ok held =>
    obtain ⟨config, hcheck⟩ := exists_check_ofEntries ⟨held, hentries⟩
    have hmake := make_settings_of_check wall clock hcheck
    refine .inl ⟨_, (make_entries_of_check wall _ hentries).trans hmake, hmake,
      config.scale.symbols, fun v => Settings.mem_iff_of_check hcheck, ?_⟩
    intro n
    rw [UnitScale.symbols, String.toList_ofList]
    exact divideOverSymbols_map_symbol config.scale.units n

/-- The two faults may differ, as the defaults come before a name that is no setting. -/
example :
    let given : List Entry := [("MODE", .null), (Setting.withOffset.name, .integer 1)]
    make (.still .null) .absent (.entries given) = .error (.settings (.unknown "MODE")) ∧
      make (.still .null) .absent (.settings (.ofEntries given)) =
        .error (.settings (.wrongKind .withOffset .integer)) :=
  ⟨rfl, rfl⟩

end Evaluator

end RelativeDate
