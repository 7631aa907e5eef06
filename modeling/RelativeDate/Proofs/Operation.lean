import RelativeDate.Operation
import RelativeDate.Proofs.DateTime
import RelativeDate.Proofs.Move
import RelativeDate.Proofs.Period

/-! # Single operations

An operation fails exactly when the place it leads to is not in the calendar, and that can be
told by counting: microseconds, months or days from the origin. A step that succeeds keeps the
part of the second, and a rounding leaves none of it. -/

namespace RelativeDate

open Calendar

variable {t s : Instant} {op : Operation}

/-! ## Leaving the calendar -/

/-- A count from the origin that stays below `limit`. -/
def Calendar.Within (limit : Nat) (n : Int) : Prop :=
  0 ≤ n ∧ n < limit

instance (limit : Nat) (n : Int) : Decidable (Within limit n) :=
  inferInstanceAs (Decidable (_ ∧ _))

namespace Instant

theorem ofMicros?_eq_none_iff {n : Int} :
    ofMicros? n = none ↔ ¬ Within (dayLimit * microsPerDay) n := by
  rw [Within, Nat.cast_mul, ← exists_ofMicros?_iff, Option.eq_none_iff_forall_ne_some, not_exists]

theorem addMicros?_eq_none_iff {n : Int} :
    t.addMicros? n = none ↔ ¬ Within (dayLimit * microsPerDay) (t.micros + n) :=
  ofMicros?_eq_none_iff

theorem addDays?_eq_none_iff {n : Int} :
    t.addDays? n = none ↔ ¬ Within dayLimit (t.dayNumber + n) := by
  rw [Within, ← exists_addDays?_iff, Option.eq_none_iff_forall_ne_some, not_exists]

theorem addMonths?_eq_none_iff {n : Int} :
    t.addMonths? n = none ↔ ¬ Within monthLimit (monthOf t.dayNumber + n) := by
  rw [Within, ← exists_addMonths?_iff, Option.eq_none_iff_forall_ne_some, not_exists]

theorem nextPeriod?_eq_none_iff {u : TimeUnit} :
    t.nextPeriod? u = none ↔
      ¬ Within (dayLimit * microsPerDay) ((t.periodStart u).micros + t.periodLength u) :=
  addMicros?_eq_none_iff

end Instant

namespace Operation

/-- The place that an operation leads to is none of the calendar. Units of fixed length count
    microseconds, and months count months. Years have to reach their nominal date first, and then
    the date that the leap correction leads to. A rounding only ever leaves the calendar for the
    end of its last period. -/
def LeavesCalendar : Operation → Instant → Prop
  | .move dir (.fixed u) amount, t =>
    ¬ Within (dayLimit * microsPerDay) (t.micros + dir.sign * amount * u.micros)
  | .move dir .month amount, t =>
    ¬ Within monthLimit (monthOf t.dayNumber + dir.sign * amount)
  | .move dir .year amount, t =>
    ¬ Within dayLimit (t.dayNumber + 365 * (dir.sign * amount)) ∨
      ∃ nominal, t.addDays? (365 * (dir.sign * amount)) = some nominal ∧
        ¬ Within dayLimit (nominal.dayNumber + dir.sign * t.missedLeapDays nominal dir)
  | .round u, t =>
    t.periodLength u ≤ 2 * (t.micros - (t.periodStart u).micros) ∧
      ¬ Within (dayLimit * microsPerDay) ((t.periodStart u).micros + t.periodLength u)

theorem run?_eq_none_iff : op.run? t = none ↔ op.LeavesCalendar t := by
  cases op with
  | move dir u amount =>
    cases u with
    | fixed u => exact Instant.addMicros?_eq_none_iff
    | month => exact Instant.addMonths?_eq_none_iff
    | year =>
      simp only [run?, Instant.move?, Instant.addNominalYears?, LeavesCalendar]
      rw [← Instant.addDays?_eq_none_iff]
      cases t.addDays? (365 * (dir.sign * amount)) with
      | none => simp
      | some nominal => simp [Instant.restoreLeapDays?, Instant.addDays?_eq_none_iff]
  | round u =>
    simp only [run?, Instant.round?, LeavesCalendar]
    split
    · rename_i hlate
      rw [Instant.nextPeriod?_eq_none_iff]
      exact (and_iff_right hlate).symm
    · rename_i hearly
      simp [hearly]

end Operation

/-! ## Parts of a second -/

namespace Instant

theorem subsecond_eq (t : Instant) : t.subsecond = t.micros % microsPerSecond :=
  Nat.mod_mod_of_dvd _ (by decide)

/-- Only what is left below the second decides whether an instant is a whole millisecond. -/
theorem isWholeMilli_iff_subsecond : t.IsWholeMilli ↔ microsPerMilli ∣ t.subsecond := by
  rw [IsWholeMilli, subsecond_eq]
  exact (Nat.dvd_mod_iff (by decide)).symm

theorem subsecond_of_timeOfDay_eq (h : s.timeOfDay = t.timeOfDay) : s.subsecond = t.subsecond := by
  rw [subsecond, subsecond, h]

theorem subsecond_of_addMicros? {n : Int} (hn : (microsPerSecond : Int) ∣ n)
    (hs : t.addMicros? n = some s) : s.subsecond = t.subsecond := by
  have hmicros := addMicros?_eq_some_iff.mp hs
  unfold microsPerSecond at hn
  rw [subsecond_eq, subsecond_eq, microsPerSecond]
  omega

theorem subsecond_of_boundary {u : TimeUnit} {k : Nat} (h : s.micros = u.boundary k) :
    s.subsecond = 0 := by
  rw [subsecond_eq, h]
  exact Nat.mod_eq_zero_of_dvd (u.microsPerSecond_dvd_boundary k)

end Instant

namespace Operation

variable {dir : Direction} {u : TimeUnit} {amount : Int}

/-- A step by months or by years leads to the same time of another day. -/
theorem timeOfDay_of_move (hu : u = .month ∨ u = .year)
    (hs : (move dir u amount).run? t = some s) : s.timeOfDay = t.timeOfDay := by
  rcases hu with rfl | rfl
  · obtain ⟨-, -, -, -, htime⟩ := Instant.addMonths?_eq_some_iff.mp hs
    exact htime
  · obtain ⟨nominal, hnominal, hcorrected⟩ := Option.bind_eq_some_iff.mp hs
    -- The nominal years and the leap days both are whole days, which keep the time.
    have hdays := (Instant.addDays?_eq_some_iff.mp hnominal).2
    have hleap := (Instant.addDays?_eq_some_iff.mp hcorrected).2
    exact hleap.trans hdays

/-- A step leads from a part of a second to the same part of another one. -/
theorem subsecond_of_move (hs : (move dir u amount).run? t = some s) :
    s.subsecond = t.subsecond := by
  cases u with
  | fixed u =>
    have hunit : (microsPerSecond : Int) ∣ u.micros := by cases u <;> decide
    exact Instant.subsecond_of_addMicros? (Int.dvd_mul_of_dvd_right hunit) hs
  | month => exact Instant.subsecond_of_timeOfDay_eq (timeOfDay_of_move (.inl rfl) hs)
  | year => exact Instant.subsecond_of_timeOfDay_eq (timeOfDay_of_move (.inr rfl) hs)

/-- A rounding leads to a whole second. -/
theorem subsecond_of_round (hs : (round u).run? t = some s) : s.subsecond = 0 := by
  simp only [run?, Instant.round?] at hs
  split at hs
  · rw [Instant.nextPeriod?_eq_some_iff, Instant.periodStart_add_periodLength] at hs
    exact Instant.subsecond_of_boundary hs
  · obtain rfl := Option.some.inj hs
    exact Instant.subsecond_of_boundary (t.periodStart_micros u)

/-- An operation leads from a whole millisecond to a whole millisecond. -/
theorem isWholeMilli_of_run? (h : t.IsWholeMilli) (hs : op.run? t = some s) :
    s.IsWholeMilli := by
  rw [Instant.isWholeMilli_iff_subsecond] at h ⊢
  cases op with
  | move dir u amount => rwa [subsecond_of_move hs]
  | round u =>
    rw [subsecond_of_round hs]
    exact Nat.dvd_zero _

end Operation

end RelativeDate
