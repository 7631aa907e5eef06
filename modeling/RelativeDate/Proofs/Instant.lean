import RelativeDate.Instant
import RelativeDate.Proofs.Calendar.Dates

/-! # Instants by day and time

An instant is a day and a time of that day. Moving by days changes the day alone, and succeeds
exactly when the new day is one of the calendar. -/

namespace RelativeDate.Instant

open Calendar

attribute [ext] Instant

/-! ## Instants and their microseconds -/

theorem ofMicros?_eq_some_iff {n : Int} {t : Instant} :
    ofMicros? n = some t ↔ (t.micros : Int) = n := by
  have hlt := t.micros_lt
  unfold ofMicros?
  constructor
  · intro h
    split at h
    · rename_i hrange
      simp only [Option.some.injEq] at h
      subst h
      exact Int.toNat_of_nonneg hrange.1
    · simp at h
  · rintro rfl
    simp [hlt]

theorem addMicros?_eq_some_iff {t s : Instant} {n : Int} :
    t.addMicros? n = some s ↔ (s.micros : Int) = t.micros + n :=
  ofMicros?_eq_some_iff

theorem exists_ofMicros?_iff {n : Int} :
    (∃ t, ofMicros? n = some t) ↔ 0 ≤ n ∧ n < dayLimit * microsPerDay := by
  constructor
  · rintro ⟨t, ht⟩
    have hlt := t.micros_lt
    rw [ofMicros?_eq_some_iff] at ht
    omega
  · rintro ⟨hle, hlt⟩
    exact ⟨⟨n.toNat, by omega⟩, ofMicros?_eq_some_iff.mpr (Int.toNat_of_nonneg hle)⟩

/-! ## Day and time -/

theorem dayNumber_lt (t : Instant) : t.dayNumber < dayLimit := by
  have hlt := t.micros_lt
  exact Nat.div_lt_of_lt_mul (by rwa [Nat.mul_comm])

theorem timeOfDay_lt (t : Instant) : t.timeOfDay < microsPerDay :=
  Nat.mod_lt _ (by decide)

/-- The microseconds of an instant determine its day and its time, and are determined by them. -/
theorem micros_eq_iff {t : Instant} {day time : Nat} (h : time < microsPerDay) :
    t.micros = day * microsPerDay + time ↔ t.dayNumber = day ∧ t.timeOfDay = time := by
  have hsplit := t.dayNumber_mul_add_timeOfDay
  constructor
  · intro heq
    refine ⟨?_, ?_⟩
    · rw [dayNumber, heq, Nat.add_comm, Nat.add_mul_div_right _ _ (by decide),
        Nat.div_eq_of_lt h, Nat.zero_add]
    · rw [timeOfDay, heq, Nat.add_comm, Nat.add_mul_mod_self_right, Nat.mod_eq_of_lt h]
  · rintro ⟨rfl, rfl⟩
    exact hsplit.symm

theorem exists_day_time {day time : Nat} (hday : day < dayLimit) (htime : time < microsPerDay) :
    ∃ t : Instant, t.dayNumber = day ∧ t.timeOfDay = time := by
  have hlt : day * microsPerDay + time < dayLimit * microsPerDay := by
    unfold microsPerDay dayLimit at *
    omega
  exact ⟨⟨_, hlt⟩, (micros_eq_iff htime).mp rfl⟩

/-! ## Moving by days -/

theorem addDays?_eq_some_iff {t s : Instant} {n : Int} :
    t.addDays? n = some s ↔ (s.dayNumber : Int) = t.dayNumber + n ∧ s.timeOfDay = t.timeOfDay := by
  have htime := t.timeOfDay_lt
  have hsplit := t.dayNumber_mul_add_timeOfDay
  have hsplit' := s.dayNumber_mul_add_timeOfDay
  have htime' := s.timeOfDay_lt
  unfold addDays? microsPerDay at *
  rw [addMicros?_eq_some_iff]
  omega

@[simp] theorem addDays?_zero (t : Instant) : t.addDays? 0 = some t :=
  addDays?_eq_some_iff.mpr ⟨(Int.add_zero _).symm, rfl⟩

theorem exists_addDays?_iff {t : Instant} {n : Int} :
    (∃ s, t.addDays? n = some s) ↔ 0 ≤ t.dayNumber + n ∧ t.dayNumber + n < dayLimit := by
  constructor
  · rintro ⟨s, hs⟩
    have hlt := s.dayNumber_lt
    have hday := (addDays?_eq_some_iff.mp hs).1
    omega
  · rintro ⟨hle, hlt⟩
    obtain ⟨s, hday, htime⟩ :=
      exists_day_time (show (t.dayNumber + n).toNat < dayLimit by omega) t.timeOfDay_lt
    exact ⟨s, addDays?_eq_some_iff.mpr ⟨by omega, htime⟩⟩

/-! ## Fields -/

theorem year_eq (t : Instant) : t.year = yearOf t.dayNumber + 1 := rfl

theorem month_eq (t : Instant) : t.month = monthOf t.dayNumber % 12 + 1 := rfl

/-- The day of an instant lies in its year. -/
theorem dayNumber_bounds (t : Instant) :
    yearStart (t.year - 1) ≤ t.dayNumber ∧ t.dayNumber < yearStart t.year :=
  yearOf_eq_iff.mp rfl

theorem year_pos (t : Instant) : 0 < t.year :=
  Nat.succ_pos _

theorem yearStart_year (t : Instant) :
    yearStart t.year = yearStart (t.year - 1) + if IsLeap t.year then 366 else 365 := by
  have hpos := t.year_pos
  have hlength := yearStart_succ (t.year - 1)
  rwa [show t.year - 1 + 1 = t.year by omega,
    show ((t.year - 1 : Nat) : Int) + 1 = t.year by omega] at hlength

theorem year_lt (t : Instant) : t.year < yearLimit := by
  have hyear := yearStart_yearOf_le t.dayNumber
  have hlt := yearStart_strictMono.lt_iff_lt.mp
    (Nat.lt_of_le_of_lt hyear (dayLimit_eq ▸ t.dayNumber_lt))
  rw [year_eq]
  omega

end RelativeDate.Instant
