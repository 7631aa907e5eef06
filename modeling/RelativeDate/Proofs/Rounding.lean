import Mathlib.Data.Nat.Dist
import RelativeDate.Proofs.Operation

/-! # Rounding to the nearest boundary

A rounding leads to the nearer end of the period, and to the later end from halfway on. No other
boundary of the unit can be nearer, as the boundaries before and behind the period are further
away. The only rounding that fails is the one that would lead past the end of the calendar. -/

namespace RelativeDate

open Calendar

/-! ## The boundaries around a point -/

namespace TimeUnit

variable {u : TimeUnit} {n k : Nat}

/-- No boundary of the unit is nearer to the point `n` than the one that starts period `k`. -/
def IsNearest (u : TimeUnit) (n k : Nat) : Prop :=
  ∀ j, Nat.dist n (u.boundary k) ≤ Nat.dist n (u.boundary j)

/-- Every other boundary of the unit is further from the point `n`. -/
def IsOnlyNearest (u : TimeUnit) (n k : Nat) : Prop :=
  ∀ j, j ≠ k → Nat.dist n (u.boundary k) < Nat.dist n (u.boundary j)

/-- No boundary lies inside a period. -/
theorem boundary_le_or_ge (u : TimeUnit) (k j : Nat) :
    u.boundary j ≤ u.boundary k ∨ u.boundary (k + 1) ≤ u.boundary j := by
  rcases Nat.lt_or_ge k j with hlt | hge
  · exact .inr (u.boundary_strictMono.monotone hlt)
  · exact .inl (u.boundary_strictMono.monotone hge)

/-- The way to any boundary is as long as the shorter way to an end of the period. -/
theorem min_le_dist_boundary (u : TimeUnit) (n j : Nat) :
    min (n - u.boundary (u.periodAt n)) (u.boundary (u.periodAt n + 1) - n) ≤
      Nat.dist n (u.boundary j) := by
  have houtside := u.boundary_le_or_ge (u.periodAt n) j
  unfold Nat.dist
  omega

/-- The boundary that the point `n` is rounded to. -/
def nearest (u : TimeUnit) (n : Nat) : Nat :=
  if u.boundary (u.periodAt n + 1) - n ≤ n - u.boundary (u.periodAt n) then u.periodAt n + 1
  else u.periodAt n

/-- A point is rounded past the boundary `k` from the middle of period `k` on. -/
theorem lt_nearest_iff : k < u.nearest n ↔ u.boundary k + u.boundary (k + 1) ≤ 2 * n := by
  have hlower := u.boundary_periodAt_le n
  have hupper := u.lt_boundary_periodAt_succ n
  have hmono := u.boundary_strictMono.monotone
  unfold nearest
  rcases Nat.lt_trichotomy k (u.periodAt n) with hbefore | rfl | hafter
  -- An earlier period lies before the point, and so does its middle.
  · have hstart := hmono hbefore.le
    have hend := hmono (show k + 1 ≤ u.periodAt n by omega)
    split <;> omega
  · split <;> omega
  · have hstart := hmono (show u.periodAt n + 1 ≤ k by omega)
    have hend := hmono (show u.periodAt n + 1 ≤ k + 1 by omega)
    split <;> omega

theorem isNearest_nearest (u : TimeUnit) (n : Nat) : u.IsNearest n (u.nearest n) := by
  intro j
  have hany := u.min_le_dist_boundary n j
  have hlower := u.boundary_periodAt_le n
  have hupper := u.lt_boundary_periodAt_succ n
  unfold nearest
  split
  · rw [Nat.dist_eq_sub_of_le hupper.le]
    omega
  · rw [Nat.dist_eq_sub_of_le_right hlower]
    omega

theorem IsOnlyNearest.eq_nearest (hk : u.IsOnlyNearest n k) : k = u.nearest n := by
  by_contra hne
  exact Nat.not_lt.mpr (u.isNearest_nearest n k) (hk _ (Ne.symm hne))

end TimeUnit

/-! ## Rounding -/

namespace Instant

variable {x r lo up : Instant} {u : TimeUnit}

/-- Rounding compares the ways to both ends. -/
theorem round?_eq (x : Instant) (u : TimeUnit) :
    x.round? u =
      if u.boundary (u.periodAt x.micros + 1) - x.micros ≤
          x.micros - u.boundary (u.periodAt x.micros)
      then x.nextPeriod? u else some (x.periodStart u) := by
  have hlower := u.boundary_periodAt_le x.micros
  have hupper := u.lt_boundary_periodAt_succ x.micros
  have hhalf : x.periodLength u ≤ 2 * (x.micros - (x.periodStart u).micros) ↔
      u.boundary (u.periodAt x.micros + 1) - x.micros ≤
        x.micros - u.boundary (u.periodAt x.micros) := by
    rw [periodLength, periodStart_micros]
    omega
  simp only [round?, hhalf]

theorem bounds?_eq_some_iff :
    x.bounds? u = some (lo, up) ↔ x.periodStart u = lo ∧ x.nextPeriod? u = some up := by
  rw [bounds?, Option.map_eq_some_iff]
  constructor
  · rintro ⟨upper, hupper, heq⟩
    obtain ⟨rfl, rfl⟩ := Prod.mk.inj heq
    exact ⟨rfl, hupper⟩
  · rintro ⟨rfl, hup⟩
    exact ⟨up, hup, rfl⟩

theorem bounds?_eq_none_iff :
    x.bounds? u = none ↔
      dayLimit * microsPerDay ≤ (x.periodStart u).micros + x.periodLength u := by
  rw [bounds?, Option.map_eq_none_iff, nextPeriod?_eq_none_iff, Within]
  omega

/-- Rounding succeeds exactly when the boundary that it leads to is an instant. -/
theorem round?_eq_some_iff : x.round? u = some r ↔ r.micros = u.boundary (u.nearest x.micros) := by
  rw [round?_eq]
  unfold TimeUnit.nearest
  split
  · rw [nextPeriod?_eq_some_iff, periodStart_add_periodLength]
  · rw [Option.some.injEq, eq_comm, Instant.ext_iff, periodStart_micros]

theorem exists_round?_iff :
    (∃ r, x.round? u = some r) ↔ u.boundary (u.nearest x.micros) < dayLimit * microsPerDay := by
  simp only [round?_eq_some_iff]
  constructor
  · rintro ⟨r, hr⟩
    exact hr ▸ r.micros_lt
  · intro hlt
    exact ⟨⟨_, hlt⟩, rfl⟩

theorem round?_eq_none_iff :
    x.round? u = none ↔ dayLimit * microsPerDay ≤ u.boundary (u.nearest x.micros) := by
  rw [← Nat.not_lt, ← exists_round?_iff, Option.eq_none_iff_forall_ne_some, not_exists]

/-- Rounding leads to a boundary that no other one is nearer than. -/
theorem isNearest_of_round? (h : x.round? u = some r) :
    ∃ k, r.micros = u.boundary k ∧ u.IsNearest x.micros k :=
  ⟨_, round?_eq_some_iff.mp h, u.isNearest_nearest _⟩

/-- Where rounding fails, a boundary that is nearer than all others is past the calendar. -/
theorem le_boundary_of_round?_eq_none {k : Nat} (h : x.round? u = none)
    (hk : u.IsOnlyNearest x.micros k) : dayLimit * microsPerDay ≤ u.boundary k := by
  rw [hk.eq_nearest]
  exact round?_eq_none_iff.mp h

/-- Let an instant lie in a period between two boundaries, which the calendar gives. When both are
    instants, rounding leads to the later one if the way there is not longer than the way back,
    and else to the earlier one. When the later one is past the calendar, rounding leads to the
    earlier one if the way back is shorter, and else it fails. So the result is a boundary than
    which no other is nearer, and no rounding fails for which there is one nearest boundary that
    is an instant. -/
theorem round?_nearest (x : Instant) (u : TimeUnit) :
    let lower := x.periodStart u
    let upper := lower.micros + x.calendarLength u
    (lower.IsStartOf x u ∧ lower.micros ≤ x.micros ∧ x.micros < upper) ∧
    (∀ lo up, x.bounds? u = some (lo, up) → lo = lower ∧ up.micros = upper ∧
      x.round? u = some (if up.micros - x.micros ≤ x.micros - lo.micros then up else lo)) ∧
    (x.bounds? u = none → dayLimit * microsPerDay ≤ upper ∧
      x.round? u = if x.micros - lower.micros < upper - x.micros then some lower else none) ∧
    (∀ r, x.round? u = some r → ∃ k, r.micros = u.boundary k ∧ u.IsNearest x.micros k) ∧
    (x.round? u = none → ∀ k, u.IsOnlyNearest x.micros k → dayLimit * microsPerDay ≤ u.boundary k)
    := by
  intro lower upper
  have hlower : lower.micros = u.boundary (u.periodAt x.micros) := x.periodStart_micros u
  have hend : lower.micros + x.periodLength u = upper := by
    rw [periodLength_eq_calendarLength]
  have hupper : upper = u.boundary (u.periodAt x.micros + 1) :=
    hend ▸ x.periodStart_add_periodLength u
  refine ⟨⟨x.isStartOf_periodStart u, x.periodStart_le u, ?_⟩, ?_, ?_, ?_, ?_⟩
  · rw [← hend]
    exact x.lt_periodStart_add_periodLength u
  · intro lo up h
    obtain ⟨rfl, hnext⟩ := bounds?_eq_some_iff.mp h
    have hup : up.micros = upper := hend ▸ nextPeriod?_eq_some_iff.mp hnext
    refine ⟨rfl, hup, ?_⟩
    rw [round?_eq, ← hupper, ← hlower, ← hup, hnext, apply_ite some]
  · intro h
    have hpast : dayLimit * microsPerDay ≤ upper := hend ▸ bounds?_eq_none_iff.mp h
    have hnext : x.nextPeriod? u = none := Option.map_eq_none_iff.mp h
    refine ⟨hpast, ?_⟩
    rw [round?_eq, ← hupper, ← hlower, hnext, ← ite_not]
    simp only [Nat.not_le]
    rfl
  · exact fun r hr => isNearest_of_round? hr
  · exact fun h k hk => le_boundary_of_round?_eq_none h hk

/-- At noon of the last day, both ends of the day are as near, and the later one is past the
    calendar. One microsecond before, the day can be rounded. -/
example :
    let noon : Instant := ⟨(dayLimit - 1) * microsPerDay + 12 * microsPerHour, by decide⟩
    let before : Instant := ⟨(dayLimit - 1) * microsPerDay + 12 * microsPerHour - 1, by decide⟩
    noon.round? (.fixed .day) = none ∧
      before.round? (.fixed .day) = some (before.periodStart (.fixed .day)) := by
  decide

end Instant

end RelativeDate
