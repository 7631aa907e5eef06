import RelativeDate.Proofs.Rounding

/-! # Laws of rounding

Rounding passes the boundaries of a unit one by one as the instant passes the middles of the
periods. So it keeps the order of instants, and it leaves a boundary where it is. A unit whose
boundaries are among those of another one therefore makes a rounding to the other one needless.
The boundaries of a unit of fixed length are evenly spaced, so that a step over whole periods can
be made before or after the rounding. -/

namespace RelativeDate

open Calendar

namespace FixedUnit

/-- The units that a day is made of, and the day. -/
def upToDay : List FixedUnit :=
  [.second, .minute, .hour, .day]

theorem micros_dvd_microsPerDay {w : FixedUnit} (hw : w ∈ upToDay) : w.micros ∣ microsPerDay := by
  revert w
  decide

end FixedUnit

/-! ## Points -/

namespace TimeUnit

variable {u v : TimeUnit} {n : Nat}

theorem nearest_mono (u : TimeUnit) : Monotone u.nearest := by
  intro n m h
  refine le_of_forall_lt fun k hk => ?_
  rw [lt_nearest_iff] at hk ⊢
  omega

@[simp] theorem nearest_boundary (u : TimeUnit) (k : Nat) : u.nearest (u.boundary k) = k := by
  have hlt : u.boundary k < u.boundary (k + 1) := u.boundary_strictMono k.lt_succ_self
  rw [nearest, periodAt_boundary, Nat.sub_self, if_neg (by omega)]

/-- Units of fixed length are rounded by half a unit and a division. -/
theorem nearest_fixed (w : FixedUnit) (n : Nat) :
    (fixed w).nearest n = (2 * n + w.micros) / (2 * w.micros) := by
  have hpos := w.micros_pos
  refine eq_of_forall_lt_iff fun k => ?_
  rw [lt_nearest_iff, ← Nat.succ_le_iff, Nat.le_div_iff_mul_le (by omega)]
  simp only [boundary]
  rw [Nat.succ_eq_add_one, Nat.mul_left_comm, Nat.add_mul]
  omega

/-- A step over whole periods moves the rounded point by as many boundaries. -/
theorem nearest_fixed_of_eq_add {w : FixedUnit} {m : Nat} {k : Int}
    (h : (m : Int) = n + k * w.micros) :
    ((fixed w).nearest m : Int) = (fixed w).nearest n + k := by
  have hpos := w.micros_pos
  rw [nearest_fixed, nearest_fixed]
  push_cast
  rw [h, show 2 * ((n : Int) + k * w.micros) + w.micros
    = 2 * n + w.micros + k * (2 * w.micros) by ring]
  exact Int.add_mul_ediv_right _ _ (by omega)

/-! ## Finer units -/

/-- The first unit is shorter than the second one. -/
def IsShorter : TimeUnit → TimeUnit → Prop
  | .fixed v, .fixed u => v.millis < u.millis
  | .fixed _, .month => True
  | .fixed _, .year => True
  | .month, .year => True
  | _, _ => False

/-- The first unit is the second one itself, or it is a shorter one of up to a day, or the two are
    the month and the year. Weeks are left out, as they run on across the ends of months. -/
inductive Refines : TimeUnit → TimeUnit → Prop
  | refl (u : TimeUnit) : Refines u u
  | upToDay {v : FixedUnit} {u : TimeUnit} (hv : v ∈ FixedUnit.upToDay)
      (hshorter : (fixed v).IsShorter u) : Refines (fixed v) u
  | monthOfYear : Refines .month .year

theorem micros_dvd_boundary {w : FixedUnit} (hw : w ∈ FixedUnit.upToDay)
    (hshorter : (fixed w).IsShorter u) (k : Nat) : w.micros ∣ u.boundary k := by
  have hday := FixedUnit.micros_dvd_microsPerDay hw
  cases u with
  | fixed u =>
    have hunit : w.micros ∣ u.micros :=
      Nat.mul_dvd_mul_left _ (FixedUnit.millis_dvd_of_lt hshorter)
    exact Nat.dvd_mul_left_of_dvd hunit k
  | month => exact Nat.dvd_mul_left_of_dvd hday _
  | year => exact Nat.dvd_mul_left_of_dvd hday _

/-- The boundaries of a unit are among those of a finer one. -/
theorem Refines.exists_boundary_eq (h : v.Refines u) (k : Nat) :
    ∃ j, u.boundary k = v.boundary j := by
  cases h with
  | refl => exact ⟨k, rfl⟩
  | upToDay hv hshorter =>
    obtain ⟨j, hj⟩ := micros_dvd_boundary hv hshorter k
    exact ⟨j, hj.trans (Nat.mul_comm _ _)⟩
  | monthOfYear =>
    refine ⟨12 * k, ?_⟩
    simp only [boundary]
    rw [monthStart_twelve_mul]

end TimeUnit

/-! ## Instants -/

namespace Instant

variable {x y r s : Instant} {u v : TimeUnit}

/-- Rounding keeps the order of instants, and where it succeeds for the later one, it succeeds for
    the earlier one, too. -/
theorem round?_mono (h : x.micros ≤ y.micros) (hs : y.round? u = some s) :
    ∃ r, x.round? u = some r ∧ r.micros ≤ s.micros := by
  have hle : u.boundary (u.nearest x.micros) ≤ s.micros := by
    rw [round?_eq_some_iff.mp hs]
    exact u.boundary_strictMono.monotone (u.nearest_mono h)
  obtain ⟨r, hr⟩ := exists_round?_iff.mpr (Nat.lt_of_le_of_lt hle s.micros_lt)
  exact ⟨r, hr, round?_eq_some_iff.mp hr ▸ hle⟩

/-- The last day of 9998 is rounded up to the first one of 9999, and 1 February 9999 is rounded
    down to it. -/
theorem round?_mono_year_9999 :
    let x : Instant := ⟨3651693 * microsPerDay, by decide⟩
    let y : Instant := ⟨3651725 * microsPerDay, by decide⟩
    let newYear : Instant := ⟨3651694 * microsPerDay, by decide⟩
    x.micros ≤ y.micros ∧ y.round? .year = some newYear ∧
      ∃ r, x.round? .year = some r ∧ r.micros ≤ newYear.micros := by
  intro x y newYear
  have hle : x.micros ≤ y.micros := by decide
  have hy : y.round? .year = some newYear := by decide
  exact ⟨hle, hy, round?_mono hle hy⟩

theorem round?_eq_self_iff : x.round? u = some x ↔ ∃ k, x.micros = u.boundary k := by
  rw [round?_eq_some_iff]
  constructor
  · exact fun h => ⟨_, h⟩
  · rintro ⟨k, hk⟩
    rw [hk, TimeUnit.nearest_boundary]

/-- What rounding leads to is left alone by rounding to a finer unit. -/
theorem round?_of_refines (hvu : v.Refines u) (hr : x.round? u = some r) :
    r.round? v = some r := by
  obtain ⟨j, hj⟩ := hvu.exists_boundary_eq (u.nearest x.micros)
  exact round?_eq_self_iff.mpr ⟨j, (round?_eq_some_iff.mp hr).trans hj⟩

/-- Rounding to a unit and then to a finer one leads where the first rounding leads. In particular
    this holds of rounding to the same unit again. An instant is rounded to itself exactly when its
    own period starts there. -/
theorem round?_absorbs_finer (x : Instant) (u : TimeUnit) :
    (∀ v r, v.Refines u → x.round? u = some r → r.round? v = some r) ∧
    (∀ r, x.round? u = some r → r.round? u = some r) ∧
    (x.round? u = some x ↔ x.periodStart u = x) := by
  refine ⟨?_, ?_, ?_⟩
  · exact fun v r hvu hr => round?_of_refines hvu hr
  · exact fun r hr => round?_of_refines (.refl u) hr
  · rw [round?_eq_self_iff, periodStart_eq_self_iff]

/-- Weeks do not refine months: 10 May 2020 is rounded to Friday 1 May, and on to Monday 4 May. -/
example :
    let x : Instant := ⟨737554 * microsPerDay, by decide⟩
    let friday : Instant := ⟨737545 * microsPerDay, by decide⟩
    let monday : Instant := ⟨737548 * microsPerDay, by decide⟩
    x.round? .month = some friday ∧ friday.round? (.fixed .week) = some monday := by
  decide

/-- Rounding commutes with steps over whole periods of a unit of fixed length. From an instant that
    can be rounded and stepped from, rounding first and stepping first lead to the same instant, or
    both leave the calendar with the second operation. -/
theorem round?_move?_fixed_comm {w : FixedUnit} {dir : Direction} {k : Int}
    (hr : x.round? (.fixed w) = some r) (hs : x.move? dir (.fixed w) k = some s) :
    r.move? dir (.fixed w) k = s.round? (.fixed w) := by
  have hstepped := TimeUnit.nearest_fixed_of_eq_add (move?_fixed_eq_some_iff.mp hs)
  have hboundary : ((TimeUnit.fixed w).boundary ((TimeUnit.fixed w).nearest s.micros) : Int) =
      r.micros + dir.sign * k * w.micros := by
    rw [round?_eq_some_iff.mp hr]
    simp only [TimeUnit.boundary, Int.natCast_mul]
    rw [hstepped, Int.add_mul]
  apply Option.ext
  intro b
  rw [move?_fixed_eq_some_iff, round?_eq_some_iff, ← hboundary, Int.natCast_inj]

/-- The noon of Thursday 27 February 2020 is the middle of its week. Rounded to the week and a week
    later, it is Monday 9 March, whichever is done first. -/
theorem round?_move?_fixed_comm_february_2020 :
    let x : Instant := ⟨737481 * microsPerDay + 12 * microsPerHour, by decide⟩
    let r : Instant := ⟨737485 * microsPerDay, by decide⟩
    let s : Instant := ⟨737488 * microsPerDay + 12 * microsPerHour, by decide⟩
    let finish : Instant := ⟨737492 * microsPerDay, by decide⟩
    x.round? (.fixed .week) = some r ∧ x.move? .forward (.fixed .week) 1 = some s ∧
      r.move? .forward (.fixed .week) 1 = some finish ∧ s.round? (.fixed .week) = some finish := by
  intro x r s finish
  have hr : x.round? (.fixed .week) = some r := by decide
  have hs : x.move? .forward (.fixed .week) 1 = some s := by decide
  have hfinish : r.move? .forward (.fixed .week) 1 = some finish := by decide
  exact ⟨hr, hs, hfinish, round?_move?_fixed_comm hr hs ▸ hfinish⟩

end Instant

end RelativeDate
