import Mathlib.Data.List.Pairwise
import RelativeDate.UnitScale
import RelativeDate.Proofs.DateTime
import RelativeDate.Proofs.Expression

/-! # Differences over a scale

Greedy division loses nothing, so the steps for a difference lead from the one instant to the
other. They all go in the same direction. Each instant on the way therefore lies between the two
ends, and none of the steps leaves the calendar. -/

namespace RelativeDate

open Operation

variable {anchor target t s : Instant} {dir : Direction} {amounts : List (FixedUnit × Nat)}
variable {scale : UnitScale} {ops : List Operation}

/-! ## Greedy division -/

/-- The milliseconds that amounts of units come to. -/
def amountsMillis : List (FixedUnit × Nat) → Nat
  | [] => 0
  | (u, n) :: amounts => n * u.millis + amountsMillis amounts

@[simp] theorem amountsMillis_nil : amountsMillis [] = 0 := rfl

@[simp] theorem amountsMillis_cons (u : FixedUnit) (n : Nat) (amounts : List (FixedUnit × Nat)) :
    amountsMillis ((u, n) :: amounts) = n * u.millis + amountsMillis amounts := rfl

theorem amountsMillis_divideOver (units : List FixedUnit) (n : Nat) :
    amountsMillis (divideOver units n).1 + (divideOver units n).2 = n := by
  induction units generalizing n with
  | nil => exact Nat.zero_add n
  | cons u units ih =>
    have hrest := ih (n % u.millis)
    rw [divideOver, amountsMillis_cons, Nat.add_assoc, hrest]
    exact Nat.div_add_mod' n u.millis

theorem FixedUnit.second_dvd_millis (u : FixedUnit) : FixedUnit.second.millis ∣ u.millis := by
  cases u <;> decide

/-- Greedy division leaves what division by the last unit alone would leave, since every unit is
    a multiple of the shorter ones. -/
theorem divideOver_snd {units : List FixedUnit} (hne : units ≠ [])
    (h : units.Pairwise fun u v => v.millis < u.millis) (n : Nat) :
    (divideOver units n).2 = n % (units.getLast hne).millis := by
  induction units generalizing n with
  | nil => exact absurd rfl hne
  | cons u units ih =>
    rw [List.pairwise_cons] at h
    rw [divideOver]
    cases units with
    | nil => rfl
    | cons v units =>
      have hcons := List.cons_ne_nil v units
      have hdvd := FixedUnit.millis_dvd_of_lt (h.1 _ (List.getLast_mem hcons))
      rw [List.getLast_cons hcons, ih hcons h.2, Nat.mod_mod_of_dvd _ hdvd]

theorem le_amountsMillis {u : FixedUnit} {n : Nat} (h : (u, n) ∈ amounts) :
    n ≤ amountsMillis amounts := by
  induction amounts with
  | nil => cases h
  | cons head amounts ih =>
    obtain ⟨v, m⟩ := head
    rw [amountsMillis_cons]
    cases h with
    | head =>
      have hunit : n ≤ n * u.millis := Nat.le_mul_of_pos_right n u.millis_pos
      omega
    | tail _ hmem =>
      have hle := ih hmem
      omega

/-! ## Steps for amounts -/

theorem mem_stepsFor {op : Operation} :
    op ∈ stepsFor dir amounts ↔ ∃ u n, (u, n) ∈ amounts ∧ n ≠ 0 ∧ op = .move dir (.fixed u) n := by
  simp only [stepsFor, List.mem_map, List.mem_filter, decide_eq_true_eq]
  constructor
  · rintro ⟨⟨u, n⟩, ⟨hmem, hn⟩, rfl⟩
    exact ⟨u, n, hmem, hn, rfl⟩
  · rintro ⟨u, n, hmem, hn, rfl⟩
    exact ⟨⟨u, n⟩, ⟨hmem, hn⟩, rfl⟩

@[simp] theorem stepsFor_nil (dir : Direction) : stepsFor dir [] = [] := rfl

theorem stepsFor_cons (u : FixedUnit) (n : Nat) (amounts : List (FixedUnit × Nat)) :
    stepsFor dir ((u, n) :: amounts) =
      if n = 0 then stepsFor dir amounts
      else .move dir (.fixed u) n :: stepsFor dir amounts := by
  by_cases hn : n = 0 <;> simp [stepsFor, hn]

theorem run?_fixed_eq_some_iff {u : FixedUnit} {n : Nat} :
    (Operation.move dir (.fixed u) n).run? t = some s ↔
      (s.micros : Int) = t.micros + dir.sign * (n * u.micros : Nat) := by
  rw [Int.natCast_mul, ← Int.mul_assoc]
  exact Instant.move?_fixed_eq_some_iff

/-- Steps for amounts lead as far as the amounts come to. -/
theorem runAll?_stepsFor_eq_some_iff :
    runAll? (stepsFor dir amounts) t = some s ↔
      (s.micros : Int) = t.micros + dir.sign * (1000 * amountsMillis amounts : Nat) := by
  induction amounts generalizing t with
  | nil =>
    rw [stepsFor_nil, runAll?_nil, Option.some_inj, Instant.ext_iff, amountsMillis_nil,
      Nat.mul_zero, Int.natCast_zero, Int.mul_zero, Int.add_zero, Int.ofNat_inj, eq_comm]
  | cons head amounts ih =>
    obtain ⟨u, n⟩ := head
    rw [stepsFor_cons, amountsMillis_cons]
    split
    · rename_i hn
      rw [ih, hn, Nat.zero_mul, Nat.zero_add]
    · have hparts : 1000 * (n * u.millis + amountsMillis amounts) =
          n * u.micros + 1000 * amountsMillis amounts := by
        rw [Nat.mul_add, Nat.mul_left_comm, FixedUnit.micros]
      rw [hparts, runAll?_cons, Option.bind_eq_some_iff]
      simp only [run?_fixed_eq_some_iff, ih]
      constructor
      · rintro ⟨r, hr, hrest⟩
        rw [hrest, hr, Int.natCast_add, Int.mul_add, Int.add_assoc]
      -- The first step ends between `t` and `s`, and `ih` covers the rest of the way.
      · exact Instant.exists_between

/-! ## Steps from an anchor to a target -/

/-- There are steps to a target when its difference is a whole number of seconds and division
    leaves no rest. -/
theorem stepsTo_eq_ok_iff :
    stepsTo scale anchor target = .ok ops ↔
      (target.since anchor).millis % FixedUnit.second.millis = 0 ∧
        (divideOver scale.units (target.since anchor).millis.natAbs).2 = 0 ∧
        stepsFor (if 0 < (target.since anchor).millis then .forward else .backward)
          (divideOver scale.units (target.since anchor).millis.natAbs).1 = ops := by
  simp only [stepsTo, ne_eq, ite_not]
  split
  · rename_i hseconds
    split
    · rename_i hrest
      simp only [hseconds, hrest, Except.ok.injEq, true_and]
    · rename_i hrest
      simp only [hrest, reduceCtorEq, false_and, and_false]
  · rename_i hseconds
    simp only [hseconds, reduceCtorEq, false_and]

/-- The shortest unit of a scale. -/
def UnitScale.last (scale : UnitScale) : FixedUnit :=
  scale.units.getLast scale.units_ne_nil

theorem UnitScale.last_millis_le {u : FixedUnit} (h : u ∈ scale.units) :
    scale.last.millis ≤ u.millis :=
  (scale.decreasing.imp Nat.le_of_lt).rel_getLast_of_rel_getLast_getLast h (Nat.le_refl _)

theorem UnitScale.last_eq_second (h : .second ∈ scale.units) : scale.last = .second := by
  have hle := scale.last_millis_le h
  -- No unit is shorter than the second.
  revert hle
  cases scale.last <;> decide

/-- There are steps to a target exactly when its difference is a multiple of the shortest unit. -/
theorem exists_stepsTo_iff :
    (∃ ops, stepsTo scale anchor target = .ok ops) ↔
      (scale.last.millis : Int) ∣ (target.since anchor).millis := by
  have hsecond := scale.last.second_dvd_millis
  simp only [stepsTo_eq_ok_iff, exists_and_left, exists_eq', and_true,
    divideOver_snd scale.units_ne_nil scale.decreasing]
  rw [← UnitScale.last, ← Nat.dvd_iff_mod_eq_zero, Int.natCast_dvd]
  constructor
  · rintro ⟨-, h⟩
    exact h
  · intro h
    exact ⟨Int.emod_eq_zero_of_dvd (Int.natCast_dvd.mpr (Nat.dvd_trans hsecond h)), h⟩

/-- Parts of a second that differ are told before anything is divided. -/
theorem stepsTo_of_not_second_dvd
    (h : ¬ (FixedUnit.second.millis : Int) ∣ (target.since anchor).millis) :
    stepsTo scale anchor target = .error (.notWholeSeconds target anchor) := by
  rw [Int.dvd_iff_emod_eq_zero] at h
  exact if_pos h

theorem stepsTo_of_not_last_dvd
    (hsecond : (FixedUnit.second.millis : Int) ∣ (target.since anchor).millis)
    (hlast : ¬ (scale.last.millis : Int) ∣ (target.since anchor).millis) :
    stepsTo scale anchor target = .error (.notExpressible scale target) := by
  rw [Int.natCast_dvd, Nat.dvd_iff_mod_eq_zero, UnitScale.last,
    ← divideOver_snd scale.units_ne_nil scale.decreasing] at hlast
  rw [stepsTo, if_neg (not_not.mpr (Int.emod_eq_zero_of_dvd hsecond))]
  exact if_pos hlast

theorem exists_of_stepsTo (h : stepsTo scale anchor target = .ok ops) :
    ∃ dir amounts, ops = stepsFor dir amounts ∧
      (target.since anchor).millis = dir.sign * amountsMillis amounts := by
  obtain ⟨-, hrest, rfl⟩ := stepsTo_eq_ok_iff.mp h
  refine ⟨_, _, rfl, ?_⟩
  -- Without a rest the amounts make up the whole difference, up to its sign.
  have hsum := amountsMillis_divideOver scale.units (target.since anchor).millis.natAbs
  rw [hrest] at hsum
  split
  · rw [Direction.sign_forward]
    omega
  · rw [Direction.sign_backward]
    omega

/-- Between whole milliseconds no part of a difference is cut off. -/
theorem Instant.micros_eq_add_since (hanchor : anchor.IsWholeMilli)
    (htarget : target.IsWholeMilli) :
    (target.micros : Int) = anchor.micros + 1000 * (target.since anchor).millis := by
  unfold IsWholeMilli microsPerMilli at hanchor htarget
  simp only [since, Duration.millis, microsPerMilli]
  omega

/-- The difference of whole milliseconds is made up of whole seconds when both have the same part
    of a second. -/
theorem Instant.second_dvd_since_iff (hanchor : anchor.IsWholeMilli)
    (htarget : target.IsWholeMilli) :
    (FixedUnit.second.millis : Int) ∣ (target.since anchor).millis ↔
      target.subsecond = anchor.subsecond := by
  unfold IsWholeMilli microsPerMilli at hanchor htarget
  rw [subsecond_eq, subsecond_eq]
  simp only [since, Duration.millis, microsPerMilli, FixedUnit.millis, microsPerSecond]
  omega

theorem runAll?_stepsTo (hanchor : anchor.IsWholeMilli) (htarget : target.IsWholeMilli)
    (h : stepsTo scale anchor target = .ok ops) : runAll? ops anchor = some target := by
  obtain ⟨dir, amounts, rfl, hmillis⟩ := exists_of_stepsTo h
  have hmicros := Instant.micros_eq_add_since hanchor htarget
  rw [hmillis, Int.mul_left_comm] at hmicros
  exact runAll?_stepsFor_eq_some_iff.mpr hmicros

/-- Steps from an anchor to a target can be written, and none of them rounds. -/
theorem writable_isMove_of_stepsTo (h : stepsTo scale anchor target = .ok ops) :
    ∀ op ∈ ops, op.Writable ∧ op.IsMove := by
  obtain ⟨dir, amounts, rfl, hmillis⟩ := exists_of_stepsTo h
  intro op hop
  obtain ⟨u, n, hmem, -, rfl⟩ := mem_stepsFor.mp hop
  have hle := le_amountsMillis hmem
  have hlimit : amountsMillis amounts < Calendar.dayLimit * microsPerDay := by
    have ht := target.micros_lt
    have ha := anchor.micros_lt
    simp only [Instant.since, Duration.millis, microsPerMilli] at hmillis
    cases dir with
    | forward =>
      simp only [Direction.sign_forward] at hmillis
      omega
    | backward =>
      simp only [Direction.sign_backward] at hmillis
      omega
  exact ⟨writable_move (Nat.lt_of_le_of_lt hle hlimit) dir _, trivial⟩

/-- The expression for a target leads back to it. -/
theorem outcome_evaluate_stepsTo (hanchor : anchor.IsWholeMilli) (htarget : target.IsWholeMilli)
    (h : stepsTo scale anchor target = .ok ops) :
    (evaluate (expressionText ops) anchor).outcome = .ok target := by
  have hops := writable_isMove_of_stepsTo h
  rw [evaluate_expressionText (fun op hop => (hops op hop).1)
    (fun op hop => (hops op (List.dropLast_subset ops hop)).2),
    runAll?_stepsTo hanchor htarget h]
  rfl

end RelativeDate
