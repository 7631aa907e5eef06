import Mathlib.Data.List.Chain
import RelativeDate.Proofs.UnitScale

/-! # Reduced amounts

A number of milliseconds can be made up of amounts of units in many ways. The amounts are reduced
when none of them could be traded for more of the unit before it. Greedy division finds reduced
amounts, and it finds all of them: a number is made up of reduced amounts in one way only. -/

namespace RelativeDate

variable {scale : UnitScale} {units : List FixedUnit} {amounts full : List (FixedUnit × Nat)}

/-- The units are some of the scale, in the order of the scale, and none of the amounts is zero.
    The amount of a unit comes to less than the unit that is right before it on the scale, whether
    there is an amount of that unit or not. -/
structure UnitScale.IsReduced (scale : UnitScale) (amounts : List (FixedUnit × Nat)) : Prop where
  order : (amounts.map Prod.fst).Sublist scale.units
  ne_zero : ∀ u n, (u, n) ∈ amounts → n ≠ 0
  lt_previous : ∀ u n, (u, n) ∈ amounts → ∀ v, [v, u] <:+: scale.units → n * u.millis < v.millis

/-! ## Amounts of all units -/

/-- One amount comes to less than the unit of another one. -/
def FitsInto (p q : FixedUnit × Nat) : Prop :=
  q.2 * q.1.millis < p.1.millis

theorem map_fst_divideOver (units : List FixedUnit) (n : Nat) :
    (divideOver units n).1.map Prod.fst = units := by
  induction units generalizing n with
  | nil => rfl
  | cons u units ih => exact congrArg (u :: ·) (ih (n % u.millis))

theorem isChain_divideOver (units : List FixedUnit) (n : Nat) :
    (divideOver units n).1.IsChain FitsInto := by
  induction units generalizing n with
  | nil => exact .nil
  | cons u units ih =>
    have hrest := ih (n % u.millis)
    cases units with
    | nil => exact .singleton _
    | cons v units =>
      have hle := Nat.div_mul_le_self (n % u.millis) v.millis
      exact .cons_cons (Nat.lt_of_le_of_lt hle (Nat.mod_lt n u.millis_pos)) hrest

/-- Amounts that fit into one another do not make up the unit before them. -/
theorem amountsMillis_lt {u : FixedUnit} {n : Nat} (h : ((u, n) :: amounts).IsChain FitsInto)
    (hdecreasing : (((u, n) :: amounts).map Prod.fst).Pairwise fun u v => v.millis < u.millis) :
    amountsMillis amounts < u.millis := by
  induction amounts generalizing u n with
  | nil => exact u.millis_pos
  | cons next amounts ih =>
    obtain ⟨v, m⟩ := next
    rw [List.isChain_cons_cons] at h
    rw [List.map_cons, List.pairwise_cons] at hdecreasing
    have hrest := ih h.2 hdecreasing.2
    have hfits : m * v.millis < u.millis := h.1
    -- As `u` is a multiple of `v`, there is room for one more `v` in it.
    obtain ⟨k, hk⟩ := FixedUnit.millis_dvd_of_lt (hdecreasing.1 v (by simp))
    rw [hk, Nat.mul_comm] at hfits
    have hroom := Nat.mul_le_mul_left v.millis (Nat.lt_of_mul_lt_mul_left hfits)
    rw [amountsMillis_cons, hk]
    rw [Nat.mul_succ, Nat.mul_comm] at hroom
    omega

/-- Greedy division finds the amounts again that fit into one another. -/
theorem divideOver_amountsMillis (h : full.IsChain FitsInto)
    (hdecreasing : (full.map Prod.fst).Pairwise fun u v => v.millis < u.millis) :
    divideOver (full.map Prod.fst) (amountsMillis full) = (full, 0) := by
  induction full with
  | nil => rfl
  | cons first full ih =>
    obtain ⟨u, n⟩ := first
    have hlt := amountsMillis_lt h hdecreasing
    have hrest := ih h.tail (List.pairwise_cons.mp hdecreasing).2
    have hdiv : (n * u.millis + amountsMillis full) / u.millis = n := by
      rw [Nat.add_comm, Nat.add_mul_div_right _ _ u.millis_pos, Nat.div_eq_of_lt hlt, Nat.zero_add]
    have hmod : (n * u.millis + amountsMillis full) % u.millis = amountsMillis full := by
      rw [Nat.mul_add_mod_self_right, Nat.mod_eq_of_lt hlt]
    rw [List.map_cons, amountsMillis_cons, divideOver, hdiv, hmod, hrest]

theorem second_dvd_amountsMillis (amounts : List (FixedUnit × Nat)) :
    FixedUnit.second.millis ∣ amountsMillis amounts := by
  induction amounts with
  | nil => exact Nat.dvd_zero _
  | cons first amounts ih =>
    obtain ⟨u, n⟩ := first
    exact Nat.dvd_add (Nat.dvd_mul_left_of_dvd u.second_dvd_millis n) ih

/-! ## Leaving out zeros -/

theorem amountsMillis_filter (amounts : List (FixedUnit × Nat)) :
    amountsMillis (amounts.filter fun (_, n) => n ≠ 0) = amountsMillis amounts := by
  induction amounts with
  | nil => rfl
  | cons first amounts ih =>
    obtain ⟨u, n⟩ := first
    by_cases hn : n = 0
    · simpa [hn] using ih
    · simpa [hn] using ih

theorem stepsFor_filter (dir : Direction) (amounts : List (FixedUnit × Nat)) :
    stepsFor dir (amounts.filter fun (_, n) => n ≠ 0) = stepsFor dir amounts := by
  rw [stepsFor, stepsFor, List.filter_filter]
  simp only [Bool.and_self]

/-- Zeros can be put in for the units that have no amount. -/
theorem exists_filter_eq (horder : (amounts.map Prod.fst).Sublist units)
    (hne : ∀ u n, (u, n) ∈ amounts → n ≠ 0) :
    ∃ full : List (FixedUnit × Nat), full.map Prod.fst = units ∧
      full.filter (fun (_, n) => n ≠ 0) = amounts := by
  induction units generalizing amounts with
  | nil =>
    obtain rfl : amounts = [] := by simpa using horder
    exact ⟨[], rfl, rfl⟩
  | cons u units ih =>
    cases amounts with
    | nil =>
      obtain ⟨full, hfull, hfilter⟩ := @ih [] (List.nil_sublist units) hne
      exact ⟨(u, 0) :: full, by simp [hfull], by simpa using hfilter⟩
    | cons first amounts =>
      obtain ⟨v, n⟩ := first
      rw [List.map_cons] at horder
      cases horder with
      | cons _ hskip =>
        obtain ⟨full, hfull, hfilter⟩ := @ih ((v, n) :: amounts) hskip hne
        exact ⟨(u, 0) :: full, by simp [hfull], by simpa using hfilter⟩
      | cons_cons _ hrest =>
        obtain ⟨full, hfull, hfilter⟩ := ih hrest fun u n h => hne u n (by simp [h])
        have hn : n ≠ 0 := hne v n (by simp)
        exact ⟨(v, n) :: full, by simp [hfull], by simpa [hn] using hfilter⟩

theorem isChain_fitsInto_iff (h : (full.map Prod.fst).Nodup) :
    full.IsChain FitsInto ↔
      ∀ u n, (u, n) ∈ full → ∀ v, [v, u] <:+: full.map Prod.fst → n * u.millis < v.millis := by
  rw [List.isChain_iff_forall_rel_of_append_cons_cons]
  constructor
  · intro hchain u n hmem v hinfix
    obtain ⟨front, back, hsplit⟩ := hinfix
    rw [List.append_assoc, eq_comm, List.map_eq_append_iff] at hsplit
    obtain ⟨before, rest, rfl, -, hrest⟩ := hsplit
    obtain ⟨p, tail, rfl, rfl, htail⟩ := List.map_eq_cons_iff.mp hrest
    obtain ⟨q, after, rfl, rfl, -⟩ := List.map_eq_cons_iff.mp htail
    -- No unit occurs twice, so `n` is the amount that stands there.
    have hq : (q.1, n) = q := List.inj_on_of_nodup_map h hmem (by simp) rfl
    have hfits : FitsInto p q := hchain rfl
    rwa [← hq] at hfits
  · rintro hlt p q before after rfl
    exact hlt q.1 q.2 (by simp) p.1 ⟨before.map Prod.fst, after.map Prod.fst, by simp⟩

/-! ## Reduced amounts -/

namespace UnitScale

/-- The amounts of greedy division are reduced once its zeros are left out. -/
theorem isReduced_divideOver (scale : UnitScale) (n : Nat) :
    scale.IsReduced ((divideOver scale.units n).1.filter fun (_, n) => n ≠ 0) := by
  have hunits := map_fst_divideOver scale.units n
  have hnodup : ((RelativeDate.divideOver scale.units n).1.map Prod.fst).Nodup := by
    rw [hunits]
    exact scale.nodup_units
  have hchain := (isChain_fitsInto_iff hnodup).mp (isChain_divideOver scale.units n)
  have hsublist := (List.filter_sublist (l := (RelativeDate.divideOver scale.units n).1)
    (p := fun (_, n) => n ≠ 0)).map Prod.fst
  rw [hunits] at hchain hsublist
  refine ⟨hsublist, ?_, ?_⟩
  · intro u n hmem
    simpa using (List.mem_filter.mp hmem).2
  · intro u n hmem
    exact hchain u n (List.mem_filter.mp hmem).1

/-- Greedy division finds reduced amounts again, up to zeros, and leaves no rest. -/
theorem IsReduced.divideOver (h : scale.IsReduced amounts) :
    ((RelativeDate.divideOver scale.units (amountsMillis amounts)).1.filter
        fun (_, n) => n ≠ 0) = amounts ∧
      (RelativeDate.divideOver scale.units (amountsMillis amounts)).2 = 0 := by
  obtain ⟨full, hunits, rfl⟩ := exists_filter_eq h.order h.ne_zero
  have hnodup : (full.map Prod.fst).Nodup := hunits ▸ scale.nodup_units
  have hchain : full.IsChain FitsInto := by
    rw [isChain_fitsInto_iff hnodup, hunits]
    intro u n hmem v hinfix
    by_cases hn : n = 0
    · rw [hn, Nat.zero_mul]
      exact v.millis_pos
    · exact h.lt_previous u n (List.mem_filter.mpr ⟨hmem, by simpa using hn⟩) v hinfix
  have hfull := divideOver_amountsMillis hchain (hunits ▸ scale.decreasing)
  rw [amountsMillis_filter, ← hunits, hfull]
  exact ⟨rfl, rfl⟩

/-! ## Steps for reduced amounts -/

theorem IsReduced.stepsFor_eq_map (h : scale.IsReduced amounts) (dir : Direction) :
    stepsFor dir amounts = amounts.map fun (u, n) => .move dir (.fixed u) n := by
  have hfilter : (amounts.filter fun (_, n) => n ≠ 0) = amounts :=
    List.filter_eq_self.mpr fun (u, n) hmem => by simpa using h.ne_zero u n hmem
  rw [stepsFor, hfilter]

theorem IsReduced.amountsMillis_pos (h : scale.IsReduced amounts) (hne : amounts ≠ []) :
    0 < amountsMillis amounts := by
  obtain ⟨⟨u, n⟩, rest, rfl⟩ := List.exists_cons_of_ne_nil hne
  have hmem : (u, n) ∈ (u, n) :: rest := List.mem_cons_self
  exact Nat.lt_of_lt_of_le (Nat.pos_of_ne_zero (h.ne_zero u n hmem)) (le_amountsMillis hmem)

/-- If steps for reduced amounts lead to a target, they are the steps that are found for it. -/
theorem IsReduced.stepsTo_eq {dir : Direction} {anchor target : Instant}
    (h : scale.IsReduced amounts) (hanchor : anchor.IsWholeMilli)
    (hrun : Operation.runAll? (stepsFor dir amounts) anchor = some target) :
    stepsTo scale anchor target = .ok (stepsFor dir amounts) := by
  have hmicros := runAll?_stepsFor_eq_some_iff.mp hrun
  have htarget := Operation.isWholeMilli_of_runAll? hanchor hrun
  have hsince := Instant.micros_eq_add_since hanchor htarget
  have hmillis : (target.since anchor).millis = dir.sign * amountsMillis amounts := by
    rw [hmicros, Int.natCast_mul, Int.mul_left_comm] at hsince
    exact Int.eq_of_mul_eq_mul_left (by decide) (Int.add_left_cancel hsince).symm
  have habs : (target.since anchor).millis.natAbs = amountsMillis amounts := by
    rw [hmillis]
    cases dir <;> simp
  obtain ⟨hfilter, hrest⟩ := h.divideOver
  have hseconds : (FixedUnit.second.millis : Int) ∣ (target.since anchor).millis := by
    rw [Int.natCast_dvd, habs]
    exact second_dvd_amountsMillis amounts
  rw [← habs] at hfilter hrest
  refine stepsTo_eq_ok_iff.mpr ⟨Int.emod_eq_zero_of_dvd hseconds, hrest, ?_⟩
  rw [← stepsFor_filter, hfilter]
  -- The direction is found again from the sign of the difference, if there is any step at all.
  by_cases hne : amounts = []
  · rw [hne, stepsFor_nil, stepsFor_nil]
  · have hpos := h.amountsMillis_pos hne
    rw [hmillis]
    cases dir with
    | forward => rw [if_pos (by simpa using hpos)]
    | backward => rw [if_neg (by simp)]

end UnitScale

end RelativeDate
