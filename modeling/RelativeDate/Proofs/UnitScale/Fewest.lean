import RelativeDate.Proofs.RoundTrip
import RelativeDate.Proofs.Token.Printing
import RelativeDate.Proofs.UnitScale.Reduced

/-! # Fewest units

A number of milliseconds can be made up of the units of a scale in many ways. Greedy division takes
fewer units than any other way. Every unit of a scale goes at least twice into the one before it,
so shorter units that come to a longer one can always be traded for fewer. -/

namespace RelativeDate

variable {scale : UnitScale} {units : List FixedUnit}

/-- How many units the amounts are, all taken together. -/
def unitCount (amounts : List (FixedUnit × Nat)) : Nat :=
  (amounts.map Prod.snd).sum

/-- There is one amount for each unit of the scale, and together they come to `n` milliseconds. -/
structure UnitScale.MakesUp (scale : UnitScale) (n : Nat) (amounts : List (FixedUnit × Nat)) :
    Prop where
  map_fst : amounts.map Prod.fst = scale.units
  millis : amountsMillis amounts = n

@[simp] theorem unitCount_nil : unitCount [] = 0 := rfl

@[simp] theorem unitCount_cons (u : FixedUnit) (n : Nat) (amounts : List (FixedUnit × Nat)) :
    unitCount ((u, n) :: amounts) = n + unitCount amounts := rfl

/-! ## Trading units -/

theorem FixedUnit.exists_millis_eq_mul {u v : FixedUnit} (h : v.millis < u.millis) :
    ∃ q, 2 ≤ q ∧ u.millis = q * v.millis := by
  obtain ⟨q, hq⟩ := FixedUnit.millis_dvd_of_lt h
  rw [hq, Nat.mul_comm] at h
  exact ⟨q, Nat.lt_of_mul_lt_mul_right (by simpa using h), hq.trans (Nat.mul_comm _ _)⟩

@[simp] theorem divideOver_fst_cons (u : FixedUnit) (units : List FixedUnit) (n : Nat) :
    (divideOver (u :: units) n).1 =
      (u, n / u.millis) :: (divideOver units (n % u.millis)).1 := rfl

/-- A longer unit takes the place of at least two shorter ones, as often as it fits. -/
theorem div_add_unitCount_lt {u : FixedUnit} {n : Nat} (hne : units ≠ [])
    (h : ∀ v ∈ units, v.millis < u.millis) (hfits : u.millis ≤ n) :
    n / u.millis + unitCount (divideOver units (n % u.millis)).1 <
      unitCount (divideOver units n).1 := by
  obtain ⟨v, units, rfl⟩ := List.exists_cons_of_ne_nil hne
  obtain ⟨q, hq, hmillis⟩ := FixedUnit.exists_millis_eq_mul (h v (by simp))
  have hpos : 0 < n / u.millis := Nat.div_pos hfits u.millis_pos
  -- Without `u` only the amount of `v`, the longest of the shorter units, becomes another.
  have hmod : n % u.millis % v.millis = n % v.millis :=
    Nat.mod_mod_of_dvd n (FixedUnit.millis_dvd_of_lt (h v (by simp)))
  have hdiv : n / v.millis = n % u.millis / v.millis + n / u.millis * q := by
    have hsplit : n % u.millis + n / u.millis * q * v.millis = n := by
      rw [Nat.mul_assoc, ← hmillis]
      exact Nat.mod_add_div' n u.millis
    rw [← Nat.add_mul_div_right _ _ v.millis_pos, hsplit]
  have htrade : n / u.millis * 2 ≤ n / u.millis * q := Nat.mul_le_mul_left _ hq
  rw [divideOver_fst_cons, divideOver_fst_cons, unitCount_cons, unitCount_cons, hmod, hdiv]
  omega

/-- Amounts are more units than greedy division takes, unless they are what it takes. -/
theorem eq_or_unitCount_lt {amounts : List (FixedUnit × Nat)}
    (h : (amounts.map Prod.fst).Pairwise fun u v => v.millis < u.millis) :
    amounts = (divideOver (amounts.map Prod.fst) (amountsMillis amounts)).1 ∨
      unitCount (divideOver (amounts.map Prod.fst) (amountsMillis amounts)).1 <
        unitCount amounts := by
  induction amounts with
  | nil => exact .inl rfl
  | cons first rest ih =>
    obtain ⟨u, n⟩ := first
    rw [List.map_cons, List.pairwise_cons] at h
    have hlonger : ∀ v ∈ rest.map Prod.fst, v.millis < u.millis := h.1
    have hrest := ih h.2
    have hdiv : (n * u.millis + amountsMillis rest) / u.millis =
        n + amountsMillis rest / u.millis := by
      rw [Nat.add_comm, Nat.add_mul_div_right _ _ u.millis_pos, Nat.add_comm]
    have hmod : (n * u.millis + amountsMillis rest) % u.millis = amountsMillis rest % u.millis :=
      Nat.mul_add_mod_self_right _ _ _
    rw [List.map_cons, amountsMillis_cons, divideOver_fst_cons, hdiv, hmod]
    by_cases hfits : u.millis ≤ amountsMillis rest
    · -- Greedy division trades what is in `rest` for more of `u`.
      have hne : rest.map Prod.fst ≠ [] := by
        rintro hnil
        obtain rfl := List.map_eq_nil_iff.mp hnil
        exact absurd hfits (Nat.not_le.mpr u.millis_pos)
      have htrade := div_add_unitCount_lt hne hlonger hfits
      refine .inr ?_
      rw [unitCount_cons, unitCount_cons]
      rcases hrest with heq | hlt
      · rw [← heq] at htrade
        omega
      · omega
    · rw [Nat.not_le] at hfits
      rw [Nat.div_eq_of_lt hfits, Nat.mod_eq_of_lt hfits, Nat.add_zero]
      rcases hrest with heq | hlt
      · exact .inl (congrArg ((u, n) :: ·) heq)
      · exact .inr (Nat.add_lt_add_left hlt n)

namespace UnitScale

theorem MakesUp.eq_or_lt {n : Nat} {amounts : List (FixedUnit × Nat)}
    (h : scale.MakesUp n amounts) :
    amounts = (divideOver scale.units n).1 ∨
      unitCount (divideOver scale.units n).1 < unitCount amounts := by
  have hcount := eq_or_unitCount_lt (h.map_fst ▸ scale.decreasing)
  rwa [h.map_fst, h.millis] at hcount

theorem makesUp_divideOver {n : Nat} (h : (divideOver scale.units n).2 = 0) :
    scale.MakesUp n (divideOver scale.units n).1 := by
  have hsum := amountsMillis_divideOver scale.units n
  rw [h, Nat.add_zero] at hsum
  exact ⟨map_fst_divideOver scale.units n, hsum⟩

end UnitScale

/-! ## Written steps -/

/-- The operations of an expression are read from what it has behind the word `now`. -/
theorem exists_operationsOf_expressionText {ops : List Operation} (hne : ops ≠ [])
    (hops : ∀ op ∈ ops, op.Writable ∧ op.IsMove) :
    ∃ suffix, expressionText ops = "now" ++ suffix ∧ operationsOf suffix = .ok ops := by
  refine ⟨String.join (ops.map Operation.text), ?_, ?_⟩
  · rw [expressionText_eq, ← toList_join_text, String.ofList_toList]
  · exact operationsOf_join_text hne (fun op hop => (hops op hop).1)
      (fun op hop => (hops op (List.dropLast_subset ops hop)).2) _

theorem ne_nil_of_stepsTo {anchor target : Instant} {ops : List Operation}
    (h : stepsTo scale anchor target = .ok ops) (hne : (target.since anchor).millis ≠ 0) :
    ops ≠ [] := by
  rintro rfl
  obtain ⟨dir, amounts, hsteps, hmillis⟩ := exists_of_stepsTo h
  have hnone := List.map_eq_nil_iff.mp hsteps.symm
  rw [← amountsMillis_filter, hnone] at hmillis
  exact hne (hmillis.trans (Int.mul_zero _))

namespace Evaluator

/-- The expression for an instant takes fewer units than any other amounts of the units of the scale
    that come to the same difference. What it does not mention counts as zero. -/
theorem express_fewest_units {c : Evaluator} {n : Nat} {v : Value} {t a : Instant} {e : String}
    (ht : v.normalize = .ok t) (ha : (c.anchor.run n).1 = .ok a)
    (hne : (t.since a).millis ≠ 0) (he : ((c.express v).run n).1 = .ok e) :
    ∃ suffix dir amounts, e = "now" ++ suffix ∧
      operationsOf suffix = .ok (stepsFor dir amounts) ∧
      c.config.scale.MakesUp (t.since a).millis.natAbs amounts ∧
      ∀ other, c.config.scale.MakesUp (t.since a).millis.natAbs other → other ≠ amounts →
        unitCount amounts < unitCount other := by
  obtain ⟨target, anchor, ops, htarget, hanchor, hsteps, rfl⟩ := express_eq_ok_iff.mp he
  obtain rfl : t = target := Except.ok.inj (ht.symm.trans htarget)
  obtain rfl : a = anchor := Except.ok.inj (ha.symm.trans hanchor)
  obtain ⟨suffix, htext, hread⟩ := exists_operationsOf_expressionText
    (ne_nil_of_stepsTo hsteps hne) (writable_isMove_of_stepsTo hsteps)
  obtain ⟨-, hrest, rfl⟩ := stepsTo_eq_ok_iff.mp hsteps
  refine ⟨suffix, _, _, htext, hread, UnitScale.makesUp_divideOver hrest, ?_⟩
  intro other hother hdiffers
  exact hother.eq_or_lt.resolve_left hdiffers

/-- With weeks and days for a scale and relative to 1 May 2020, thirteen days back are a week and six
    days. All other weeks and days that come to thirteen days are more than seven. -/
theorem express_fewest_units_thirteen_days :
    let a : Instant := ⟨737545 * microsPerDay, by decide⟩
    let t : Instant := ⟨737532 * microsPerDay, by decide⟩
    let scale : UnitScale := ⟨[.week, .day], by decide, by decide⟩
    let c : Evaluator := ⟨⟨none, true, scale⟩, .still (.dateTime (.bare a))⟩
    ((c.express (.dateTime (.utc t))).run 0).1 = .ok "now-1w-6d" ∧
      ∀ other, scale.MakesUp (13 * FixedUnit.day.millis) other →
        other ≠ [(.week, 1), (.day, 6)] → 7 < unitCount other := by
  intro a t scale c
  have ha : (c.anchor.run 0).1 = .ok a :=
    (anchor_of_clock rfl).trans
      (Value.normalize_dateTime_eq_ok_iff.mpr (DateTime.normalize?_bare (by decide)))
  have ht : (Value.dateTime (.utc t)).normalize = .ok t :=
    Value.normalize_dateTime_eq_ok_iff.mpr (DateTime.normalize?_utc (by decide))
  have hsteps : stepsTo scale a t =
      .ok [.move .backward (.fixed .week) 1, .move .backward (.fixed .day) 6] :=
    stepsTo_eq_ok_iff.mpr (by decide)
  have hexpress : ((c.express (.dateTime (.utc t))).run 0).1 = .ok "now-1w-6d" :=
    express_eq_ok_iff.mpr ⟨t, a, _, ht, ha, hsteps, by decide⟩
  obtain ⟨suffix, dir, amounts, -, -, hamounts, hfewest⟩ :=
    express_fewest_units ht ha (by decide) hexpress
  have hmillis : (t.since a).millis.natAbs = 13 * FixedUnit.day.millis := by decide
  rw [hmillis] at hamounts hfewest
  have hseven : scale.MakesUp (13 * FixedUnit.day.millis) [(.week, 1), (.day, 6)] :=
    ⟨rfl, by decide⟩
  -- The amounts of the expression are at most seven units, and two weeks are too long.
  obtain rfl : amounts = [(.week, 1), (.day, 6)] := by
    by_contra hother
    have hless := hfewest _ hseven (Ne.symm hother)
    have hsum := hamounts.millis
    obtain ⟨⟨u, weeks⟩, rest, rfl, rfl, hrest⟩ := List.map_eq_cons_iff.mp hamounts.map_fst
    obtain ⟨⟨v, days⟩, tail, rfl, rfl, htail⟩ := List.map_eq_cons_iff.mp hrest
    obtain rfl := List.map_eq_nil_iff.mp htail
    simp only [amountsMillis_cons, amountsMillis_nil, FixedUnit.millis] at hsum
    simp only [unitCount_cons, unitCount_nil] at hless
    omega
  exact ⟨hexpress, hfewest⟩

end Evaluator

end RelativeDate
