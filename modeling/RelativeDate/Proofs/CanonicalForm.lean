import RelativeDate.Proofs.Failure
import RelativeDate.Proofs.RoundTrip
import RelativeDate.Proofs.UnitScale.Reduced

/-! # The form of written differences

Differences are written in one form. All tokens have the same sign, their units are in the order
of the scale, and their amounts are reduced and do not start with a zero. Whatever is written has
this form, and an expression of this form is what is written for its value. -/

namespace RelativeDate

open Token Operation

variable {scale : UnitScale} {dir : Direction} {amounts : List (FixedUnit × Nat)}
variable {anchor target : Instant} {expression : String} {ops : List Operation}

/-! ## Steps and their tokens -/

theorem isMove_of_mem_stepsFor {op : Operation} (h : op ∈ stepsFor dir amounts) : op.IsMove := by
  obtain ⟨u, n, -, -, rfl⟩ := mem_stepsFor.mp h
  trivial

theorem writes_stepsFor (dir : Direction) (amounts : List (FixedUnit × Nat)) :
    List.Forall₂ Writes ((stepsFor dir amounts).map chars) (stepsFor dir amounts) := by
  rw [List.forall₂_map_left_iff, List.forall₂_same]
  intro op hop
  obtain ⟨u, n, -, -, rfl⟩ := mem_stepsFor.mp hop
  exact writes_chars_move dir (.fixed u) n

/-- The value of steps is the place they lead to. An amount that is too long leads nowhere. -/
theorem runAll?_stepsFor_of_outcome
    (h : (evaluate (expressionText (stepsFor dir amounts)) anchor).outcome = .ok target) :
    runAll? (stepsFor dir amounts) anchor = some target := by
  have hwrites := writes_stepsFor dir amounts
  have hseq := isSequence_of_writes hwrites fun op hop =>
    isMove_of_mem_stepsFor (List.dropLast_subset _ hop)
  rw [expressionText_eq, outcome_evaluate_of_isSequence hseq String.toList_ofList,
    elim_eq_ok_iff] at h
  exact ((follow?_eq_some_iff hwrites).mp h).2

/-! ## Canonical expressions -/

/-- The tokens of an expression write reduced amounts in one direction, and none of them has a
    zero at the front of its amount. There may be no tokens at all. -/
def IsCanonical (scale : UnitScale) (expression : String) : Prop :=
  ∃ rest ts dir amounts, expression = "now" ++ rest ∧ rest.toList = ts.flatten ∧
    scale.IsReduced amounts ∧
    List.Forall₂ Writes ts (amounts.map fun (u, n) => .move dir (.fixed u) n) ∧
    ∀ t ∈ ts, t.amountDigits.head? ≠ some '0'

/-- The canonical expressions are those that steps for reduced amounts are written as. -/
theorem isCanonical_iff :
    IsCanonical scale expression ↔
      ∃ dir amounts, scale.IsReduced amounts ∧
        expressionText (stepsFor dir amounts) = expression := by
  constructor
  · rintro ⟨rest, ts, dir, amounts, rfl, hflat, hreduced, hwrites, hzero⟩
    rw [← hreduced.stepsFor_eq_map dir] at hwrites
    obtain rfl := eq_map_chars hwrites (fun op hop => isMove_of_mem_stepsFor hop) hzero
    exact ⟨dir, amounts, hreduced, by rw [expressionText_eq, ← hflat, String.ofList_toList]⟩
  · rintro ⟨dir, amounts, hreduced, rfl⟩
    refine ⟨_, (stepsFor dir amounts).map chars, dir, amounts, expressionText_eq _,
      String.toList_ofList, hreduced, ?_, ?_⟩
    · rw [← hreduced.stepsFor_eq_map dir]
      exact writes_stepsFor dir amounts
    · rw [List.forall_mem_map]
      intro op hop
      obtain ⟨u, n, -, hn, rfl⟩ := mem_stepsFor.mp hop
      rw [chars_move, amountDigits_step]
      exact Text.head?_toDigits_ne_zero hn

theorem isCanonical_of_stepsTo (h : stepsTo scale anchor target = .ok ops) :
    IsCanonical scale (expressionText ops) := by
  obtain ⟨-, -, rfl⟩ := stepsTo_eq_ok_iff.mp h
  exact isCanonical_iff.mpr ⟨_, _, scale.isReduced_divideOver _, by rw [stepsFor_filter]⟩

/-- The steps to the value of a canonical expression are the ones it is written from. -/
theorem IsCanonical.exists_stepsTo (h : IsCanonical scale expression)
    (hanchor : anchor.IsWholeMilli) (hvalue : (evaluate expression anchor).outcome = .ok target) :
    ∃ ops, stepsTo scale anchor target = .ok ops ∧ expressionText ops = expression := by
  obtain ⟨dir, amounts, hreduced, rfl⟩ := isCanonical_iff.mp h
  have hrun := runAll?_stepsFor_of_outcome hvalue
  exact ⟨_, hreduced.stepsTo_eq hanchor hrun, rfl⟩

namespace Evaluator

/-- Relative to one anchor, everything that is written is canonical, and a canonical expression
    is what is written for its value, if it has one. Values that the same expression is written
    for denote the same instant. -/
theorem express_canonical {c c' : Evaluator} {n m : Nat} {a : Instant}
    (hn : (c.anchor.run n).1 = .ok a) (hm : (c'.anchor.run m).1 = .ok a) :
    (∀ v e, ((c.express v).run n).1 = .ok e → IsCanonical c.config.scale e) ∧
    (∀ e r, IsCanonical c.config.scale e → ((c'.evaluate (.text e)).run m).1.outcome = .ok r →
      ((c.express (.dateTime r)).run n).1 = .ok e) ∧
    ∀ v v' e, ((c.express v).run n).1 = .ok e → ((c'.express v').run m).1 = .ok e →
      v.normalize = v'.normalize := by
  have hwhole := isWholeMilli_of_anchor hn
  refine ⟨?_, ?_, ?_⟩
  · intro v e he
    obtain ⟨t, anchor, ops, -, -, hsteps, rfl⟩ := express_eq_ok_iff.mp he
    exact isCanonical_of_stepsTo hsteps
  · intro e r he hr
    obtain ⟨t, ht, rfl⟩ := (outcome_evaluate_text_eq_ok_iff hm).mp hr
    obtain ⟨ops, hsteps, hops⟩ := he.exists_stepsTo hwhole ht
    obtain ⟨rest, ts, -, -, -, hfollow⟩ := outcome_evaluate_eq_ok_iff.mp ht
    have hnormal := c'.normalize?_present (isWholeMilli_of_follow? hwhole hfollow)
    exact express_dateTime_eq_ok_iff.mpr ⟨t, a, ops, hnormal, hn, hsteps, hops⟩
  · intro v v' e he he'
    obtain ⟨t, anchor, ops, ht, hanchor, hsteps, rfl⟩ := express_eq_ok_iff.mp he
    obtain ⟨t', anchor', ops', ht', hanchor', hsteps', htext⟩ := express_eq_ok_iff.mp he'
    obtain rfl : a = anchor := Except.ok.inj (hn.symm.trans hanchor)
    obtain rfl : a = anchor' := Except.ok.inj (hm.symm.trans hanchor')
    -- The one expression has one value, and both instants are this value.
    have hvalue := outcome_evaluate_stepsTo hwhole (Value.isWholeMilli_of_normalize ht) hsteps
    have hvalue' := outcome_evaluate_stepsTo hwhole (Value.isWholeMilli_of_normalize ht') hsteps'
    rw [htext, hvalue, Except.ok.injEq] at hvalue'
    rw [ht, ht', hvalue']

/-- With hours and seconds for a scale and relative to 1 May 2020, thirty hours and 75 seconds
    back are written as one expression. It is canonical, and what is written for its value. -/
theorem express_canonical_hours_seconds :
    let a : Instant := ⟨737545 * microsPerDay, by decide⟩
    let t : Instant := ⟨737543 * microsPerDay + 17 * microsPerHour + 3525 * microsPerSecond,
      by decide⟩
    let scale : UnitScale := ⟨[.hour, .second], by decide, by decide⟩
    let c : Evaluator := ⟨⟨none, true, scale⟩, .still (.dateTime (.bare a))⟩
    ((c.evaluate (.text "now-30h-75s")).run 0).1.outcome = .ok (.utc t) ∧
      IsCanonical scale "now-30h-75s" ∧
      ((c.express (.dateTime (.utc t))).run 0).1 = .ok "now-30h-75s" := by
  intro a t scale c
  have ha : (c.anchor.run 0).1 = .ok a :=
    (anchor_of_clock rfl).trans
      (Value.normalize_dateTime_eq_ok_iff.mpr (DateTime.normalize?_bare (by decide)))
  let ops : List Operation :=
    [.move .backward (.fixed .hour) 30, .move .backward (.fixed .second) 75]
  have hops : ∀ op ∈ ops, op.Writable := by
    simpa [ops] using ⟨writable_move (n := 30) (by decide) .backward (.fixed .hour),
      writable_move (n := 75) (by decide) .backward (.fixed .second)⟩
  have hvalue : ((c.evaluate (.text "now-30h-75s")).run 0).1.outcome = .ok (.utc t) :=
    @outcome_evaluate_expressionText c 0 a ops t ha hops (by simp [ops, IsMove]) (by decide)
  have hreduced : scale.IsReduced [(.hour, 30), (.second, 75)] := by
    refine ⟨by decide, ?_, ?_⟩
    · rintro u n hmem rfl
      simp at hmem
    · intro u n hmem v hinfix
      -- Only the second has a unit before it.
      obtain ⟨rfl, rfl⟩ : v = .hour ∧ u = .second := by
        simpa [scale] using hinfix.eq_of_length rfl
      obtain rfl : n = 75 := by simpa using hmem
      decide
  have hcanonical : IsCanonical scale "now-30h-75s" :=
    isCanonical_iff.mpr ⟨.backward, _, hreduced, by decide⟩
  exact ⟨hvalue, hcanonical, (express_canonical ha ha).2.1 _ _ hcanonical hvalue⟩

end Evaluator

end RelativeDate
