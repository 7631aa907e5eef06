import RelativeDate.Proofs.Evaluator
import RelativeDate.Proofs.UnitScale

/-! # Sums of steps

Steps of fixed length add up to milliseconds, and only the sum counts for where they lead. Whether
they lead anywhere also depends on the way: all sums on it have to stay in the calendar. Expressions
whose steps have the same sum thus have the same value, as long as both have one. -/

namespace RelativeDate

open Operation

/-- A step by an amount of a unit of fixed length. -/
structure FixedStep where
  dir : Direction
  unit : FixedUnit
  amount : Nat
  deriving DecidableEq, Repr

namespace FixedStep

variable {steps : List FixedStep} {t s : Instant}

def operation (step : FixedStep) : Operation :=
  .move step.dir (.fixed step.unit) step.amount

/-- The milliseconds of a step. A step back has a negative number of them. -/
def millis (step : FixedStep) : Int :=
  step.dir.sign * (step.amount * step.unit.millis)

/-- The milliseconds that steps come to. -/
def total (steps : List FixedStep) : Int :=
  (steps.map millis).sum

@[simp] theorem total_nil : total [] = 0 := rfl

@[simp] theorem total_cons (step : FixedStep) (steps : List FixedStep) :
    total (step :: steps) = step.millis + total steps :=
  List.sum_cons

theorem isMove_of_mem_map {op : Operation} (h : op ∈ steps.map operation) : op.IsMove := by
  obtain ⟨step, -, rfl⟩ := List.mem_map.mp h
  trivial

/-- Amounts below the length of the calendar are short enough to be written. -/
theorem spells_of_amounts {expression : String}
    (hamounts : ∀ step ∈ steps, step.amount < Calendar.dayLimit * microsPerDay)
    (h : expression = expressionText (steps.map operation)) :
    Spells expression (steps.map operation) := by
  subst h
  refine spells_expressionText (List.forall_mem_map.mpr fun step hstep => ?_)
  exact writable_move (hamounts step hstep) step.dir (.fixed step.unit)

/-! ## Runs of steps -/

theorem run?_operation_eq_some_iff {step : FixedStep} :
    step.operation.run? t = some s ↔ (s.micros : Int) = t.micros + 1000 * step.millis := by
  rw [operation, run?_fixed_eq_some_iff, millis, FixedUnit.micros]
  push_cast
  rw [Int.mul_left_comm step.amount, Int.mul_left_comm step.dir.sign]

/-- The sums on a way lie in the calendar if the first step ends there, and the sums on the rest of
    the way do when they are counted from that end. -/
theorem exists_prefix_cons_iff {step : FixedStep} :
    (∀ before, before <+: step :: steps →
        ∃ r : Instant, (r.micros : Int) = t.micros + 1000 * total before) ↔
      ∃ q : Instant, (q.micros : Int) = t.micros + 1000 * step.millis ∧
        ∀ before, before <+: steps →
          ∃ r : Instant, (r.micros : Int) = q.micros + 1000 * total before := by
  constructor
  · intro h
    obtain ⟨q, hq⟩ := h [step] (List.prefix_append [step] steps)
    rw [total_cons, total_nil, Int.add_zero] at hq
    refine ⟨q, hq, fun before hbefore => ?_⟩
    obtain ⟨r, hr⟩ := h (step :: before) (List.cons_prefix_cons.mpr ⟨rfl, hbefore⟩)
    exact ⟨r, by rw [hr, hq, total_cons, Int.mul_add, Int.add_assoc]⟩
  · rintro ⟨q, hq, h⟩ before hbefore
    rcases List.prefix_cons_iff.mp hbefore with rfl | ⟨rest, rfl, hrest⟩
    · exact ⟨t, by simp⟩
    · obtain ⟨r, hr⟩ := h rest hrest
      exact ⟨r, by rw [hr, hq, total_cons, Int.mul_add, Int.add_assoc]⟩

/-- Steps lead to the sum of them, if all sums on the way lie in the calendar. -/
theorem runAll?_operation_eq_some_iff :
    runAll? (steps.map operation) t = some s ↔
      (∀ before, before <+: steps →
        ∃ r : Instant, (r.micros : Int) = t.micros + 1000 * total before) ∧
      (s.micros : Int) = t.micros + 1000 * total steps := by
  induction steps generalizing t with
  | nil =>
    rw [List.map_nil, runAll?_nil, Option.some_inj, Instant.ext_iff]
    simp [eq_comm]
  | cons step steps ih =>
    rw [List.map_cons, runAll?_cons, Option.bind_eq_some_iff, exists_prefix_cons_iff]
    simp only [run?_operation_eq_some_iff, ih]
    constructor
    · rintro ⟨q, hq, hway, hend⟩
      exact ⟨⟨q, hq, hway⟩, by rw [hend, hq, total_cons, Int.mul_add, Int.add_assoc]⟩
    · rintro ⟨⟨q, hq, hway⟩, hend⟩
      exact ⟨q, hq, hway, by rw [hend, hq, total_cons, Int.mul_add, Int.add_assoc]⟩

theorem exists_runAll?_operation_iff :
    (∃ s, runAll? (steps.map operation) t = some s) ↔
      ∀ before, before <+: steps →
        ∃ r : Instant, (r.micros : Int) = t.micros + 1000 * total before := by
  simp only [runAll?_operation_eq_some_iff, exists_and_left]
  exact and_iff_left_of_imp fun h => h steps List.prefix_rfl

end FixedStep

/-! ## Expressions -/

namespace Evaluator

open FixedStep

/-- The answer for an expression of steps of fixed length is the instant that they lead to. -/
theorem outcome_evaluate_fixed_eq_ok_iff {c : Evaluator} {n : Nat} {a : Instant} {d : DateTime}
    {expression : String} {steps : List FixedStep} (ha : (c.anchor.run n).1 = .ok a)
    (h : Spells expression (steps.map operation)) :
    ((c.evaluate (.text expression)).run n).1.outcome = .ok d ↔
      ∃ t, runAll? (steps.map operation) a = some t ∧ c.present t = d := by
  have hmoves : ∀ op ∈ (steps.map operation).dropLast, op.IsMove :=
    fun op hop => isMove_of_mem_map (List.dropLast_subset _ hop)
  simp only [outcome_evaluate_text_eq_ok_iff ha, outcome_evaluate_of_spells h hmoves,
    elim_eq_ok_iff]

/-- An expression of steps of fixed length has a value exactly when all sums of its first steps,
    counted from the anchor, lie in the calendar. The value is the anchor and the sum of all steps.
    So two of these expressions have the same value if their sums are the same and both of them
    have one. -/
theorem evaluate_fixed_steps {c : Evaluator} {n : Nat} {a : Instant} {expression : String}
    {steps : List FixedStep} (ha : (c.anchor.run n).1 = .ok a)
    (h : Spells expression (steps.map operation)) :
    let outcome (expression : String) := ((c.evaluate (.text expression)).run n).1.outcome
    ((∃ d, outcome expression = .ok d) ↔ ∀ before, before <+: steps →
      ∃ t : Instant, (t.micros : Int) = a.micros + 1000 * total before) ∧
    (∀ d, outcome expression = .ok d →
      ∃ t : Instant, (t.micros : Int) = a.micros + 1000 * total steps ∧ c.present t = d) ∧
    ∀ other others, Spells other (others.map operation) → total others = total steps →
      ∀ d d', outcome expression = .ok d → outcome other = .ok d' → d = d' := by
  intro outcome
  have hvalue : ∀ expression steps, Spells expression (steps.map operation) → ∀ d,
      outcome expression = .ok d →
        ∃ t : Instant, (t.micros : Int) = a.micros + 1000 * total steps ∧ c.present t = d := by
    intro expression steps h d hd
    obtain ⟨t, ht, hpresent⟩ := (outcome_evaluate_fixed_eq_ok_iff ha h).mp hd
    exact ⟨t, (runAll?_operation_eq_some_iff.mp ht).2, hpresent⟩
  refine ⟨?_, hvalue expression steps h, ?_⟩
  · rw [← exists_runAll?_operation_iff]
    constructor
    · rintro ⟨d, hd⟩
      obtain ⟨t, ht, -⟩ := (outcome_evaluate_fixed_eq_ok_iff ha h).mp hd
      exact ⟨t, ht⟩
    · rintro ⟨t, ht⟩
      exact ⟨_, (outcome_evaluate_fixed_eq_ok_iff ha h).mpr ⟨t, ht, rfl⟩⟩
  · intro other others hother htotal d d' hd hd'
    obtain ⟨t, ht, rfl⟩ := hvalue expression steps h d hd
    obtain ⟨t', ht', rfl⟩ := hvalue other others hother d' hd'
    rw [htotal, ← ht, Int.natCast_inj] at ht'
    rw [Instant.ext ht']

/-- Relative to the noon of the first day of year 1, a day back and a day forward lead nowhere,
    although they come to nothing. A day forward and 24 hours back lead to the anchor, and so do
    seven days forward and a week back. -/
theorem evaluate_fixed_steps_year_one :
    let a : Instant := ⟨12 * microsPerHour, by decide⟩
    let c := Evaluator.shared (.still (.dateTime (.bare a)))
    let outcome (expression : String) := ((c.evaluate (.text expression)).run 0).1.outcome
    (¬ ∃ d, outcome "now-1d+1d" = .ok d) ∧
      outcome "now+1d-24h" = .ok (.utc a) ∧ outcome "now+7d-1w" = .ok (.utc a) := by
  intro a c outcome
  have ha : (c.anchor.run 0).1 = .ok a := anchor_shared_still (by decide)
  let back : List FixedStep := [⟨.backward, .day, 1⟩, ⟨.forward, .day, 1⟩]
  let hours : List FixedStep := [⟨.forward, .day, 1⟩, ⟨.backward, .hour, 24⟩]
  let week : List FixedStep := [⟨.forward, .day, 7⟩, ⟨.backward, .week, 1⟩]
  have hback : Spells "now-1d+1d" (back.map operation) := spells_of_amounts (by decide) (by decide)
  have hhours : Spells "now+1d-24h" (hours.map operation) :=
    spells_of_amounts (by decide) (by decide)
  have hweek : Spells "now+7d-1w" (week.map operation) := spells_of_amounts (by decide) (by decide)
  have hanchor : outcome "now+1d-24h" = .ok (.utc a) :=
    (outcome_evaluate_fixed_eq_ok_iff ha hhours).mpr ⟨a, by decide, rfl⟩
  refine ⟨?_, hanchor, ?_⟩
  · rw [(evaluate_fixed_steps ha hback).1]
    intro hway
    obtain ⟨t, ht⟩ := hway [⟨.backward, .day, 1⟩] (by decide)
    have hnegative : a.micros + 1000 * total [⟨.backward, .day, 1⟩] < 0 := by decide
    omega
  · obtain ⟨d, hd⟩ : ∃ d, outcome "now+7d-1w" = .ok d :=
      ⟨_, (outcome_evaluate_fixed_eq_ok_iff ha hweek).mpr ⟨a, by decide, rfl⟩⟩
    rw [hd, (evaluate_fixed_steps ha hhours).2.2 _ week hweek (by decide) _ d hanchor hd]

end Evaluator

end RelativeDate
