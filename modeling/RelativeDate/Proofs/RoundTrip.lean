import RelativeDate.Proofs.Evaluator
import RelativeDate.Proofs.UnitScale

/-! # Writing and evaluating

An instant that is written as an expression comes back when the expression is evaluated, as long
as the anchor is the same. -/

namespace RelativeDate.Evaluator

variable {c : Evaluator} {n : Nat} {d : DateTime} {e : String}

/-- What is written for a value consists of the steps from the anchor to its instant. -/
theorem express_eq_ok_iff {v : Value} :
    ((c.express v).run n).1 = .ok e ↔
      ∃ t anchor ops, v.normalize = .ok t ∧ (c.anchor.run n).1 = .ok anchor ∧
        stepsTo c.config.scale anchor t = .ok ops ∧ expressionText ops = e := by
  unfold express
  cases hv : v.normalize with
  | error cause => simp
  | ok t =>
    simp only [Except.ok.injEq]
    change c.expressionFor t (c.anchor.run n).1 = .ok e ↔ _
    cases hanchor : (c.anchor.run n).1 with
    | error cause => simp [expressionFor]
    | ok anchor =>
      cases hsteps : stepsTo c.config.scale anchor t with
      | error cause => simp [expressionFor, hsteps, Except.map, Except.mapError]
      | ok ops => simp [expressionFor, hsteps, Except.map, Except.mapError]

theorem express_dateTime_eq_ok_iff :
    ((c.express (.dateTime d)).run n).1 = .ok e ↔
      ∃ t anchor ops, d.normalize? = some t ∧ (c.anchor.run n).1 = .ok anchor ∧
        stepsTo c.config.scale anchor t = .ok ops ∧ expressionText ops = e := by
  simp only [express_eq_ok_iff, Value.normalize_dateTime_eq_ok_iff]

/-- A date and time can be expressed when the shortest unit of the scale goes into its distance from
    the anchor. -/
theorem exists_express_dateTime_iff {a t : Instant} (ha : (c.anchor.run n).1 = .ok a)
    (hd : d.normalize? = some t) :
    (∃ e, ((c.express (.dateTime d)).run n).1 = .ok e) ↔
      (c.config.scale.last.millis : Int) ∣ (t.since a).millis := by
  rw [← exists_stepsTo_iff]
  constructor
  · rintro ⟨e, he⟩
    obtain ⟨target, anchor, ops, htarget, hanchor, hops, -⟩ := express_dateTime_eq_ok_iff.mp he
    obtain rfl : t = target := Option.some.inj (hd.symm.trans htarget)
    obtain rfl : a = anchor := Except.ok.inj (ha.symm.trans hanchor)
    exact ⟨ops, hops⟩
  · rintro ⟨ops, hops⟩
    exact ⟨_, express_dateTime_eq_ok_iff.mpr ⟨t, a, ops, hd, ha, hops, rfl⟩⟩

/-- What is written as an expression is what the expression evaluates to, cut to whole
    milliseconds and in UTC. Its offset is left out if the configuration says so. The two calls
    need not be made on one evaluator, and may read their clocks at different times. -/
theorem evaluate_express {c c' : Evaluator} {n m : Nat} {d : DateTime} {e : String}
    (hconfig : c'.config = c.config) (hanchor : (c'.anchor.run m).1 = (c.anchor.run n).1)
    (h : ((c.express (.dateTime d)).run n).1 = .ok e) :
    ∃ t, d.normalize? = some t ∧
      ((c'.evaluate (.text e)).run m).1.outcome =
        .ok (if c.config.withOffset then .utc t else .bare t) := by
  obtain ⟨t, anchor, ops, ht, hc, hsteps, rfl⟩ := express_dateTime_eq_ok_iff.mp h
  have hwhole := DateTime.isWholeMilli_of_normalize? ht
  refine ⟨t, ht, ?_⟩
  rw [outcome_evaluate_text (hanchor.trans hc),
    outcome_evaluate_stepsTo (isWholeMilli_of_anchor hc) hwhole hsteps, ← hconfig]
  rfl

/-- Relative to the start of 1 May 2020, ten in the evening of 26 April at an offset of two
    hours comes back as eight in the evening of UTC. -/
theorem evaluate_express_april_2020 :
    let c := Evaluator.shared (.still (.dateTime (.bare ⟨737545 * microsPerDay, by decide⟩)))
    let t : Instant := ⟨737540 * microsPerDay + 20 * microsPerHour, by decide⟩
    let d : DateTime :=
      ⟨⟨737540 * microsPerDay + 22 * microsPerHour, by decide⟩, some (2 * microsPerHour)⟩
    ((c.express (.dateTime d)).run 0).1 = .ok "now-4d-4h" ∧
      ((c.evaluate (.text "now-4d-4h")).run 0).1.outcome = .ok (.utc t) := by
  intro c t d
  have ht : d.normalize? = some t := by decide
  have hsteps : stepsTo c.config.scale ⟨737545 * microsPerDay, by decide⟩ t =
      .ok [.move .backward (.fixed .day) 4, .move .backward (.fixed .hour) 4] :=
    stepsTo_eq_ok_iff.mpr (by decide)
  have hexpress : ((c.express (.dateTime d)).run 0).1 = .ok "now-4d-4h" :=
    express_dateTime_eq_ok_iff.mpr
      ⟨t, _, _, ht, anchor_shared_still (by decide), hsteps, by decide⟩
  obtain ⟨s, hs, hanswer⟩ := evaluate_express rfl rfl hexpress
  obtain rfl : t = s := Option.some.inj (ht.symm.trans hs)
  exact ⟨hexpress, hanswer⟩

end RelativeDate.Evaluator
