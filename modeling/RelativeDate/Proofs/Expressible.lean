import RelativeDate.Proofs.Failure
import RelativeDate.Proofs.RoundTrip

/-! # Expressing what was evaluated

The value of an expression can be expressed again, relative to the same anchor, unless a rounding
has cut off a part of a second that the anchor has. For steps of every unit, months and years
included, lead over whole seconds, and no expression is finer than that. -/

namespace RelativeDate

open Token Operation

/-- One of the tokens of an expression is a rounding. -/
def HasRounding (expression : String) : Prop :=
  ∃ rest ts, expression = "now" ++ rest ∧ rest.toList = ts.flatten ∧ IsSequence ts ∧
    ∃ r ∈ ts, IsRounding r

/-- An expression has its tokens in one way only, so any sequence of them tells. -/
theorem hasRounding_iff {rest : String} {ts : List Token} (hts : IsSequence ts)
    (h : rest.toList = ts.flatten) : HasRounding ("now" ++ rest) ↔ ∃ r ∈ ts, IsRounding r := by
  constructor
  · rintro ⟨other, us, hrest, hother, hus, hround⟩
    obtain rfl : rest = other := by simpa using hrest
    rwa [hts.eq_of_flatten_eq hus (h.symm.trans hother)]
  · intro hround
    exact ⟨rest, ts, rfl, h, hts, hround⟩

namespace Evaluator

/-- On a scale with the second, the value `r` of an expression can be expressed relative to the
    same anchor exactly when the expression has no rounding or the anchor is a whole second. The
    new expression has the value `r` again. -/
theorem express_evaluate {c c' : Evaluator} {n m k : Nat} {a : Instant} {e : String} {r : DateTime}
    (hn : (c.anchor.run n).1 = .ok a) (hm : (c'.anchor.run m).1 = .ok a)
    (hk : (c.anchor.run k).1 = .ok a) (hscale : .second ∈ c'.config.scale.units)
    (hr : ((c.evaluate (.text e)).run n).1.outcome = .ok r) :
    ((∃ e', ((c'.express (.dateTime r)).run m).1 = .ok e') ↔
      ¬ HasRounding e ∨ a.subsecond = 0) ∧
    ∀ e', ((c'.express (.dateTime r)).run m).1 = .ok e' →
      ((c.evaluate (.text e')).run k).1.outcome = .ok r := by
  obtain ⟨t, ht, rfl⟩ := (outcome_evaluate_text_eq_ok_iff hn).mp hr
  obtain ⟨rest, ts, rfl, hflat, hts, hfollow⟩ := outcome_evaluate_eq_ok_iff.mp ht
  have hanchor := isWholeMilli_of_anchor hn
  have htarget := isWholeMilli_of_follow? hanchor hfollow
  have hnormal := c.normalize?_present htarget
  refine ⟨?_, ?_⟩
  · rw [exists_express_dateTime_iff hm hnormal, UnitScale.last_eq_second hscale,
      Instant.second_dvd_since_iff hanchor htarget, hasRounding_iff hts hflat]
    rcases hts.subsecond_of_follow? hfollow with ⟨hsteps, hsame⟩ | ⟨hround, hzero⟩
    · exact iff_of_true hsame (.inl (by simpa using hsteps))
    · rw [hzero, eq_comm, or_iff_right (not_not.mpr hround)]
  · intro e' he'
    obtain ⟨target, anchor, ops, htarget', hanchor', hops, rfl⟩ :=
      express_dateTime_eq_ok_iff.mp he'
    obtain rfl : t = target := Option.some.inj (hnormal.symm.trans htarget')
    obtain rfl : a = anchor := Except.ok.inj (hm.symm.trans hanchor')
    rw [outcome_evaluate_text hk, outcome_evaluate_stepsTo hanchor htarget hops]
    rfl

/-- Relative to a quarter of a second past the start of 1 May 2020, a month back can be expressed
    again, and the start of the day cannot. -/
theorem express_evaluate_quarter_second :
    let a : Instant := ⟨737545 * microsPerDay + 250000, by decide⟩
    let april : Instant := ⟨737515 * microsPerDay + 250000, by decide⟩
    let may : Instant := ⟨737545 * microsPerDay, by decide⟩
    let c := Evaluator.shared (.still (.dateTime (.bare a)))
    (((c.evaluate (.text "now-1M")).run 0).1.outcome = .ok (.utc april) ∧
      ∃ e, ((c.express (.dateTime (.utc april))).run 0).1 = .ok e ∧
        ((c.evaluate (.text e)).run 0).1.outcome = .ok (.utc april)) ∧
    ((c.evaluate (.text "now/d")).run 0).1.outcome = .ok (.utc may) ∧
      ¬ ∃ e, ((c.express (.dateTime (.utc may))).run 0).1 = .ok e := by
  intro a april may c
  have ha : (c.anchor.run 0).1 = .ok a := anchor_shared_still (by decide)
  have hmonth : (move .backward .month (1 : Nat)).Writable := writable_move (by decide) _ _
  have hapril : ((c.evaluate (.text "now-1M")).run 0).1.outcome = .ok (.utc april) :=
    @outcome_evaluate_expressionText c 0 a [.move .backward .month 1] april ha
      (by simpa using hmonth) (by simp) (by decide)
  have hmay : ((c.evaluate (.text "now/d")).run 0).1.outcome = .ok (.utc may) :=
    @outcome_evaluate_expressionText c 0 a [.round (.fixed .day)] may ha
      (by simp [Writable]) (by simp) (by decide)
  have hstep : ¬ HasRounding "now-1M" := by
    have hts : IsStep (move .backward .month (1 : Nat)).chars := isStep_chars hmonth trivial
    rw [show "now-1M" = "now" ++ "-1M" by decide, hasRounding_iff (.step hts .nil) (by decide)]
    simpa using hts.not_isRounding
  have hround : HasRounding "now/d" :=
    ⟨"/d", [['/', 'd']], by decide, by decide, .rounding (.intro (by decide)),
      _, List.mem_singleton_self _, .intro (by decide)⟩
  obtain ⟨hexpress, hback⟩ := express_evaluate ha ha ha (by decide) hapril
  obtain ⟨e, he⟩ := hexpress.mpr (.inl hstep)
  refine ⟨⟨hapril, e, he, hback e he⟩, hmay, ?_⟩
  rw [(express_evaluate ha ha ha (by decide) hmay).1, not_or]
  exact ⟨not_not.mpr hround, by decide⟩

end Evaluator

end RelativeDate
