import RelativeDate.Proofs.DateTime.Reading
import RelativeDate.Proofs.RoundTrip

/-! # Differences that cannot be written

The shortest unit of a scale decides on what can be written over the scale, since it goes into all
the other units. A difference that it does not go into is refused, and the message tells whether
there are parts of a second in the difference or whether the scale is too coarse for it. -/

namespace RelativeDate

/-! ## What the messages say -/

namespace ExpressError

theorem message_notWholeSeconds (target anchor : Instant) :
    (notWholeSeconds target anchor).message =
      target.utcText .whenNeeded ++ " is not a whole number of seconds away from "
        ++ anchor.utcText .whenNeeded := by
  unfold message
  simp only [toString, String.append_assoc]

theorem message_notExpressible (scale : UnitScale) (target : Instant) :
    (notExpressible scale target).message =
      "STRINGIFY_UNITS " ++ Text.quoted scale.symbols ++ " cannot express "
        ++ target.utcText .whenNeeded ++ " exactly" := by
  unfold message
  simp only [toString, String.append_assoc]

/-- The two messages differ in their first character. -/
theorem message_ne (scale : UnitScale) (target anchor other : Instant) :
    (notWholeSeconds target anchor).message ≠ (notExpressible scale other).message := by
  intro h
  have hleft : (notWholeSeconds target anchor).message.toList.head? =
      (target.utcText .whenNeeded).toList.head? := by
    rw [message_notWholeSeconds, String.toList_append, String.toList_append, List.append_assoc]
    exact List.head?_append_of_ne_nil _ (by simp [Instant.utcText, DateTime.text])
  have hright : (notExpressible scale other).message.toList.head? = some 'S' := by
    simp only [message_notExpressible, String.toList_append, List.append_assoc]
    rw [List.head?_append_of_ne_nil _ (by decide)]
    decide
  rw [h, hright] at hleft
  exact absurd (Iso.isDigit_of_head?_utcText hleft.symm) (by decide)

end ExpressError

/-! ## Calls of an evaluator -/

namespace Evaluator

/-- A date and time is written relative to the anchor exactly when the last unit of the scale, which
    is the shortest, goes into the difference in milliseconds. If it does not, the call fails. The
    message is about parts of a second when the difference is no multiple of 1000, and about the
    scale otherwise. -/
theorem express_dateTime_classified {c : Evaluator} {n : Nat} {d : DateTime} {t a : Instant}
    (hd : d.normalize? = some t) (ha : (c.anchor.run n).1 = .ok a) :
    let outcome := ((c.express (.dateTime d)).run n).1
    let scale := c.config.scale
    let difference := (t.since a).millis
    let notWhole := t.utcText .whenNeeded ++ " is not a whole number of seconds away from "
      ++ a.utcText .whenNeeded
    let notExact := "STRINGIFY_UNITS " ++ Text.quoted scale.symbols ++ " cannot express "
      ++ t.utcText .whenNeeded ++ " exactly"
    (∀ u ∈ scale.units, scale.last.millis ≤ u.millis) ∧
    ((∃ e, outcome = .ok e) ↔ (scale.last.millis : Int) ∣ difference) ∧
    ((∃ cause, outcome = .error (.express cause) ∧ cause.message = notWhole) ↔
      ¬ 1000 ∣ difference) ∧
    ((∃ cause, outcome = .error (.express cause) ∧ cause.message = notExact) ↔
      1000 ∣ difference ∧ ¬ (scale.last.millis : Int) ∣ difference) := by
  intro outcome scale difference notWhole notExact
  have hwhole : (ExpressError.notWholeSeconds t a).message = notWhole :=
    ExpressError.message_notWholeSeconds t a
  have hexact : (ExpressError.notExpressible scale t).message = notExact :=
    ExpressError.message_notExpressible scale t
  have hne : notWhole ≠ notExact := hwhole ▸ hexact ▸ ExpressError.message_ne scale t a t
  have houtcome : outcome = ((stepsTo scale a t).map expressionText).mapError .express :=
    express_of_anchor (Value.normalize_dateTime_eq_ok_iff.mpr hd) ha
  refine ⟨fun u hu => scale.last_millis_le hu, exists_express_dateTime_iff ha hd, ?_⟩
  by_cases hseconds : (1000 : Int) ∣ difference
  · by_cases hunits : (scale.last.millis : Int) ∣ difference
    · obtain ⟨ops, hops⟩ := exists_stepsTo_iff.mpr hunits
      simp [houtcome, hops, hseconds, hunits, Except.map, Except.mapError]
    · have hsteps := stepsTo_of_not_last_dvd hseconds hunits
      simp [houtcome, hsteps, hseconds, hunits, Except.map, Except.mapError, hexact, hne.symm]
  · have hsteps := @stepsTo_of_not_second_dvd a t scale hseconds
    simp [houtcome, hsteps, hseconds, Except.map, Except.mapError, hwhole, hne]

/-- With hours and minutes for a scale and relative to 1 May 2020, an hour and a half back can be
    written, whatever the offset is that it is given with. Half a minute more cannot, and half a
    second more cannot for another reason. -/
theorem express_dateTime_classified_hours_minutes :
    let a : Instant := ⟨737545 * microsPerDay, by decide⟩
    let scale : UnitScale := ⟨[.hour, .minute], by decide, by decide⟩
    let c : Evaluator := ⟨⟨none, true, scale⟩, .still (.dateTime (.bare a))⟩
    let t : Instant := ⟨737545 * microsPerDay - 5400 * microsPerSecond, by decide⟩
    let d : DateTime :=
      ⟨⟨737545 * microsPerDay + 1800 * microsPerSecond, by decide⟩, some (2 * microsPerHour)⟩
    let minute : Instant := ⟨737545 * microsPerDay - 5430 * microsPerSecond, by decide⟩
    let second : Instant := ⟨737545 * microsPerDay - 5400 * microsPerSecond - 500000, by decide⟩
    (d.normalize? = some t ∧ ∃ e, ((c.express (.dateTime d)).run 0).1 = .ok e) ∧
    (∃ cause, ((c.express (.dateTime (.utc minute))).run 0).1 = .error (.express cause) ∧
      cause.message = "STRINGIFY_UNITS 'hm' cannot express 2020-04-30T22:29:30+00:00 exactly") ∧
    ∃ cause, ((c.express (.dateTime (.utc second))).run 0).1 = .error (.express cause) ∧
      cause.message = "2020-04-30T22:29:59.500000+00:00 is not a whole number of seconds away "
        ++ "from 2020-05-01T00:00:00+00:00" := by
  intro a scale c t d minute second
  have ha : (c.anchor.run 0).1 = .ok a :=
    (anchor_of_clock rfl).trans
      (Value.normalize_dateTime_eq_ok_iff.mpr (DateTime.normalize?_bare (by decide)))
  have hd : d.normalize? = some t := by decide
  have hminute : (DateTime.utc minute).normalize? = some minute :=
    DateTime.normalize?_utc (by decide)
  have hsecond : (DateTime.utc second).normalize? = some second :=
    DateTime.normalize?_utc (by decide)
  refine ⟨⟨hd, (express_dateTime_classified hd ha).2.1.mpr (by decide)⟩, ?_, ?_⟩
  · obtain ⟨cause, hcause, hmessage⟩ :=
      (express_dateTime_classified hminute ha).2.2.2.mpr (by decide)
    exact ⟨cause, hcause, hmessage.trans (by decide)⟩
  · obtain ⟨cause, hcause, hmessage⟩ :=
      (express_dateTime_classified hsecond ha).2.2.1.mpr (by decide)
    exact ⟨cause, hcause, hmessage.trans (by decide)⟩

end Evaluator

end RelativeDate
