import Mathlib.Order.Bounds.Basic
import RelativeDate.Proofs.Session

/-! # Only the millisecond matters

Whatever enters a call is brought to UTC first and cut to whole milliseconds then. So a call cannot
tell two dates and times of one millisecond apart, whatever their offsets are, and it does not
matter either whether the anchor comes from the base or from the clock. -/

namespace RelativeDate

open Calendar

/-! ## Milliseconds of UTC -/

namespace DateTime

variable {d d' : DateTime} {t t' : Instant}

/-- The place of a date and time on the line of UTC, in microseconds since the first midnight of
    year 1. It may lie outside the calendar. -/
def utcMicros (d : DateTime) : Int :=
  d.civil.micros - d.offset.getD 0

/-- The number of the millisecond of UTC that a date and time lies in. -/
def utcMilli (d : DateTime) : Int :=
  d.utcMicros / microsPerMilli

theorem toUtc?_eq_some_iff : d.toUtc? = some t ↔ (t.micros : Int) = d.utcMicros := by
  rw [toUtc?, Instant.addMicros?_eq_some_iff, utcMicros, Int.sub_eq_add_neg]

/-- A date and time denotes the start of its millisecond, if that is an instant. -/
theorem normalize?_eq_some_iff :
    d.normalize? = some t ↔ (t.micros : Int) = d.utcMilli * microsPerMilli := by
  rw [normalize?, Option.map_eq_some_iff]
  simp only [toUtc?_eq_some_iff, utcMilli]
  constructor
  · rintro ⟨s, hs, rfl⟩
    rw [← hs, ← Int.natCast_ediv, ← Int.natCast_mul]
    rfl
  · intro ht
    -- The calendar ends between two milliseconds, so the whole of this one is in it.
    have hlt := t.micros_lt
    unfold microsPerMilli at ht
    unfold dayLimit microsPerDay at hlt
    obtain ⟨s, hs⟩ := Instant.exists_ofMicros?_iff.mpr
      (show 0 ≤ d.utcMicros ∧ d.utcMicros < dayLimit * microsPerDay by
        unfold dayLimit microsPerDay
        omega)
    rw [Instant.ofMicros?_eq_some_iff] at hs
    refine ⟨s, hs, Instant.ext ?_⟩
    simp only [Instant.floorMilli, microsPerMilli]
    omega

/-- The start of its millisecond is the last whole millisecond up to a date and time. -/
theorem isGreatest_utcMilli (d : DateTime) :
    IsGreatest {n : Int | (microsPerMilli : Int) ∣ n ∧ n ≤ d.utcMicros}
      (d.utcMilli * microsPerMilli) := by
  refine ⟨⟨Int.dvd_mul_left .., Int.ediv_mul_le _ (by decide)⟩, ?_⟩
  rintro n ⟨⟨k, rfl⟩, hle⟩
  rw [Int.mul_comm] at hle ⊢
  have hk : k ≤ d.utcMilli := Int.le_ediv_of_mul_le (by decide) hle
  exact Int.mul_le_mul_of_nonneg_right hk (by decide)

theorem normalize?_eq_some_iff_isGreatest :
    d.normalize? = some t ↔
      IsGreatest {n : Int | (microsPerMilli : Int) ∣ n ∧ n ≤ d.utcMicros} t.micros := by
  rw [normalize?_eq_some_iff]
  constructor
  · intro ht
    rw [ht]
    exact d.isGreatest_utcMilli
  · intro ht
    exact ht.unique d.isGreatest_utcMilli

/-- All dates and times of a millisecond denote the same instant, or none of them denotes one. -/
theorem normalize?_eq_of_utcMilli (h : d.utcMilli = d'.utcMilli) :
    d.normalize? = d'.normalize? := by
  apply Option.ext
  intro t
  rw [normalize?_eq_some_iff, normalize?_eq_some_iff, h]

theorem normalize?_mono (h : d.utcMicros ≤ d'.utcMicros) (ht : d.normalize? = some t)
    (ht' : d'.normalize? = some t') : t.micros ≤ t'.micros := by
  rw [normalize?_eq_some_iff] at ht ht'
  have hmilli : d.utcMilli ≤ d'.utcMilli := Int.ediv_le_ediv (by decide) h
  have hmicros := Int.mul_le_mul_of_nonneg_right hmilli (Int.natCast_nonneg microsPerMilli)
  omega

end DateTime

/-! ## Values -/

namespace Value

variable {d : DateTime}

theorem normalize_dateTime_eq_outOfRange_iff :
    (dateTime d).normalize = .error .outOfRange ↔
      ¬ Within (dayLimit * microsPerDay) d.utcMicros := by
  rw [DateTime.utcMicros, ← DateTime.normalize?_eq_none_iff, normalize]
  cases d.normalize? <;> simp

end Value

/-! ## Calls -/

namespace Evaluator

variable {c c' : Evaluator} {n n' : Nat}

/-- What the anchor of the next call is made from: the base if there is one, and else the next
    reading of the clock. -/
def source (c : Evaluator) (n : Nat) : Value :=
  match c.config.base with
  | some d => .dateTime d
  | none => c.clock n

theorem anchor_eq (c : Evaluator) (n : Nat) : (c.anchor.run n).1 = (c.source n).normalize := by
  unfold source
  cases hbase : c.config.base with
  | some d => exact anchor_of_base hbase
  | none => exact anchor_of_clock hbase

/-- Of the configuration, an evaluation uses the anchor and whether results carry their offset. -/
theorem evaluate_congr (hanchor : (c.anchor.run n).1 = (c'.anchor.run n').1)
    (hoffset : c.config.withOffset = c'.config.withOffset) (v : Value) :
    ((c.evaluate v).run n).1 = ((c'.evaluate v).run n').1 := by
  cases v with
  | text s =>
    have hpresent : c.present = c'.present := by
      funext t
      rw [present, present, hoffset]
    rw [evaluate_text, evaluate_text, hanchor]
    cases (c'.anchor.run n').1 with
    | error cause => rfl
    | ok t => rw [answer, answer, hpresent]
  | _ => rfl

/-- To express a value takes the anchor, the scale, and the instant that the value denotes. -/
theorem express_congr (hanchor : (c.anchor.run n).1 = (c'.anchor.run n').1)
    (hscale : c.config.scale = c'.config.scale) {v v' : Value} (hv : v.normalize = v'.normalize) :
    ((c.express v).run n).1 = ((c'.express v').run n').1 := by
  cases hnormal : v'.normalize with
  | error cause =>
    rw [express_of_normalize_error (hv.trans hnormal), express_of_normalize_error hnormal]
  | ok t =>
    rw [express_of_normalize (hv.trans hnormal), express_of_normalize hnormal, hanchor]
    cases (c'.anchor.run n').1 with
    | error cause => rfl
    | ok anchor => rw [expressionFor, expressionFor, hscale]

/-- A date and time denotes the last whole millisecond of UTC up to it, which then denotes itself,
    and later ones denote no earlier instant. It denotes none exactly when it is outside the years
    1 to 9999 in UTC. Evaluators with the same settings for results and the same scale, whose
    anchors are made from dates and times of one millisecond, give the same answers, errors
    included. The values to express need only be of one millisecond, too. -/
theorem calls_depend_on_utcMilli :
    (∀ d : DateTime,
      ((Value.dateTime d).normalize = .error .outOfRange ↔
        ¬ Within (dayLimit * microsPerDay) d.utcMicros) ∧
      (∀ t : Instant, (Value.dateTime d).normalize = .ok t ↔
        IsGreatest {n : Int | (microsPerMilli : Int) ∣ n ∧ n ≤ d.utcMicros} t.micros) ∧
      (∀ t, (Value.dateTime d).normalize = .ok t →
        (Value.dateTime (.utc t)).normalize = .ok t) ∧
      ∀ d' t t', d.utcMicros ≤ d'.utcMicros → (Value.dateTime d).normalize = .ok t →
        (Value.dateTime d').normalize = .ok t' → t.micros ≤ t'.micros) ∧
    ∀ (c c' : Evaluator) (n n' : Nat) (a a' : DateTime),
      c.config.withOffset = c'.config.withOffset → c.config.scale = c'.config.scale →
      c.source n = .dateTime a → c'.source n' = .dateTime a' → a.utcMilli = a'.utcMilli →
      (∀ v, ((c.evaluate v).run n).1 = ((c'.evaluate v).run n').1) ∧
      ∀ d d' : DateTime, d.utcMilli = d'.utcMilli →
        ((c.express (.dateTime d)).run n).1 = ((c'.express (.dateTime d')).run n').1 := by
  refine ⟨?_, ?_⟩
  · intro d
    simp only [Value.normalize_dateTime_eq_ok_iff]
    exact ⟨Value.normalize_dateTime_eq_outOfRange_iff,
      fun t => DateTime.normalize?_eq_some_iff_isGreatest,
      fun t ht => DateTime.normalize?_utc (DateTime.isWholeMilli_of_normalize? ht),
      fun d' t t' hle ht ht' => DateTime.normalize?_mono hle ht ht'⟩
  · intro c c' n n' a a' hoffset hscale ha ha' hmilli
    have hanchor : (c.anchor.run n).1 = (c'.anchor.run n').1 := by
      rw [anchor_eq, anchor_eq, ha, ha', Value.normalize, Value.normalize,
        DateTime.normalize?_eq_of_utcMilli hmilli]
    refine ⟨fun v => evaluate_congr hanchor hoffset v, ?_⟩
    intro d d' hd
    refine express_congr hanchor hscale ?_
    rw [Value.normalize, Value.normalize, DateTime.normalize?_eq_of_utcMilli hd]

/-- The clock of one evaluator shows 1 May 2020 without an offset. The other one has a base 999
    microseconds later, at an offset of two hours and one microsecond. -/
theorem calls_depend_on_utcMilli_two_hours :
    let a : DateTime := .bare ⟨737545 * microsPerDay, by decide⟩
    let a' : DateTime := ⟨⟨737545 * microsPerDay + 2 * microsPerHour + 1000, by decide⟩,
      some (2 * microsPerHour + 1)⟩
    let c := shared (.still (.dateTime a))
    let c' : Evaluator := ⟨{ Config.default with base := some a' }, .still .null⟩
    a.utcMilli = a'.utcMilli ∧ a.utcMicros ≠ a'.utcMicros ∧
      ((c.evaluate (.text "now-1M/h")).run 0).1 = ((c'.evaluate (.text "now-1M/h")).run 5).1 ∧
      ((c.express (.dateTime a')).run 0).1 = ((c'.express (.dateTime a)).run 5).1 := by
  intro a a' c c'
  have hmilli : a.utcMilli = a'.utcMilli := by decide
  obtain ⟨hevaluate, hexpress⟩ :=
    calls_depend_on_utcMilli.2 c c' 0 5 a a' rfl rfl rfl rfl hmilli
  exact ⟨hmilli, by decide, hevaluate _, hexpress a' a hmilli.symm⟩

end Evaluator

end RelativeDate
