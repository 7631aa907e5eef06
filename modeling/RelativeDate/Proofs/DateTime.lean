import RelativeDate.DateTime
import RelativeDate.Proofs.Instant

/-! # Whole milliseconds

Whatever enters an evaluation is cut to whole milliseconds, and cutting changes nothing that is
whole already. -/

namespace RelativeDate

namespace Instant

variable {t : Instant}

def IsWholeMilli (t : Instant) : Prop :=
  microsPerMilli ∣ t.micros

instance (t : Instant) : Decidable t.IsWholeMilli :=
  inferInstanceAs (Decidable (_ ∣ _))

theorem isWholeMilli_floorMilli (t : Instant) : t.floorMilli.IsWholeMilli :=
  Nat.dvd_mul_left _ _

theorem IsWholeMilli.floorMilli_eq (h : t.IsWholeMilli) : t.floorMilli = t := by
  cases t
  simp only [floorMilli, Instant.mk.injEq]
  exact Nat.div_mul_cancel h

end Instant

namespace DateTime

theorem isWholeMilli_of_normalize? {d : DateTime} {t : Instant} (h : d.normalize? = some t) :
    t.IsWholeMilli := by
  obtain ⟨u, -, rfl⟩ := Option.map_eq_some_iff.mp h
  exact u.isWholeMilli_floorMilli

/-- A date and time without an offset, or at offset zero, is normal if it is a whole
    millisecond. -/
theorem normalize?_eq_civil {d : DateTime} (hoffset : d.offset.getD 0 = 0)
    (h : d.civil.IsWholeMilli) : d.normalize? = some d.civil := by
  have hutc : d.toUtc? = some d.civil := by
    unfold toUtc?
    rw [Instant.addMicros?_eq_some_iff, hoffset, Int.neg_zero, Int.add_zero]
  rw [normalize?, hutc, Option.map_some, h.floorMilli_eq]

theorem normalize?_bare {t : Instant} (h : t.IsWholeMilli) : (bare t).normalize? = some t :=
  normalize?_eq_civil rfl h

theorem normalize?_utc {t : Instant} (h : t.IsWholeMilli) : (utc t).normalize? = some t :=
  normalize?_eq_civil rfl h

end DateTime

end RelativeDate
