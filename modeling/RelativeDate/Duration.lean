import RelativeDate.Instant

/-! # Durations

A length of time, which may be negative, to the microsecond. -/

namespace RelativeDate

structure Duration where
  micros : Int
  deriving DecidableEq, Repr

namespace Duration

/-- A duration from parts, each of either sign and size. -/
def ofParts (days seconds micros : Int) : Duration :=
  ⟨days * microsPerDay + seconds * microsPerSecond + micros⟩

/-- The number of milliseconds, cut downwards. -/
def millis (d : Duration) : Int :=
  d.micros / microsPerMilli

end Duration

/-- How long `t` is after `s`. -/
def Instant.since (t s : Instant) : Duration :=
  ⟨t.micros - s.micros⟩

end RelativeDate
