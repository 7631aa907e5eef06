import RelativeDate.Instant

/-! # Dates and times with an offset

A date and time as it is read off a calendar and a clock, with the offset from UTC if one is
known. Without an offset it is taken to be in UTC. -/

namespace RelativeDate

structure DateTime where
  /-- What calendar and clock show. -/
  civil : Instant
  /-- How far the clock is ahead of UTC, in microseconds. -/
  offset : Option Int
  deriving DecidableEq

namespace DateTime

/-- An instant of UTC with its offset. -/
def utc (t : Instant) : DateTime :=
  ⟨t, some 0⟩

/-- An instant of UTC without its offset. -/
def bare (t : Instant) : DateTime :=
  ⟨t, none⟩

/-- The instant of UTC, if it lies in the years 1 to 9999. -/
def toUtc? (d : DateTime) : Option Instant :=
  d.civil.addMicros? (-d.offset.getD 0)

/-- The instant of UTC, cut to whole milliseconds. -/
def normalize? (d : DateTime) : Option Instant :=
  d.toUtc?.map Instant.floorMilli

/-- Apply a step to what calendar and clock show, and keep the offset. -/
def mapCivil? (d : DateTime) (f : Instant → Option Instant) : Option DateTime :=
  (f d.civil).map fun t => { d with civil := t }

end DateTime

end RelativeDate
