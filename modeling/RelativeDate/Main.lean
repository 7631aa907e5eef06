import Std.Time.DateTime.Timestamp
import RelativeDate.CommandLine.Run

/-! # The command

Reads the arguments and the wall clock, runs the command, and prints what it says. -/

namespace RelativeDate

/-- The first midnight of 1970, in microseconds since the first midnight of year 1. -/
def epochMicros : Int :=
  Calendar.yearStart 1969 * microsPerDay

/-- What the wall clock shows. -/
def wallReading : IO Value := do
  let now ← Std.Time.Timestamp.now
  let micros := epochMicros + now.toNanosecondsSinceUnixEpoch.val / 1000
  return (Instant.ofMicros? micros).elim .null fun t => .dateTime (.utc t)

end RelativeDate

open RelativeDate in
def main (args : List String) : IO UInt32 := do
  match CommandLine.run (.still (← wallReading)) args with
  | .finished output =>
    IO.eprint output.stderr
    IO.print output.stdout
    return output.exit.toUInt32
  | .outOfRange =>
    IO.eprintln InstantError.outOfRange.message
    return 1
