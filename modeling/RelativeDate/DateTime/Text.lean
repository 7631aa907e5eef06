import RelativeDate.DateTime
import RelativeDate.Text.Padded

/-! # The text of a date and time

The form is `YYYY-MM-DDTHH:MM:SS`, a fraction of the second, and the offset if there is one. An
offset has hours and minutes, and seconds and their fraction only where they are not zero. -/

namespace RelativeDate

open Text (padded)

/-- How much of the fraction of a second is written. -/
inductive Fraction
  /-- Six digits, or none when the second is whole. -/
  | whenNeeded
  | millis
  deriving DecidableEq, Repr

def Fraction.text : Fraction → Nat → String
  | .whenNeeded, n => if n = 0 then "" else "." ++ padded 6 n
  | .millis, n => "." ++ padded 3 (n / microsPerMilli)

def Calendar.Date.text (d : Calendar.Date) : String :=
  padded 4 d.year ++ "-" ++ padded 2 d.month ++ "-" ++ padded 2 d.day

/-- Hours, minutes and seconds, and the fraction as `f` asks. -/
def Instant.timeText (t : Instant) (f : Fraction) : String :=
  padded 2 t.hour ++ ":" ++ padded 2 t.minute ++ ":" ++ padded 2 t.second ++ f.text t.subsecond

def offsetText (offset : Int) : String :=
  let n := offset.natAbs
  let seconds := n / microsPerSecond % 60
  let subsecond := n % microsPerSecond
  (if offset < 0 then "-" else "+") ++ padded 2 (n / microsPerHour) ++ ":"
    ++ padded 2 (n / microsPerMinute % 60)
    ++ (if seconds = 0 ∧ subsecond = 0 then "" else ":" ++ padded 2 seconds)
    ++ Fraction.whenNeeded.text subsecond

def DateTime.text (d : DateTime) (f : Fraction) : String :=
  d.civil.date.text ++ "T" ++ d.civil.timeText f ++ (d.offset.map offsetText).getD ""

/-- The text of an instant of UTC. -/
def Instant.utcText (t : Instant) (f : Fraction) : String :=
  (DateTime.utc t).text f

end RelativeDate
