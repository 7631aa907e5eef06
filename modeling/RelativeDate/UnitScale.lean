import RelativeDate.Duration
import RelativeDate.Operation
import RelativeDate.DateTime.Text
import RelativeDate.Text.Quoted

/-! # Scales of units

A scale is a choice of units of fixed length, the longest first. A difference between two
instants is written over a scale greedily: as much as fits of the first unit, then of the next
one, and so on. What is left after the last unit cannot be written. -/

namespace RelativeDate

structure UnitScale where
  units : List FixedUnit
  units_ne_nil : units ≠ []
  decreasing : units.Pairwise fun u v => v.millis < u.millis

namespace UnitScale

theorem nodup_units (scale : UnitScale) : scale.units.Nodup :=
  scale.decreasing.imp fun h => by
    rintro rfl
    exact Nat.lt_irrefl _ h

/-- The scale of all units of fixed length. -/
def full : UnitScale where
  units := FixedUnit.all
  units_ne_nil := by decide
  decreasing := by decide

/-- The symbols of the units of a scale. -/
def symbols (scale : UnitScale) : String :=
  String.ofList (scale.units.map FixedUnit.symbol)

end UnitScale

/-! ## Greedy division -/

/-- The amounts of each unit that fit into `n` milliseconds, unit by unit, and the rest. -/
def divideOver : List FixedUnit → Nat → List (FixedUnit × Nat) × Nat
  | [], n => ([], n)
  | u :: units, n =>
    let (amounts, rest) := divideOver units (n % u.millis)
    ((u, n / u.millis) :: amounts, rest)

/-- The steps for amounts of units, without those that go nowhere. -/
def stepsFor (dir : Direction) (amounts : List (FixedUnit × Nat)) : List Operation :=
  (amounts.filter fun (_, n) => n ≠ 0).map fun (u, n) => .move dir (.fixed u) n

/-! ## From one instant to another -/

/-- Why no expression over a scale leads to an instant. -/
inductive ExpressError
  | notWholeSeconds (target anchor : Instant)
  | notExpressible (scale : UnitScale) (target : Instant)

def ExpressError.message : ExpressError → String
  | .notWholeSeconds target anchor =>
    s!"{target.utcText .whenNeeded} is not a whole number of seconds away from "
      ++ anchor.utcText .whenNeeded
  | .notExpressible scale target =>
    s!"STRINGIFY_UNITS {Text.quoted scale.symbols} cannot express "
      ++ s!"{target.utcText .whenNeeded} exactly"

/-- The steps over a scale that lead from an anchor to a target. -/
def stepsTo (scale : UnitScale) (anchor target : Instant) :
    Except ExpressError (List Operation) :=
  let difference := (target.since anchor).millis
  if difference % FixedUnit.second.millis ≠ 0 then .error (.notWholeSeconds target anchor)
  else
    let dir := if 0 < difference then Direction.forward else .backward
    let (amounts, rest) := divideOver scale.units difference.natAbs
    if rest ≠ 0 then .error (.notExpressible scale target)
    else .ok (stepsFor dir amounts)

end RelativeDate
