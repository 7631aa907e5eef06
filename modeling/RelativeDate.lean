import RelativeDate.Main
import RelativeDate.Proofs.Calendar.LeapYears
import RelativeDate.Proofs.YearStep
import RelativeDate.Proofs.MonthStep
import RelativeDate.Proofs.Token.Grammar
import RelativeDate.Proofs.Anniversary
import RelativeDate.Proofs.RoundTrip
import RelativeDate.Proofs.Period
import RelativeDate.Proofs.Failure
import RelativeDate.Proofs.Concatenation
import RelativeDate.Proofs.Settings
import RelativeDate.Proofs.SharedEvaluator
import RelativeDate.Proofs.Session
import RelativeDate.Proofs.Expressible
import RelativeDate.Proofs.Inexpressible
import RelativeDate.Proofs.UnitScale.Reduced
import RelativeDate.Proofs.UnitScale.Fewest
import RelativeDate.Proofs.CanonicalForm
import RelativeDate.Proofs.Config
import RelativeDate.Proofs.Settings.Allowed
import RelativeDate.Proofs.Settings.Assignment
import RelativeDate.Proofs.Settings.Replacement
import RelativeDate.Proofs.Setup
import RelativeDate.Proofs.Millisecond
import RelativeDate.Proofs.Rounding.Laws
import RelativeDate.Proofs.CommandLine.RoundTrip
import RelativeDate.Proofs.CommandLine.Ending
import RelativeDate.Proofs.StepOrder
import RelativeDate.Proofs.SignedSum
import RelativeDate.Proofs.ZeroStep
import RelativeDate.Proofs.Token.Printing
import RelativeDate.Proofs.Trace
import RelativeDate.Proofs.Record
import RelativeDate.Proofs.Log
