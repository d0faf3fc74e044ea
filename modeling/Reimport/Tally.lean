import Reimport.Outcome
import Reimport.Text.Decimal

/-!
# Statistics and tally

A run counts its entries.  `Statistics` are the counters with the two flags that
decide whether the run goes on, and a `Tally` adds whether the run was given up.
`Tally.after` is what one outcome does to a tally: a passed or mismatched entry
is tested, a mismatched one has failed as well and halts the run if the first
failure is to, an entry that does not compile is counted as such, and a failed
compiler call gives the run up.
-/
namespace Reimport

/-- The counters of a run. -/
structure Statistics where
  /-- The entries that were put to the test. -/
  tested : Int
  /-- Those of them whose exports differ. -/
  failed : Int
  /-- The entries that the compiler rejects. -/
  uncompilable : Int
  /-- The entries of the corpus. -/
  totalSources : Int
  /-- Whether the first failure halts the run. -/
  exitOnFirstFailure : Bool
  /-- Whether the run was halted before its end. -/
  haltedEarly : Bool
  deriving DecidableEq, Repr

namespace Statistics

/-- The counters before a run. -/
def fresh (exitOnFirstFailure : Bool) : Statistics := ⟨0, 0, 0, 0, exitOnFirstFailure, false⟩

/-- The entries that have an outcome. -/
def processed (statistics : Statistics) : Int := statistics.tested + statistics.uncompilable

/-- The line that sums a run up. -/
def summary (s : Statistics) : Text :=
  if s.failed = 0 then
    .join ["SUCCESS: ", Text.decimal s.tested, " tests passed, ", Text.decimal s.failed,
      " failed, ", Text.decimal s.uncompilable, " could not be compiled (",
      Text.decimal s.totalSources, " sources total)."]
  else
    .join ["FAILURE: Out of ", Text.decimal s.totalSources, " sources, ", Text.decimal s.tested,
      " tested, ", Text.decimal s.failed, " failed, (", Text.decimal s.uncompilable,
      " could not be compiled)."]

end Statistics

/-- The counters of a run and whether it was given up. -/
structure Tally where
  /-- The counters. -/
  statistics : Statistics
  /-- Whether the run was given up. -/
  aborted : Bool
  deriving DecidableEq, Repr

namespace Tally

/-- A tally that begins with given counters. -/
def ofStatistics (statistics : Statistics) : Tally := ⟨statistics, false⟩

/-- Whether no entry may be processed any more. -/
def halted (tally : Tally) : Bool := tally.statistics.haltedEarly

/-- Whether no entry failed and the run was not given up. -/
def succeeded (tally : Tally) : Bool := tally.statistics.failed = 0 && !tally.aborted

/-- The tally of a run that is given up. -/
def abort (tally : Tally) : Tally := ⟨{ tally.statistics with haltedEarly := true }, true⟩

/-- The tally after one more outcome. -/
def after (tally : Tally) (outcome : Outcome) : Tally :=
  let s := tally.statistics
  match outcome with
  | .passed _ => { tally with statistics := { s with tested := s.tested + 1 } }
  | .uncompilable _ => { tally with statistics := { s with uncompilable := s.uncompilable + 1 } }
  | .mismatched _ _ _ =>
    { tally with statistics := { s with
        tested := s.tested + 1
        failed := s.failed + 1
        haltedEarly := s.haltedEarly || s.exitOnFirstFailure } }
  | .exportFailed _ | .importFailed _ => tally.abort

end Tally
end Reimport
