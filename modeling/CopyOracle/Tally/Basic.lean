import CopyOracle.Algorithm
import CopyOracle.Tally.Counts

/-!
# Tallies

A tally counts the runs of a batch over all, by algorithm, and by the source of the case. The
slices are kept in ascending order of their keys and hold the keys of recorded runs only, so
equal sets of runs have equal tallies in whatever order they were recorded.
-/
namespace CopyOracle

/-- Counters by key, the keys ascending. -/
abbrev Slices (κ : Type) := List (κ × Counts)

/-- The slices with the counters of one key advanced; a new key starts from zero. -/
def Slices.advance {κ : Type} [Ord κ] (key : κ) (step : Counts → Counts) : Slices κ → Slices κ
  | [] => [(key, step {})]
  | (other, counts) :: rest =>
    match compare key other with
    | .lt => (key, step {}) :: (other, counts) :: rest
    | .eq => (other, step counts) :: rest
    | .gt => (other, counts) :: Slices.advance key step rest

/-- The counters of a batch and of its slices. -/
structure Tally where
  /-- Over all runs. -/
  overall : Counts := {}
  /-- By algorithm. -/
  byAlgorithm : Slices Algorithm := []
  /-- By the source of the case. -/
  bySource : Slices String := []
deriving DecidableEq, Repr

namespace Tally

/-- The tally after one more run. -/
def record (tally : Tally) (source : String) (algorithm : Algorithm) (verdict : Verdict)
    (time : Option Duration) : Tally where
  overall := tally.overall.record verdict time
  byAlgorithm := tally.byAlgorithm.advance algorithm (·.record verdict time)
  bySource := tally.bySource.advance source (·.record verdict time)

/-- Whether every run passed. -/
def allPassed (tally : Tally) : Bool := tally.overall.failed = 0

end Tally

end CopyOracle
