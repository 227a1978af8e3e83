import CopyOracle.Judgement.Verdict

/-!
# Counts of outcomes

Runs are counted by outcome, one counter each, with a claim of no solution counted apart by
whether it was right. The times of the passing runs that have one are added up for their mean.
The counters are natural numbers, which agree with 64-bit words below `2 ^ 64` runs.

The pass rate is written as the runs passed over all runs, with the percentage rounded down to a
tenth. The product of the runs passed by a thousand stops at the largest 64-bit word, so the
percentage is never above the true one.
-/
namespace CopyOracle

/-- Runs passed out of all runs. -/
structure PassRate where
  /-- Runs that passed. -/
  passed : Nat
  /-- All runs. -/
  total : Nat
deriving DecidableEq, Repr

namespace PassRate

/-- The rate in tenths of a percent, rounded down; there is none over no run. -/
def perMille? (rate : PassRate) : Option Nat :=
  if rate.total = 0 then none
  else some (min (rate.passed * 1000) (UInt64.size - 1) / rate.total)

/-- The written rate. -/
def describe (rate : PassRate) : String :=
  match rate.perMille? with
  | some perMille => s!"{rate.passed}/{rate.total} ({perMille / 10}.{perMille % 10}%)"
  | none => s!"{rate.passed}/{rate.total} (n/a)"

end PassRate

/-- The counters of a set of runs. Each advances by one a run, so below `2 ^ 64` runs none of them
outgrows a 64-bit word. -/
structure Counts where
  /-- Right answers and right rejections of malformed inputs. -/
  ok : Nat := 0
  /-- Wrong answers and refusals. -/
  validationFailures : Nat := 0
  /-- Outputs that are no answer. -/
  parseErrors : Nat := 0
  /-- Right claims that there is no solution. -/
  expectedNoSolution : Nat := 0
  /-- Wrong claims that there is no solution. -/
  unexpectedNoSolution : Nat := 0
  /-- Right refusals of impossible cases. -/
  impossible : Nat := 0
  /-- Runs whose time ran out. -/
  timeouts : Nat := 0
  /-- Runs that failed in an unknown way. -/
  runErrors : Nat := 0
  /-- The time of the passing runs that have one. -/
  passingTime : Duration := .zero
  /-- How many passing runs have a time, at most the largest 32-bit word. -/
  timedPasses : Nat := 0
deriving DecidableEq, Repr

namespace Counts

/-- The counters with the one of a verdict advanced. -/
def count (counts : Counts) : Verdict → Counts
  | .ok => { counts with ok := counts.ok + 1 }
  | .fail _ => { counts with validationFailures := counts.validationFailures + 1 }
  | .parseError _ => { counts with parseErrors := counts.parseErrors + 1 }
  | .noSolution true => { counts with expectedNoSolution := counts.expectedNoSolution + 1 }
  | .noSolution false => { counts with unexpectedNoSolution := counts.unexpectedNoSolution + 1 }
  | .impossible => { counts with impossible := counts.impossible + 1 }
  | .timeout => { counts with timeouts := counts.timeouts + 1 }
  | .runError _ _ => { counts with runErrors := counts.runErrors + 1 }

/-- The counters with the time of a passing run added. -/
def addTime (counts : Counts) (time : Duration) : Counts :=
  { counts with
    passingTime := counts.passingTime.add time
    timedPasses := min (counts.timedPasses + 1) (UInt32.size - 1) }

/-- The counters after one more run. -/
def record (counts : Counts) (verdict : Verdict) (time : Option Duration) : Counts :=
  match time with
  | some time =>
    if verdict.isPass then (counts.count verdict).addTime time else counts.count verdict
  | none => counts.count verdict

/-- Number of runs. -/
def total (counts : Counts) : Nat :=
  counts.ok + counts.validationFailures + counts.parseErrors + counts.expectedNoSolution +
    counts.unexpectedNoSolution + counts.impossible + counts.timeouts + counts.runErrors

/-- Number of runs that passed. -/
def passed (counts : Counts) : Nat := counts.ok + counts.impossible + counts.expectedNoSolution

/-- Number of runs that did not pass. -/
def failed (counts : Counts) : Nat := counts.total - counts.passed

/-- The runs passed out of all. -/
def passRate (counts : Counts) : PassRate := ⟨counts.passed, counts.total⟩

/-- The mean time of the passing runs that have one, rounded down to a nanosecond. -/
def meanPassingTime? (counts : Counts) : Option Duration :=
  counts.passingTime.divide? counts.timedPasses

end Counts

end CopyOracle
