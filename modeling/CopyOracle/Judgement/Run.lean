import CopyOracle.Duration
import CopyOracle.Text.Basic

/-!
# Runs of a solver

A run ends in one of three ways: the solver exits and what it printed is kept, its time runs out,
or it could not be run at all.
-/
namespace CopyOracle

/-- Why a solver could not be run or failed in a way that says nothing about its case. -/
inductive RunFault where
  /-- It could not be started. -/
  | spawnFailed
  /-- It could not open its input file. -/
  | unreadableInput
  /-- It failed without a known diagnostic; there is no status when a signal ended it. -/
  | exit (status : Option Int)
  /-- What it printed could not be read. -/
  | io
deriving DecidableEq, Repr

/-- The wording of a fault. -/
def RunFault.describe : RunFault → String
  | .spawnFailed => "spawn failed"
  | .unreadableInput => "unreadable input"
  | .exit (some status) => s!"exit status {status}"
  | .exit none => "terminated by signal"
  | .io => "i/o error"

/-- What is kept of a solver that exited. -/
structure Capture where
  /-- What it printed. -/
  stdout : Text
  /-- What it printed on its error stream. -/
  stderr : Text
  /-- Its exit status; none when a signal ended it. -/
  status : Option Int
  /-- The time from its start to its end. -/
  elapsed : Duration
deriving DecidableEq, Repr

/-- How a run ended. -/
inductive RunOutcome where
  /-- The solver exited. -/
  | completed (capture : Capture)
  /-- Its time ran out after so long. -/
  | timedOut (elapsed : Duration)
  /-- It could not be run. -/
  | failed (fault : RunFault) (detail : String)
deriving DecidableEq, Repr

namespace Capture

/-- The most characters of an excerpt. -/
def excerptLength : Nat := 200

/-- The front of the first line that is not blank, on the error stream before the other. -/
def excerpt (capture : Capture) : String :=
  let printed := (capture.stderr.lines ++ capture.stdout.lines).map Text.trim
  .ofList (((printed.find? fun line => !line.isEmpty).getD "no output".toList).take excerptLength)

end Capture

end CopyOracle
