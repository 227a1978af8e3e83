/-!
# Stages of a run

A run is judged in stages, from `pending` to the stage at which it ends. `canAdvanceTo` is the
relation of stages that may follow each other.
-/
namespace CopyOracle

/-- A stage of a run. -/
inductive Stage where
  /-- Not started. -/
  | pending
  /-- The solver has been run. -/
  | ran
  /-- What it printed was read. -/
  | parsedOk
  /-- What it printed could not be read. -/
  | parseFailed
  /-- Its time ran out. -/
  | timedOut
  /-- It could not be run, or failed in an unknown way. -/
  | processErrored
  /-- Its answer or refusal was judged. -/
  | verified
deriving DecidableEq, Repr

namespace Stage

/-- All stages. -/
def all : List Stage :=
  [.pending, .ran, .parsedOk, .parseFailed, .timedOut, .processErrored, .verified]

/-- The name of a stage. -/
def name : Stage → String
  | .pending => "Pending"
  | .ran => "Ran"
  | .parsedOk => "ParsedOk"
  | .parseFailed => "ParseFailed"
  | .timedOut => "TimedOut"
  | .processErrored => "ProcessErrored"
  | .verified => "Verified"

/-- Whether a stage may directly follow another. -/
def canAdvanceTo : Stage → Stage → Bool
  | .pending, .ran | .pending, .processErrored => true
  | .ran, .parsedOk | .ran, .parseFailed | .ran, .timedOut => true
  | .ran, .processErrored | .ran, .verified => true
  | .parsedOk, .verified | .parseFailed, .verified => true
  | _, _ => false

end Stage

end CopyOracle
