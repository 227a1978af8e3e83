import CopyOracle.Answer.Check
import CopyOracle.Judgement.Run

/-!
# Verdicts

A verdict is the final judgement on one run, with its outcome out of a fixed list and its
wording. A right answer, a right refusal of an impossible case and a right claim that there is
no solution pass; nothing else does.
-/
namespace CopyOracle

/-- Why an answer or a refusal is wrong. -/
inductive Reason where
  /-- A check of the answer failed. -/
  | violated (violation : AnswerViolation)
  /-- A case was answered whose target is smaller than its pattern. -/
  | answeredTooSmall (target pattern : Nat)
  /-- A case was answered that asks for more copies than there are vertex sets. -/
  | answeredTooMany (copies target pattern images : Nat)
  /-- A well-formed input was rejected as malformed. -/
  | rejectedWellFormed
  /-- A target was called too small that is not. -/
  | rejectedAsTooSmall (target pattern : Nat)
  /-- A number of copies was called impossible that is not. -/
  | rejectedAsTooMany (copies target pattern images : Nat)
  /-- A malformed input was not rejected. -/
  | acceptedMalformed (error : InputError)
  /-- A reason given in words. -/
  | stated (text : String)
deriving DecidableEq, Repr

/-- The wording of a reason. -/
def Reason.message : Reason → String
  | .violated violation => violation.message
  | .answeredTooSmall target pattern =>
    s!"solver claimed an answer but n2={target} < n1={pattern}"
  | .answeredTooMany copies target pattern images =>
    s!"solver claimed {copies} copies but only C({target},{pattern})={images} distinct images exist"
  | .rejectedWellFormed => "solver rejected a well-formed input as malformed"
  | .rejectedAsTooSmall target pattern =>
    s!"solver claimed the target is too small but n2={target} >= n1={pattern}"
  | .rejectedAsTooMany copies target pattern images =>
    s!"solver rejected k={copies} but C({target},{pattern})={images} distinct images exist"
  | .acceptedMalformed error =>
    s!"input is malformed ({error.message}) but the solver did not reject it"
  | .stated text => text

/-- The judgement on one run. -/
inductive Verdict where
  /-- The answer, or the rejection of a malformed input, is right. -/
  | ok
  /-- The solver claimed something that does not hold. -/
  | fail (reasons : List Reason)
  /-- What the solver printed is no answer. -/
  | parseError (error : AnswerError)
  /-- The solver found no solution; whether there is none. -/
  | noSolution (expected : Bool)
  /-- The solver refused a case that has no solution. -/
  | impossible
  /-- The time ran out. -/
  | timeout
  /-- The solver could not be run or failed in an unknown way. -/
  | runError (fault : RunFault) (detail : String)
deriving DecidableEq, Repr

namespace Verdict

/-- The wording of a verdict. -/
def describe : Verdict → String
  | .ok => "ok"
  | .fail reasons => "validation failed: " ++ "; ".intercalate (reasons.map Reason.message)
  | .parseError error => s!"unparseable output: {error.message}"
  | .noSolution true => "no solution (expected)"
  | .noSolution false => "no solution (unexpected)"
  | .impossible => "correctly rejected as impossible"
  | .timeout => "timed out"
  | .runError fault detail => s!"process error ({fault.describe}): {detail}"

/-- The outcome of a verdict as it stands in records and summaries. -/
def outcome : Verdict → String
  | .ok => "OK"
  | .fail _ => "VALIDATION_FAILURE"
  | .parseError _ => "PARSE_ERROR"
  | .noSolution _ => "NO_SOLUTION"
  | .impossible => "IMPOSSIBLE"
  | .timeout => "TIMEOUT"
  | .runError _ _ => "PROCESS_ERROR"

/-- Whether a run with this verdict passes. -/
def isPass : Verdict → Bool
  | .ok | .impossible | .noSolution true => true
  | _ => false

end Verdict

end CopyOracle
