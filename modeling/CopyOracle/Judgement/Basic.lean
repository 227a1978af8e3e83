import CopyOracle.Answer.Diagnostic
import CopyOracle.Answer.Reader
import CopyOracle.Answer.Timing
import CopyOracle.Case.Input
import CopyOracle.Judgement.Stage
import CopyOracle.Judgement.Verdict

/-!
# Judging a run

A run is judged against the case that it was given, or against the error of an input that is
malformed. An answer is read and checked; a refusal counts only where the case bears it out. The
judgement never depends on the measured time, except for the time that it records when the
solver reports none.
-/
namespace CopyOracle

/-- A remark on a run that decides nothing. -/
inductive Note where
  /-- A check found something that is no fault. -/
  | warning (violation : AnswerViolation)
  /-- The answer lists no copies. -/
  | copiesUnavailable
  /-- The malformed input was rejected, as it should be. -/
  | rejectedMalformed (error : InputError)
deriving DecidableEq, Repr

/-- The wording of a remark. -/
def Note.message : Note → String
  | .warning violation => s!"warning: {violation.message}"
  | .copiesUnavailable => "mappings unavailable; copy check skipped"
  | .rejectedMalformed error => s!"solver rejected malformed input: {error.message}"

/-- The verdict on a run and how it was reached. -/
structure Judgement where
  /-- The verdict. -/
  verdict : Verdict
  /-- The stages gone through, from the first. -/
  stages : List Stage
  /-- The cost that the solver reported, when it claimed a solution. -/
  cost : Option UInt64
  /-- The time of the solver, its own report first. -/
  time : Option Duration
  /-- Remarks. -/
  notes : List Note
deriving DecidableEq, Repr

namespace Judgement

/-- The last stage. -/
def stage (judgement : Judgement) : Stage := judgement.stages.getLast?.getD .pending

/-- The fault of answering a case that has no solution. -/
def answeredImpossible (problem : Case) : Reason :=
  if problem.targetTooSmall then .answeredTooSmall problem.target.order problem.pattern.order
  else .answeredTooMany problem.copies.toNat problem.target.order problem.pattern.order
    problem.maxImages

/-- The verdict on a claimed solution, from the report of its checks. -/
def judgeAnswer (problem : Case) (report : AnswerReport) : Verdict :=
  let reasons := (if problem.isImpossible then [answeredImpossible problem] else []) ++
    report.violations.map .violated
  if reasons.isEmpty then .ok else .fail reasons

/-- The remarks on a claimed solution. -/
def answerNotes (report : AnswerReport) : List Note :=
  report.warnings.map .warning ++ (if report.copiesChecked then [] else [.copiesUnavailable])

/-- The verdict on a refusal of a well-formed case. -/
def judgeRefusal (problem : Case) : Diagnostic → Verdict
  | .unreadableInput => .runError .unreadableInput "solver could not open its input file"
  | .malformedInput => .fail [.rejectedWellFormed]
  | .targetTooSmall =>
    if problem.targetTooSmall then .impossible
    else .fail [.rejectedAsTooSmall problem.target.order problem.pattern.order]
  | .impossibleCopies =>
    if problem.isImpossible then .impossible
    else .fail [.rejectedAsTooMany problem.copies.toNat problem.target.order
      problem.pattern.order problem.maxImages]
  | .noSolution => .noSolution problem.isImpossible

/-- The verdict on a run of a malformed input, which the solver should reject. -/
def judgeMalformed (error : InputError) (capture : Capture) : Option Diagnostic → Verdict
  | some .malformedInput => .ok
  | some .unreadableInput => .runError .unreadableInput capture.excerpt
  | _ => .fail [.acceptedMalformed error]

/-- The judgement on a solver that exited normally, given a case. -/
def ofOutput (strict : Bool) (problem : Case) (capture : Capture)
    (diagnostic : Option Diagnostic) (time : Option Duration) : Judgement :=
  match Claim.read problem.sizes capture.stdout with
  | .ok .notFound =>
    ⟨.noSolution problem.isImpossible, [.pending, .ran, .parsedOk, .verified], none, time, []⟩
  | .ok (.found answer) =>
    let report := answer.report problem strict
    ⟨judgeAnswer problem report, [.pending, .ran, .parsedOk, .verified], some answer.cost, time,
      answerNotes report⟩
  | .error error =>
    match diagnostic with
    | some refusal =>
      ⟨judgeRefusal problem refusal, [.pending, .ran, .parseFailed, .verified], none, time, []⟩
    | none => ⟨.parseError error, [.pending, .ran, .parseFailed], none, time, []⟩

/-- The judgement on a solver that exited with a failure, given a case. -/
def ofFailure (problem : Case) (capture : Capture) (diagnostic : Option Diagnostic)
    (time : Option Duration) : Judgement :=
  match diagnostic with
  | some refusal => ⟨judgeRefusal problem refusal, [.pending, .ran, .verified], none, time, []⟩
  | none =>
    ⟨.runError (.exit capture.status) capture.excerpt, [.pending, .ran, .processErrored], none,
      time, []⟩

/-- The judgement on a solver that exited. -/
def ofCapture (strict : Bool) (input : Except InputError Case) (capture : Capture) : Judgement :=
  let time := some ((Timing.reported? capture.stdout).getD capture.elapsed)
  let diagnostic := Diagnostic.recognise? (capture.stdout ++ '\n' :: capture.stderr)
  match input with
  | .error error =>
    let notes := if diagnostic = some .malformedInput then [.rejectedMalformed error] else []
    ⟨judgeMalformed error capture diagnostic, [.pending, .ran, .verified], none, time, notes⟩
  | .ok problem =>
    if capture.status = some 0 then ofOutput strict problem capture diagnostic time
    else ofFailure problem capture diagnostic time

/-- The judgement on a run of an input; `strict` makes the order of the copies a fault. -/
def ofRun (strict : Bool) (input : Except InputError Case) : RunOutcome → Judgement
  | .timedOut elapsed => ⟨.timeout, [.pending, .ran, .timedOut], none, some elapsed, []⟩
  | .failed fault detail =>
    ⟨.runError fault detail, [.pending, .processErrored], none, none, []⟩
  | .completed capture => ofCapture strict input capture

end Judgement

end CopyOracle
