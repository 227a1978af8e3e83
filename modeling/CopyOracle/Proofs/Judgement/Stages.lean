import CopyOracle.Judgement.Basic
import Mathlib.Data.List.Chain
/-!
# The stages that lead to a verdict

A judgement is a list of stages, a verdict, and what was noticed on the way, and each of them is
set in another place. `Verdict.ReachedAt` is the table of the stages at which each verdict is
reached; every way through the judgement of a run ends in a row of it, after stages each of which
may follow the one before. `Judgement.Coherent` says of a whole judgement that its parts agree with
each other and with the run, and every judgement is coherent, for a case as for a malformed input.
-/

namespace CopyOracle

/-- The stages start before the run, and each may follow the one before it. -/
structure Stage.Legal (stages : List Stage) : Prop where
  /-- The first stage is that before the run. -/
  starts : stages.head? = some .pending
  /-- Each stage may follow the one before it. -/
  follows : stages.IsChain fun stage next => stage.canAdvanceTo next = true

instance (stages : List Stage) : Decidable (Stage.Legal stages) :=
  decidable_of_iff (stages.head? = some .pending ∧
      stages.IsChain fun stage next => stage.canAdvanceTo next = true)
    ⟨fun legal => ⟨legal.1, legal.2⟩, fun legal => ⟨legal.starts, legal.follows⟩⟩

/-- The verdicts and the stages at which they are reached. -/
inductive Verdict.ReachedAt : Verdict → Stage → Prop
  /-- The time ran out. -/
  | timeout : ReachedAt .timeout .timedOut
  /-- The output could not be read. -/
  | parseError (error : AnswerError) : ReachedAt (.parseError error) .parseFailed
  /-- The solver could not be run, or failed in an unknown way. -/
  | runError (fault : RunFault) (detail : String) :
    ReachedAt (.runError fault detail) .processErrored
  /-- The solver said that it could not open its input. -/
  | unreadableInput (detail : String) : ReachedAt (.runError .unreadableInput detail) .verified
  /-- What the solver said is right. -/
  | ok : ReachedAt .ok .verified
  /-- What the solver said is wrong, for some reason. -/
  | fail {reasons : List Reason} (given : reasons ≠ []) : ReachedAt (.fail reasons) .verified
  /-- The solver found no solution. -/
  | noSolution (expected : Bool) : ReachedAt (.noSolution expected) .verified
  /-- The solver refused a case without a solution. -/
  | impossible : ReachedAt .impossible .verified

namespace Verdict.ReachedAt

variable {verdict : Verdict} {stage : Stage}

/-- Only a timeout ends where the time ran out. -/
theorem timedOut_iff (reached : ReachedAt verdict stage) :
    stage = .timedOut ↔ verdict = .timeout := by
  cases reached <;> simp

/-- Only an unreadable output ends where the output could not be read. -/
theorem parseFailed_iff (reached : ReachedAt verdict stage) :
    stage = .parseFailed ↔ ∃ error, verdict = .parseError error := by
  cases reached <;> simp

/-- Only a failed run ends where the run failed. -/
theorem of_processErrored (reached : ReachedAt verdict .processErrored) :
    ∃ fault detail, verdict = .runError fault detail := by
  cases reached with
  | runError fault detail => exact ⟨fault, detail, rfl⟩

/-- The only failed run that is verified is that of a solver that could not open its input. -/
theorem unreadable {fault : RunFault} {detail : String}
    (reached : ReachedAt (.runError fault detail) .verified) : fault = .unreadableInput := by
  cases reached with
  | unreadableInput => rfl

/-- A right answer is reached at the last stage only. -/
theorem verified_of_ok (reached : ReachedAt .ok stage) : stage = .verified := by
  cases reached with
  | ok => rfl

/-- A wrong claim is reached at the last stage only, and for some reason. -/
theorem verified_of_fail {reasons : List Reason} (reached : ReachedAt (.fail reasons) stage) :
    stage = .verified ∧ reasons ≠ [] := by
  cases reached with
  | fail given => exact ⟨rfl, given⟩

/-- A claim that there is no solution is reached at the last stage only. -/
theorem verified_of_noSolution {expected : Bool}
    (reached : ReachedAt (.noSolution expected) stage) : stage = .verified := by
  cases reached with
  | noSolution => rfl

/-- A right refusal is reached at the last stage only. -/
theorem verified_of_impossible (reached : ReachedAt .impossible stage) : stage = .verified := by
  cases reached with
  | impossible => rfl

end Verdict.ReachedAt

namespace Judgement

/-- The solver exited with success on a case, and what it printed claims an answer of the cost. -/
def Claims (input : Except InputError Case) (run : RunOutcome) (cost : UInt64) : Prop :=
  ∃ problem capture answer, input = .ok problem ∧ run = .completed capture ∧
    capture.status = some 0 ∧
    Claim.read problem.sizes capture.stdout = .ok (.found answer) ∧ answer.cost = cost

/-- The parts of a judgement agree with each other and with what was judged. -/
structure Coherent (input : Except InputError Case) (run : RunOutcome) (judgement : Judgement) :
    Prop where
  /-- The stages are a run of the stage machine. -/
  legal : Stage.Legal judgement.stages
  /-- The last stage is that of a timeout exactly for that verdict. -/
  timedOut : judgement.stage = .timedOut ↔ judgement.verdict = .timeout
  /-- The last stage is that of an unreadable output exactly for that verdict. -/
  parseFailed : judgement.stage = .parseFailed ↔ ∃ error, judgement.verdict = .parseError error
  /-- The last stage is that of a failed run only for that verdict. -/
  processErrored : judgement.stage = .processErrored →
    ∃ fault detail, judgement.verdict = .runError fault detail
  /-- A failed run that was verified could not open its input. -/
  verifiedFault : ∀ fault detail, judgement.verdict = .runError fault detail →
    judgement.stage = .verified → fault = .unreadableInput
  /-- A right answer is verified. -/
  ok : judgement.verdict = .ok → judgement.stage = .verified
  /-- A wrong claim is verified, and for some reason. -/
  fail : ∀ reasons, judgement.verdict = .fail reasons →
    judgement.stage = .verified ∧ reasons ≠ []
  /-- A claim that there is no solution is verified. -/
  noSolution : ∀ expected, judgement.verdict = .noSolution expected → judgement.stage = .verified
  /-- A right refusal is verified. -/
  impossible : judgement.verdict = .impossible → judgement.stage = .verified
  /-- The cost is that of the answer that the solver claims, when it claims one. -/
  cost : ∀ cost, judgement.cost = some cost ↔ Claims input run cost
  /-- A claimed answer is read and verified. -/
  answered : judgement.cost.isSome →
    judgement.stages = [.pending, .ran, .parsedOk, .verified]
  /-- There is no time exactly when the solver could not be run. -/
  time : judgement.time = none ↔ ∃ fault detail, run = .failed fault detail
  /-- A malformed input has no answer to read and no solution to have. -/
  malformed : ∀ error, input = .error error → (∀ fault, judgement.verdict ≠ .parseError fault) ∧
    (∀ expected, judgement.verdict ≠ .noSolution expected) ∧ judgement.verdict ≠ .impossible

variable {input : Except InputError Case} {run : RunOutcome} {strict : Bool} {problem : Case}
  {capture : Capture}

/-- A judgement is coherent when its verdict is reached at its last stage and its other parts fit
the run. -/
theorem Coherent.of_reachedAt {verdict : Verdict} {stages : List Stage} {reported : Option UInt64}
    {time : Option Duration} {notes : List Note} (legal : Stage.Legal stages)
    (reached : verdict.ReachedAt (stages.getLast?.getD .pending))
    (cost : ∀ cost, reported = some cost ↔ Claims input run cost)
    (answered : reported.isSome → stages = [.pending, .ran, .parsedOk, .verified])
    (timed : time = none ↔ ∃ fault detail, run = .failed fault detail)
    (malformed : ∀ error, input = .error error → (∀ fault, verdict ≠ .parseError fault) ∧
      (∀ expected, verdict ≠ .noSolution expected) ∧ verdict ≠ .impossible) :
    Coherent input run ⟨verdict, stages, reported, time, notes⟩ where
  legal := legal
  timedOut := reached.timedOut_iff
  parseFailed := reached.parseFailed_iff
  processErrored last := Verdict.ReachedAt.of_processErrored (last ▸ reached)
  verifiedFault fault detail same last := by
    obtain rfl : verdict = .runError fault detail := same
    have last : stages.getLast?.getD .pending = .verified := last
    exact (last ▸ reached).unreadable
  ok same := by
    obtain rfl : verdict = .ok := same
    exact reached.verified_of_ok
  fail reasons same := by
    obtain rfl : verdict = .fail reasons := same
    exact reached.verified_of_fail
  noSolution expected same := by
    obtain rfl : verdict = .noSolution expected := same
    exact reached.verified_of_noSolution
  impossible same := by
    obtain rfl : verdict = .impossible := same
    exact reached.verified_of_impossible
  cost := cost
  answered := answered
  time := timed
  malformed := malformed

/-- A claimed answer is judged right, or wrong for some reason. -/
theorem judgeAnswer_reachedAt (problem : Case) (report : AnswerReport) :
    (judgeAnswer problem report).ReachedAt .verified := by
  dsimp only [judgeAnswer]
  generalize (if problem.isImpossible then [answeredImpossible problem] else []) ++
    report.violations.map .violated = reasons
  cases reasons with
  | nil => exact .ok
  | cons first others => exact .fail (List.cons_ne_nil first others)

/-- A refusal of a case is judged at the last stage. -/
theorem judgeRefusal_reachedAt (problem : Case) (refusal : Diagnostic) :
    (judgeRefusal problem refusal).ReachedAt .verified := by
  cases refusal with
  | unreadableInput => exact .unreadableInput _
  | malformedInput => exact .fail (List.cons_ne_nil _ _)
  | targetTooSmall =>
    rw [judgeRefusal]
    split
    · exact .impossible
    · exact .fail (List.cons_ne_nil _ _)
  | impossibleCopies =>
    rw [judgeRefusal]
    split
    · exact .impossible
    · exact .fail (List.cons_ne_nil _ _)
  | noSolution => exact .noSolution _

/-- A run of a malformed input is judged at the last stage. -/
theorem judgeMalformed_reachedAt (error : InputError) (capture : Capture)
    (diagnostic : Option Diagnostic) :
    (judgeMalformed error capture diagnostic).ReachedAt .verified := by
  rw [judgeMalformed.eq_def]
  split
  · exact .ok
  · exact .unreadableInput _
  · exact .fail (List.cons_ne_nil _ _)

/-- A run of a malformed input is never judged as if there were a case. -/
theorem judgeMalformed_ne (error : InputError) (capture : Capture)
    (diagnostic : Option Diagnostic) :
    (∀ fault, judgeMalformed error capture diagnostic ≠ .parseError fault) ∧
      (∀ expected, judgeMalformed error capture diagnostic ≠ .noSolution expected) ∧
      judgeMalformed error capture diagnostic ≠ .impossible := by
  rw [judgeMalformed.eq_def]
  split <;> simp

/-- A solver that exited with success claims what it printed. -/
theorem claims_iff_of_success (success : capture.status = some 0) {cost : UInt64} :
    Claims (.ok problem) (.completed capture) cost ↔ ∃ answer,
      Claim.read problem.sizes capture.stdout = .ok (.found answer) ∧ answer.cost = cost := by
  constructor
  · rintro ⟨_, _, answer, ⟨⟩, ⟨⟩, _, claimed, same⟩
    exact ⟨answer, claimed, same⟩
  · rintro ⟨answer, claimed, same⟩
    exact ⟨problem, capture, answer, rfl, rfl, success, claimed, same⟩

/-- The judgement on a solver that exited with success is coherent: its output is read, and what is
in it or the lack of it is judged. -/
theorem ofOutput_coherent (strict : Bool) (success : capture.status = some 0)
    (diagnostic : Option Diagnostic) (elapsed : Duration) :
    Coherent (.ok problem) (.completed capture)
      (ofOutput strict problem capture diagnostic (some elapsed)) := by
  rw [ofOutput]
  split
  · next claimed =>
    refine .of_reachedAt (by decide) (.noSolution _) (fun cost => ?_) (by simp) (by simp) (by simp)
    simp [claims_iff_of_success success, claimed]
  · next answer claimed =>
    refine .of_reachedAt (by decide) (judgeAnswer_reachedAt _ _) (fun cost => ?_) (fun _ => rfl)
      (by simp) (by simp)
    simp [claims_iff_of_success success, claimed]
  · next error unread =>
    have silent (cost : UInt64) : ¬Claims (.ok problem) (.completed capture) cost := by
      simp [claims_iff_of_success success, unread]
    split
    · exact .of_reachedAt (by decide) (judgeRefusal_reachedAt _ _) (by simp [silent]) (by simp)
        (by simp) (by simp)
    · exact .of_reachedAt (by decide) (.parseError _) (by simp [silent]) (by simp) (by simp)
        (by simp)

/-- The judgement on a solver that exited with a failure is coherent: it claims nothing. -/
theorem ofFailure_coherent (failed : capture.status ≠ some 0) (diagnostic : Option Diagnostic)
    (elapsed : Duration) :
    Coherent (.ok problem) (.completed capture)
      (ofFailure problem capture diagnostic (some elapsed)) := by
  have silent (cost : UInt64) : ¬Claims (.ok problem) (.completed capture) cost := by
    rintro ⟨_, _, _, ⟨⟩, ⟨⟩, success, _⟩
    exact failed success
  rw [ofFailure.eq_def]
  split
  · exact .of_reachedAt (by decide) (judgeRefusal_reachedAt _ _) (by simp [silent]) (by simp)
      (by simp) (by simp)
  · exact .of_reachedAt (by decide) (.runError _ _) (by simp [silent]) (by simp) (by simp)
      (by simp)

/-- The judgement on a solver that exited is coherent. -/
theorem ofCapture_coherent (strict : Bool) (input : Except InputError Case) (capture : Capture) :
    Coherent input (.completed capture) (ofCapture strict input capture) := by
  cases input with
  | error error =>
    have silent (cost : UInt64) : ¬Claims (.error error) (.completed capture) cost := by
      rintro ⟨_, _, _, ⟨⟩, _⟩
    exact .of_reachedAt (by decide) (judgeMalformed_reachedAt _ _ _) (by simp [silent]) (by simp)
      (by simp) fun _ _ => judgeMalformed_ne _ _ _
  | ok problem =>
    rw [ofCapture]
    split
    · next success => exact ofOutput_coherent strict success _ _
    · next failed => exact ofFailure_coherent failed _ _

/-- Every judgement is coherent: its stages are a run of the stage machine, its verdict is one of
those that are reached at the last stage, and its cost and time are those of the run. -/
theorem ofRun_coherent (strict : Bool) (input : Except InputError Case) (run : RunOutcome) :
    Coherent input run (ofRun strict input run) := by
  cases run with
  | timedOut elapsed =>
    have silent (cost : UInt64) : ¬Claims input (.timedOut elapsed) cost := by
      rintro ⟨_, _, _, _, ⟨⟩, _⟩
    exact .of_reachedAt (by decide) .timeout (by simp [silent]) (by simp) (by simp) (by simp)
  | failed fault detail =>
    have silent (cost : UInt64) : ¬Claims input (.failed fault detail) cost := by
      rintro ⟨_, _, _, _, ⟨⟩, _⟩
    exact .of_reachedAt (by decide) (.runError _ _) (by simp [silent]) (by simp) (by simp)
      (by simp)
  | completed capture => exact ofCapture_coherent strict input capture

end Judgement

end CopyOracle
