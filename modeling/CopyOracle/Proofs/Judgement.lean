import CopyOracle.Judgement.Basic
import CopyOracle.Proofs.Answer.Check
import CopyOracle.Proofs.Case
/-!
# Which runs pass

A run of a solver on a well-formed case passes for one of two reasons. Either the solver exited
with success and printed an answer that solves a satisfiable case, or the case is not satisfiable
and the solver refused it in words that fit the case. `RightAnswer` and `RightRefusal` state the
two reasons about the case and what was captured, without the stages of the judgement.
-/

namespace CopyOracle

namespace Judgement

/-- The solver exited with success and printed an answer that solves the satisfiable case. -/
structure RightAnswer (strict : Bool) (problem : Case) (capture : Capture) : Prop where
  /-- It exited with success. -/
  success : capture.status = some 0
  /-- The case has an answer. -/
  satisfiable : problem.Satisfiable
  /-- What it printed is an answer, and that answer solves the case. -/
  solved : ∃ answer, Claim.read problem.sizes capture.stdout = .ok (.found answer) ∧
    answer.Solves problem strict

/-- The diagnostic is a refusal that fits the case, provided the case has no answer. -/
def Refuses (problem : Case) (diagnostic : Diagnostic) : Prop :=
  diagnostic = .noSolution ∨ diagnostic = .impossibleCopies ∨
    diagnostic = .targetTooSmall ∧ problem.target.order < problem.pattern.order

/-- What the solver printed holds no claim about the case: it failed, or printed no answer. -/
def Unanswered (problem : Case) (capture : Capture) : Prop :=
  capture.status ≠ some 0 ∨ ∃ error, Claim.read problem.sizes capture.stdout = .error error

/-- The case has no answer, and the solver said so: by the claim that it found none after it
exited with success, or by a diagnostic where it made no claim. -/
structure RightRefusal (problem : Case) (capture : Capture) : Prop where
  /-- The case has no answer. -/
  unsatisfiable : ¬problem.Satisfiable
  /-- The solver said so. -/
  refused : (capture.status = some 0 ∧ Claim.read problem.sizes capture.stdout = .ok .notFound) ∨
    (Unanswered problem capture ∧ ∃ diagnostic,
      Diagnostic.recognise? (capture.stdout ++ '\n' :: capture.stderr) = some diagnostic ∧
        Refuses problem diagnostic)

/-- The verdict accepts a refusal. -/
def AcceptsRefusal (verdict : Verdict) : Prop :=
  verdict = .impossible ∨ verdict = .noSolution true

/-- A verdict passes when it accepts an answer or a refusal. -/
theorem isPass_eq_true_iff {verdict : Verdict} :
    verdict.isPass = true ↔ verdict = .ok ∨ AcceptsRefusal verdict := by
  cases verdict with
  | noSolution expected => cases expected <;> simp [Verdict.isPass, AcceptsRefusal]
  | _ => simp [Verdict.isPass, AcceptsRefusal]

variable {strict : Bool} {problem : Case} {capture : Capture}

/-- A claimed answer is accepted exactly when the case is satisfiable and no check failed. -/
theorem judgeAnswer_eq_ok_iff {report : AnswerReport} :
    judgeAnswer problem report = .ok ↔ problem.Satisfiable ∧ report.violations = [] := by
  rw [← Case.isImpossible_eq_false_iff, judgeAnswer]
  cases problem.isImpossible <;> cases report.violations <;> simp

/-- A claimed answer is never judged as a refusal. -/
theorem not_acceptsRefusal_judgeAnswer (report : AnswerReport) :
    ¬AcceptsRefusal (judgeAnswer problem report) := by
  rw [judgeAnswer]
  cases problem.isImpossible <;> cases report.violations <;> simp [AcceptsRefusal]

/-- A diagnostic is accepted exactly when the case has no answer and the diagnostic fits it. -/
theorem acceptsRefusal_judgeRefusal_iff {diagnostic : Diagnostic} :
    AcceptsRefusal (judgeRefusal problem diagnostic) ↔
      ¬problem.Satisfiable ∧ Refuses problem diagnostic := by
  cases diagnostic with
  | unreadableInput => simp [judgeRefusal, AcceptsRefusal, Refuses]
  | malformedInput => simp [judgeRefusal, AcceptsRefusal, Refuses]
  | targetTooSmall =>
    by_cases small : problem.target.order < problem.pattern.order
    · have unsatisfiable : ¬problem.Satisfiable := fun fits => by
        have room := fits.room
        omega
      simp [judgeRefusal, AcceptsRefusal, Refuses, Case.targetTooSmall, small, unsatisfiable]
    · simp [judgeRefusal, AcceptsRefusal, Refuses, Case.targetTooSmall, small]
  | impossibleCopies =>
    rw [← Case.isImpossible_eq_true_iff, judgeRefusal]
    cases problem.isImpossible <;> simp [AcceptsRefusal, Refuses]
  | noSolution =>
    rw [← Case.isImpossible_eq_true_iff, judgeRefusal]
    cases problem.isImpossible <;> simp [AcceptsRefusal, Refuses]

/-- A diagnostic is never judged as an answer. -/
theorem judgeRefusal_ne_ok (diagnostic : Diagnostic) : judgeRefusal problem diagnostic ≠ .ok := by
  cases diagnostic <;> rw [judgeRefusal] <;> (try split) <;> simp

/-- An accepted claim that there is no solution needs a case without one. -/
theorem acceptsRefusal_noSolution_iff :
    AcceptsRefusal (.noSolution problem.isImpossible) ↔ ¬problem.Satisfiable := by
  rw [← Case.isImpossible_eq_true_iff]
  simp [AcceptsRefusal]

/-- An unanswered run is judged by its diagnostic alone: a failed exit and an unreadable text lead
to the same verdicts that accept something. -/
theorem unanswered_verdict (unanswered : Unanswered problem capture) :
    (ofRun strict (.ok problem) (.completed capture)).verdict ≠ .ok ∧
      (AcceptsRefusal (ofRun strict (.ok problem) (.completed capture)).verdict ↔
        ∃ diagnostic,
          Diagnostic.recognise? (capture.stdout ++ '\n' :: capture.stderr) = some diagnostic ∧
            ¬problem.Satisfiable ∧ Refuses problem diagnostic) := by
  simp only [ofRun, ofCapture]
  by_cases success : capture.status = some 0
  · obtain ⟨error, unread⟩ : ∃ error, Claim.read problem.sizes capture.stdout = .error error :=
      unanswered.resolve_left (not_not_intro success)
    simp only [if_pos success, ofOutput, unread]
    cases Diagnostic.recognise? (capture.stdout ++ '\n' :: capture.stderr) with
    | none => simp [AcceptsRefusal]
    | some diagnostic => simp [judgeRefusal_ne_ok, acceptsRefusal_judgeRefusal_iff]
  · simp only [if_neg success, ofFailure]
    cases Diagnostic.recognise? (capture.stdout ++ '\n' :: capture.stderr) with
    | none => simp [AcceptsRefusal]
    | some diagnostic => simp [judgeRefusal_ne_ok, acceptsRefusal_judgeRefusal_iff]

/-- The verdict on a solver that exited with success and made a claim. -/
theorem claimed_verdict (success : capture.status = some 0) {claim : Claim}
    (claimed : Claim.read problem.sizes capture.stdout = .ok claim) :
    (ofRun strict (.ok problem) (.completed capture)).verdict =
      match claim with
      | .notFound => .noSolution problem.isImpossible
      | .found answer => judgeAnswer problem (answer.report problem strict) := by
  simp only [ofRun, ofCapture, if_pos success, ofOutput, claimed]
  cases claim <;> rfl

/-- A run with a claim is not unanswered. -/
theorem not_unanswered (success : capture.status = some 0) {claim : Claim}
    (claimed : Claim.read problem.sizes capture.stdout = .ok claim) :
    ¬Unanswered problem capture := by
  rintro (failed | ⟨error, unread⟩)
  · exact failed success
  · simp [claimed] at unread

/-- An answer is accepted exactly when it is right. -/
theorem verdict_eq_ok_iff (bound : problem.target.order ≤ 2 ^ 16) :
    (ofRun strict (.ok problem) (.completed capture)).verdict = .ok ↔
      RightAnswer strict problem capture := by
  by_cases unanswered : Unanswered problem capture
  · refine iff_of_false (unanswered_verdict unanswered).1 fun right => ?_
    obtain ⟨answer, claimed, _⟩ := right.solved
    exact not_unanswered right.success claimed unanswered
  · have success : capture.status = some 0 := by
      by_contra failed
      exact unanswered (.inl failed)
    cases claimed : Claim.read problem.sizes capture.stdout with
    | error error => exact absurd (.inr ⟨error, claimed⟩) unanswered
    | ok claim =>
      rw [claimed_verdict success claimed]
      cases claim with
      | notFound =>
        refine iff_of_false (by simp) fun right => ?_
        obtain ⟨answer, found, _⟩ := right.solved
        simp [claimed] at found
      | found answer =>
        simp only [judgeAnswer_eq_ok_iff, Answer.report_violations_eq_nil_iff bound]
        constructor
        · rintro ⟨satisfiable, solves⟩
          exact ⟨success, satisfiable, answer, claimed, solves⟩
        · rintro ⟨_, satisfiable, other, found, solves⟩
          rw [claimed, Except.ok.injEq, Claim.found.injEq] at found
          subst found
          exact ⟨satisfiable, solves⟩

/-- A refusal is accepted exactly when it is right. -/
theorem acceptsRefusal_verdict_iff :
    AcceptsRefusal (ofRun strict (.ok problem) (.completed capture)).verdict ↔
      RightRefusal problem capture := by
  by_cases unanswered : Unanswered problem capture
  · rw [(unanswered_verdict unanswered).2]
    constructor
    · rintro ⟨diagnostic, recognised, unsatisfiable, refuses⟩
      exact ⟨unsatisfiable, .inr ⟨unanswered, diagnostic, recognised, refuses⟩⟩
    · rintro ⟨unsatisfiable, ⟨success, claimed⟩ | ⟨_, diagnostic, recognised, refuses⟩⟩
      · exact absurd unanswered (not_unanswered success claimed)
      · exact ⟨diagnostic, recognised, unsatisfiable, refuses⟩
  · have success : capture.status = some 0 := by
      by_contra failed
      exact unanswered (.inl failed)
    cases claimed : Claim.read problem.sizes capture.stdout with
    | error error => exact absurd (.inr ⟨error, claimed⟩) unanswered
    | ok claim =>
      rw [claimed_verdict success claimed]
      cases claim with
      | notFound =>
        rw [acceptsRefusal_noSolution_iff]
        exact ⟨fun unsatisfiable => ⟨unsatisfiable, .inl ⟨success, claimed⟩⟩,
          RightRefusal.unsatisfiable⟩
      | found answer =>
        refine iff_of_false (not_acceptsRefusal_judgeAnswer _) fun right => ?_
        rcases right.refused with ⟨_, notFound⟩ | ⟨silent, _⟩
        · simp [claimed] at notFound
        · exact unanswered silent

/-- A run on a case with at most `2 ^ 16` target vertices passes exactly when it answers the case
rightly or refuses it rightly, and its verdict says which of the two it did. -/
theorem passes_iff (strict : Bool) (problem : Case) (capture : Capture)
    (bound : problem.target.order ≤ 2 ^ 16) :
    ((ofRun strict (.ok problem) (.completed capture)).verdict.isPass = true ↔
      RightAnswer strict problem capture ∨ RightRefusal problem capture) ∧
    ((ofRun strict (.ok problem) (.completed capture)).verdict = .ok ↔
      RightAnswer strict problem capture) ∧
    (AcceptsRefusal (ofRun strict (.ok problem) (.completed capture)).verdict ↔
      RightRefusal problem capture) := by
  refine ⟨?_, verdict_eq_ok_iff bound, acceptsRefusal_verdict_iff⟩
  rw [isPass_eq_true_iff, verdict_eq_ok_iff bound, acceptsRefusal_verdict_iff]

/-- A report of two copies of an edge in a path passes as an answer, and the refusal of a third
copy of a triangle on three vertices passes as a refusal. -/
theorem passes_edge_and_triangle :
    (Graph.ofFn 3 fun _ _ => 0).order ≤ 2 ^ 16 ∧
    RightAnswer true
      ⟨.ofFn 2 fun u v => if u < v then 1 else 0, .ofFn 3 fun _ _ => 0, 2, by decide, by decide⟩
      ⟨("Koszt rozszerzenia: 2\nMapowania:\nKopia 1: 0->0, 1->1\nKopia 2: 0->1, 1->2\n" ++
        "Rozszerzony graf:\n[0] 0 1 0\n[1] 0 0 1\n[2] 0 0 0\n").toList, [], some 0, .zero⟩ ∧
    RightRefusal
      ⟨.ofFn 3 fun _ _ => 1, .ofFn 3 fun _ _ => 0, 2, by decide, by decide⟩
      ⟨[], "ERROR: Impossible - k > C(n2,n1)".toList, some 1, .zero⟩ :=
  ⟨by decide,
    (passes_iff true _ _ (by decide)).2.1.mp (by decide +kernel),
    (passes_iff true _ _ (by decide)).2.2.mp (.inl (by decide +kernel))⟩

end Judgement

end CopyOracle
