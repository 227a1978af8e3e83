import CopyOracle.Proofs.Answer.Check
import CopyOracle.Proofs.Graph.Cost
/-!
# Checking up to the first fault and for a report

The checks of an answer are made one after the other. Up to the first fault, that fault ends them
and remarks are dropped; for a report, faults and remarks are collected and every check is made.
Both are one pass through the list of checks: what ends the one pass is the first fault that the
other collects, and both recompute the same cost. Only the check of the order looks at the
strictness, and it comes last, so a strict report has the remarks of a lenient one as its last
faults.
-/

namespace CopyOracle

/-- What is done with what a check finds. -/
inductive Checking where
  /-- The first fault ends the checks, and remarks are dropped. -/
  | upToFault
  /-- Faults and remarks are collected. -/
  | forReport
deriving DecidableEq, Repr

/-- What the checks made so far have found. -/
structure Findings where
  /-- The recomputed cost. -/
  actualCost : Option UInt64
  /-- The collected faults. -/
  violations : List AnswerViolation
  /-- The collected remarks. -/
  warnings : List AnswerViolation
deriving DecidableEq, Repr

namespace Checking

/-- The findings with a fault, or the fault that ends the checks. -/
def fault : Checking → Findings → AnswerViolation → Findings × Option AnswerViolation
  | .upToFault, found, violation => (found, some violation)
  | .forReport, found, violation =>
    ({ found with violations := found.violations ++ [violation] }, none)

/-- The findings with a remark. -/
def remark : Checking → Findings → AnswerViolation → Findings
  | .upToFault, found, _ => found
  | .forReport, found, violation => { found with warnings := found.warnings ++ [violation] }

end Checking

namespace Answer

/-- The findings after one more check, and the fault that ends the checks if it does. -/
def makeCheck (mode : Checking) (problem : Case) (strict : Bool) (answer : Answer)
    (found : Findings) : AnswerCheck → Findings × Option AnswerViolation
  | .cost =>
    let cost := problem.target.checkCost answer.extended answer.cost
    let priced := { found with actualCost := (actualCost? cost).or found.actualCost }
    match cost with
    | .ok _ => (priced, none)
    | .error violation => mode.fault priced (.cost violation)
  | .copies =>
    match answer.checkCopies problem with
    | .ok _ => (found, none)
    | .error violation => mode.fault found violation
  | .canonicalOrder =>
    match answer.checkOrder with
    | .ok _ => (found, none)
    | .error violation =>
      if strict then mode.fault found violation else (mode.remark found violation, none)

/-- The findings of checks made in order, and the fault that ended them if one did. -/
def makeChecks (mode : Checking) (problem : Case) (strict : Bool) (answer : Answer) :
    List AnswerCheck → Findings → Findings × Option AnswerViolation
  | [], found => (found, none)
  | check :: later, found =>
    match makeCheck mode problem strict answer found check with
    | (found, none) => makeChecks mode problem strict answer later found
    | (found, some violation) => (found, some violation)

/-- The recomputed cost after a pass, or the fault that ended it. -/
def costOrFault : Findings × Option AnswerViolation → Except AnswerViolation UInt64
  | (found, none) => .ok (found.actualCost.getD 0)
  | (_, some violation) => .error violation

variable (problem : Case) (answer : Answer) (strict : Bool)

/-- The check up to the first fault is the pass that the first fault ends. -/
theorem check_eq_makeChecks : answer.check problem strict = costOrFault
    (makeChecks .upToFault problem strict answer AnswerCheck.all ⟨none, [], []⟩) := by
  simp only [check, AnswerCheck.all, makeChecks, makeCheck, Checking.fault, Checking.remark]
  cases problem.target.checkCost answer.extended answer.cost with
  | error violation => rfl
  | ok cost =>
    cases answer.checkCopies problem with
    | error violation => rfl
    | ok copied =>
      cases answer.checkOrder <;> cases strict <;> rfl

/-- The report is what the pass for a report collects. -/
theorem report_eq_makeChecks : answer.report problem strict =
    let found := (makeChecks .forReport problem strict answer AnswerCheck.all ⟨none, [], []⟩).1
    ⟨found.actualCost, found.violations, found.warnings, answer.copies.isSome⟩ := by
  simp only [report, AnswerCheck.all, makeChecks, makeCheck, Checking.fault, Checking.remark]
  cases problem.target.checkCost answer.extended answer.cost <;>
    cases answer.checkCopies problem <;> cases answer.checkOrder <;> cases strict <;>
    simp [faults, Except.mapError]

/-- What the two passes leave after the same checks: the first of the collected faults has ended the
one pass, or there is none and the costs are the same. -/
inductive Agree : Findings × Option AnswerViolation → List AnswerViolation → Option UInt64 → Prop
  /-- The first collected fault has ended the pass. -/
  | ended (found : Findings) (violation : AnswerViolation) (more : List AnswerViolation)
    (cost : Option UInt64) : Agree (found, some violation) (violation :: more) cost
  /-- Nothing has been collected. -/
  | unfaulted {found : Findings} {cost : Option UInt64} (same : found.actualCost = cost) :
    Agree (found, none) [] cost

/-- Nothing ends a pass for a report. -/
theorem makeCheck_forReport_goesOn (found : Findings) (check : AnswerCheck) :
    (makeCheck .forReport problem strict answer found check).2 = none := by
  cases check with
  | cost =>
    rw [makeCheck]
    cases problem.target.checkCost answer.extended answer.cost <;> rfl
  | copies =>
    rw [makeCheck]
    cases answer.checkCopies problem <;> rfl
  | canonicalOrder =>
    rw [makeCheck]
    cases answer.checkOrder <;> cases strict <;> rfl

/-- One check keeps the two passes in agreement. -/
theorem makeCheck_agree {found gathered : Findings}
    (same : found.actualCost = gathered.actualCost) (check : AnswerCheck) : ∃ more,
    (makeCheck .forReport problem strict answer gathered check).1.violations =
      gathered.violations ++ more ∧
    Agree (makeCheck .upToFault problem strict answer found check) more
      (makeCheck .forReport problem strict answer gathered check).1.actualCost := by
  have passed : Agree (found, none) [] gathered.actualCost := .unfaulted same
  cases check with
  | cost =>
    simp only [makeCheck]
    cases problem.target.checkCost answer.extended answer.cost with
    | ok cost => exact ⟨[], (List.append_nil _).symm, .unfaulted (by rw [same])⟩
    | error violation => exact ⟨[.cost violation], rfl, .ended _ _ [] _⟩
  | copies =>
    simp only [makeCheck]
    cases answer.checkCopies problem with
    | ok copied => exact ⟨[], (List.append_nil _).symm, passed⟩
    | error violation => exact ⟨[violation], rfl, .ended _ _ [] _⟩
  | canonicalOrder =>
    simp only [makeCheck]
    cases answer.checkOrder with
    | ok ordered => exact ⟨[], (List.append_nil _).symm, passed⟩
    | error violation =>
      cases strict with
      | true => exact ⟨[violation], rfl, .ended _ _ [] _⟩
      | false => exact ⟨[], (List.append_nil _).symm, passed⟩

/-- A pass for a report goes on with what each check leaves. -/
theorem makeChecks_forReport_cons (check : AnswerCheck) (later : List AnswerCheck)
    (found : Findings) :
    makeChecks .forReport problem strict answer (check :: later) found =
      makeChecks .forReport problem strict answer later
        (makeCheck .forReport problem strict answer found check).1 := by
  have goesOn := makeCheck_forReport_goesOn problem answer strict found check
  rw [makeChecks]
  split
  · next found' made => rw [made]
  · next found' violation made =>
    rw [made] at goesOn
    contradiction

/-- All checks keep the two passes in agreement. -/
theorem makeChecks_agree (checks : List AnswerCheck) {found gathered : Findings}
    (same : found.actualCost = gathered.actualCost) : ∃ more,
    (makeChecks .forReport problem strict answer checks gathered).1.violations =
      gathered.violations ++ more ∧
    Agree (makeChecks .upToFault problem strict answer checks found) more
      (makeChecks .forReport problem strict answer checks gathered).1.actualCost := by
  induction checks generalizing found gathered with
  | nil => exact ⟨[], (List.append_nil _).symm, .unfaulted same⟩
  | cons check later ih =>
    obtain ⟨first, collected, agree⟩ := makeCheck_agree problem answer strict same check
    rw [makeChecks_forReport_cons, makeChecks]
    generalize made : makeCheck .upToFault problem strict answer found check = step at agree ⊢
    cases agree with
    | ended ended violation rest =>
      -- The other pass goes on alone, and what it collects comes behind this fault.
      obtain ⟨more, grown, _⟩ :=
        @ih (makeCheck .forReport problem strict answer gathered check).1 _ rfl
      refine ⟨violation :: rest ++ more, ?_, .ended ended violation _ _⟩
      rw [grown, collected, List.append_assoc]
    | unfaulted kept =>
      obtain ⟨more, grown, agree⟩ := ih kept
      refine ⟨more, ?_, agree⟩
      rw [grown, collected, List.append_nil]

/-- The strict findings are the lenient ones with the remarks as last faults. -/
structure Promotes (strictly leniently : Findings) : Prop where
  /-- The remarks follow the faults. -/
  violations : strictly.violations = leniently.violations ++ leniently.warnings
  /-- No remark is left. -/
  warnings : strictly.warnings = []
  /-- The recomputed cost is the same. -/
  cost : strictly.actualCost = leniently.actualCost

/-- A check of another thing than the order does not look at the strictness and remarks nothing. -/
theorem makeCheck_lenient {check : AnswerCheck} (other : check ≠ .canonicalOrder)
    (found : Findings) :
    makeCheck .forReport problem true answer found check =
      makeCheck .forReport problem false answer found check ∧
    (makeCheck .forReport problem false answer found check).1.warnings = found.warnings := by
  cases check with
  | cost =>
    refine ⟨rfl, ?_⟩
    rw [makeCheck]
    cases problem.target.checkCost answer.extended answer.cost <;> rfl
  | copies =>
    refine ⟨rfl, ?_⟩
    rw [makeCheck]
    cases answer.checkCopies problem <;> rfl
  | canonicalOrder => contradiction

/-- When the order is checked last, strictness makes the remarks the last faults. -/
theorem makeChecks_promotes {checks : List AnswerCheck}
    (others : ∀ check ∈ checks, check ≠ .canonicalOrder) {found : Findings}
    (silent : found.warnings = []) : Promotes
      (makeChecks .forReport problem true answer (checks ++ [.canonicalOrder]) found).1
      (makeChecks .forReport problem false answer (checks ++ [.canonicalOrder]) found).1 := by
  induction checks generalizing found with
  | nil =>
    simp only [List.nil_append, makeChecks_forReport_cons, makeChecks, makeCheck]
    cases answer.checkOrder with
    | ok ordered => exact ⟨by rw [silent, List.append_nil], silent, rfl⟩
    | error violation =>
      refine ⟨?_, silent, rfl⟩
      simp [Checking.fault, Checking.remark, silent]
  | cons check later ih =>
    obtain ⟨same, kept⟩ := makeCheck_lenient problem answer
      (others check List.mem_cons_self) found
    rw [List.cons_append, makeChecks_forReport_cons, makeChecks_forReport_cons, same]
    exact ih (fun other member => others other (List.mem_cons_of_mem _ member))
      (kept.trans silent)

/-- The cost in a report is the cost of the extension, whatever cost was reported. -/
theorem actualCost?_checkCost {base extended : Graph} {reported cost : UInt64} :
    actualCost? (base.checkCost extended reported) = some cost ↔
      base.extensionCost extended = .ok cost := by
  rw [Graph.checkCost]
  cases priced : base.extensionCost extended with
  | ok actual =>
    by_cases same : actual = reported
    · simp [bind, Except.bind, actualCost?, same]
    · simp [bind, Except.bind, actualCost?, same]
  | error violation =>
    -- Comparing the costs is the one fault that carries a cost, and no cost was computed here.
    cases Graph.extensionCost_eq_error_iff.mp priced with
    | orderMismatch _ => simp [bind, Except.bind, actualCost?]
    | edgeRemoved _ _ _ _ _ => simp [bind, Except.bind, actualCost?]

/-- A report without faults has a cost. -/
theorem exists_actualCost (unfaulted : (answer.report problem strict).violations = []) :
    ∃ cost, (answer.report problem strict).actualCost = some cost := by
  rw [report, List.append_eq_nil_iff, List.append_eq_nil_iff, faults_eq_nil_iff] at unfaulted
  obtain ⟨⟨⟨cost, priced⟩, _⟩, _⟩ := unfaulted
  refine ⟨cost, ?_⟩
  rw [report, mapError_eq_ok_iff.mp priced]
  rfl

/-- The check up to the first fault agrees with the report. -/
theorem check_report_agree : ∃ pass, answer.check problem strict = costOrFault pass ∧
    Agree pass (answer.report problem strict).violations
      (answer.report problem strict).actualCost := by
  have same : (⟨none, [], []⟩ : Findings).actualCost = (⟨none, [], []⟩ : Findings).actualCost := rfl
  obtain ⟨more, collected, agree⟩ :=
    makeChecks_agree problem answer strict AnswerCheck.all same
  rw [List.nil_append] at collected
  rw [← collected] at agree
  rw [report_eq_makeChecks]
  exact ⟨_, check_eq_makeChecks problem answer strict, agree⟩

/-- What the check up to the first fault and the two reports of an answer have in common. -/
structure CheckersAgree (problem : Case) (answer : Answer) : Prop where
  /-- The first fault is the head of the reported faults. -/
  fails : ∀ strict violation, answer.check problem strict = .error violation ↔
    (answer.report problem strict).violations.head? = some violation
  /-- A cost is returned exactly when no fault is reported and it is the reported cost. -/
  passes : ∀ strict cost, answer.check problem strict = .ok cost ↔
    (answer.report problem strict).violations = [] ∧
      (answer.report problem strict).actualCost = some cost
  /-- A report has a cost exactly when the extension has one, and it is that one. -/
  priced : ∀ strict cost, (answer.report problem strict).actualCost = some cost ↔
    problem.target.extensionCost answer.extended = .ok cost
  /-- The faults of the strict report are those of the lenient one and then its remarks. -/
  promoted : (answer.report problem true).violations =
    (answer.report problem false).violations ++ (answer.report problem false).warnings
  /-- The strict report has no remarks. -/
  silent : (answer.report problem true).warnings = []
  /-- The two reports have the same cost. -/
  cost : (answer.report problem true).actualCost = (answer.report problem false).actualCost
  /-- The two reports have checked copies or not alike. -/
  copies : (answer.report problem true).copiesChecked =
    (answer.report problem false).copiesChecked

/-- For every case and answer, the check up to the first fault and the report decide alike, and
strictness moves the finding about the order from the remarks to the end of the faults. -/
theorem checkers_agree : CheckersAgree problem answer := by
  have last : Promotes
      (makeChecks .forReport problem true answer AnswerCheck.all ⟨none, [], []⟩).1
      (makeChecks .forReport problem false answer AnswerCheck.all ⟨none, [], []⟩).1 := by
    have others : ∀ check ∈ [AnswerCheck.cost, .copies], check ≠ .canonicalOrder := by decide
    exact makeChecks_promotes problem answer others rfl
  refine ⟨fun strict violation => ?_, fun strict cost => ?_,
    fun strict cost => actualCost?_checkCost, ?_, ?_, ?_, rfl⟩
  · obtain ⟨pass, checked, agree⟩ := check_report_agree problem answer strict
    rw [checked]
    generalize (answer.report problem strict).violations = violations at agree ⊢
    cases agree <;> simp [costOrFault]
  · obtain ⟨pass, checked, agree⟩ := check_report_agree problem answer strict
    have priced := exists_actualCost problem answer strict
    rw [checked]
    generalize (answer.report problem strict).violations = violations at agree priced ⊢
    cases agree with
    | ended => simp [costOrFault]
    | unfaulted same =>
      obtain ⟨actual, found⟩ := priced rfl
      simp [costOrFault, same, found]
  · rw [report_eq_makeChecks, report_eq_makeChecks]
    exact last.violations
  · rw [report_eq_makeChecks]
    exact last.warnings
  · rw [report_eq_makeChecks, report_eq_makeChecks]
    exact last.cost

end Answer

end CopyOracle
