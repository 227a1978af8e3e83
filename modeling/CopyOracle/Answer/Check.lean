import CopyOracle.Answer.Basic
import CopyOracle.Embedding.Copies
import CopyOracle.Embedding.Order

/-!
# Checking an answer

Three checks decide about an answer, in this order: the extension and its cost, the copies, and
the canonical order of the copies. The last two need the copies and are passed over when the
answer has none. The order is a fault only where it is asked for strictly, and otherwise a
remark. An answer can be checked up to its first fault or for a report of all.
-/
namespace CopyOracle

/-- One of the checks of an answer. -/
inductive AnswerCheck where
  /-- The extension keeps the target and has the reported cost. -/
  | cost
  /-- The copies are as many distinct embeddings as were asked for. -/
  | copies
  /-- The copies are in canonical order. -/
  | canonicalOrder
deriving DecidableEq, Repr

/-- The checks in the order in which they are made. -/
def AnswerCheck.all : List AnswerCheck := [.cost, .copies, .canonicalOrder]

/-- A failed check. -/
inductive AnswerViolation where
  /-- The extension or its cost is wrong. -/
  | cost (violation : CostViolation)
  /-- The copies are wrong. -/
  | copies (violation : CopyViolation)
  /-- The copies are out of order. -/
  | order (violation : OrderViolation)
deriving DecidableEq, Repr

/-- The wording of a failed check. -/
def AnswerViolation.message : AnswerViolation → String
  | .cost violation => violation.message
  | .copies violation => violation.message
  | .order violation => violation.message

/-- All that the checks found. -/
structure AnswerReport where
  /-- The cost of the extension, when it is one. -/
  actualCost : Option UInt64
  /-- The faults, in the order of the checks. -/
  violations : List AnswerViolation
  /-- What is remarked without being a fault. -/
  warnings : List AnswerViolation
  /-- Whether the answer had copies to check. -/
  copiesChecked : Bool
deriving DecidableEq, Repr

/-- Whether no fault was found. -/
def AnswerReport.isValid (report : AnswerReport) : Bool := report.violations.isEmpty

namespace Answer

/-- What the check of the copies finds; nothing when there are none. -/
def checkCopies (problem : Case) (answer : Answer) : Except AnswerViolation Unit :=
  match answer.copies with
  | none => .ok ()
  | some copies =>
    (CopyOracle.checkCopies problem.pattern answer.extended copies problem.copies.toNat).mapError
      .copies

/-- What the check of the order finds; nothing when there are no copies. -/
def checkOrder (answer : Answer) : Except AnswerViolation Unit :=
  match answer.copies with
  | none => .ok ()
  | some copies => (CopyOracle.checkOrder copies).mapError .order

/-- The recomputed cost, or the first fault. -/
def check (problem : Case) (strict : Bool) (answer : Answer) : Except AnswerViolation UInt64 := do
  let cost ← (problem.target.checkCost answer.extended answer.cost).mapError .cost
  answer.checkCopies problem
  if strict then answer.checkOrder
  .ok cost

/-- The fault in a result, as a list of none or one. -/
def faults {α : Type} : Except AnswerViolation α → List AnswerViolation
  | .ok _ => []
  | .error violation => [violation]

/-- The recomputed cost, also where it is not the reported one. -/
def actualCost? : Except CostViolation UInt64 → Option UInt64
  | .ok cost => some cost
  | .error (.costMismatch _ actual) => some actual
  | .error _ => none

/-- All faults and remarks. -/
def report (problem : Case) (strict : Bool) (answer : Answer) : AnswerReport :=
  let cost := problem.target.checkCost answer.extended answer.cost
  let order := faults answer.checkOrder
  { actualCost := actualCost? cost
    violations := faults (cost.mapError .cost) ++ faults (answer.checkCopies problem) ++
      (if strict then order else [])
    warnings := if strict then [] else order
    copiesChecked := answer.copies.isSome }

end Answer

end CopyOracle
