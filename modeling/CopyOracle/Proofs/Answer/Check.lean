import CopyOracle.Answer.Check
import CopyOracle.Proofs.Embedding
import CopyOracle.Proofs.Graph.Extension
/-!
# The checks of an answer decide whether it solves the case

`Answer.Solves` says what a right answer is, without any order of checks: the extended graph
keeps the target, the reported cost is what it gained, and the copies, where they are listed, are
as many distinct copies as were asked for, in canonical order where that is asked for. Up to
`2 ^ 16` target vertices the check up to the first fault accepts exactly these answers, and the
report lists no fault exactly for them.
-/

namespace CopyOracle

namespace Answer

/-- The answer solves the case; `strict` asks for the canonical order of the copies. -/
structure Solves (problem : Case) (strict : Bool) (answer : Answer) : Prop where
  /-- The target is kept. -/
  extension : problem.target.Extends answer.extended
  /-- The cost is what the target gained. -/
  cost : problem.target.increase answer.extended = answer.cost.toNat
  /-- The listed copies are as many distinct copies as were asked for. -/
  copies : ∀ copies, answer.copies = some copies →
    DistinctCopies problem.pattern answer.extended problem.copies.toNat copies
  /-- The listed copies are strictly ascending where that is asked for. -/
  order : strict = true → ∀ copies, answer.copies = some copies →
    copies.Pairwise fun left right => left.targets < right.targets

variable {problem : Case} {answer : Answer} {strict : Bool}

/-- The copies are accepted exactly when those listed are distinct copies. -/
theorem checkCopies_eq_ok_iff : answer.checkCopies problem = .ok () ↔
    ∀ copies, answer.copies = some copies →
      DistinctCopies problem.pattern answer.extended problem.copies.toNat copies := by
  rw [checkCopies]
  cases answer.copies with
  | none => simp
  | some copies => simp [mapError_eq_ok_iff, CopyOracle.checkCopies_eq_ok_iff]

/-- The order is accepted exactly when the copies listed are strictly ascending. -/
theorem checkOrder_eq_ok_iff : answer.checkOrder = .ok () ↔
    ∀ copies, answer.copies = some copies →
      copies.Pairwise fun left right => left.targets < right.targets := by
  rw [checkOrder]
  cases answer.copies with
  | none => simp
  | some copies => simp [mapError_eq_ok_iff, CopyOracle.checkOrder_eq_ok_iff]

/-- The three checks accept together exactly the answers that solve the case. -/
theorem solves_iff (bound : problem.target.order ≤ 2 ^ 16) : answer.Solves problem strict ↔
    problem.target.checkCost answer.extended answer.cost = .ok answer.cost ∧
      answer.checkCopies problem = .ok () ∧ (strict = true → answer.checkOrder = .ok ()) := by
  rw [Graph.checkCost_eq_ok_iff_increase bound, checkCopies_eq_ok_iff, checkOrder_eq_ok_iff]
  constructor
  · intro solves
    exact ⟨⟨solves.extension, solves.cost, rfl⟩, solves.copies, solves.order⟩
  · rintro ⟨⟨extension, cost, _⟩, copies, order⟩
    exact ⟨extension, cost, copies, order⟩

/-- The check up to the first fault makes the three checks in turn. -/
theorem check_eq_ok_iff_checks {cost : UInt64} : answer.check problem strict = .ok cost ↔
    problem.target.checkCost answer.extended answer.cost = .ok cost ∧
      answer.checkCopies problem = .ok () ∧ (strict = true → answer.checkOrder = .ok ()) := by
  rw [check]
  simp only [bind_eq_ok_iff, mapError_eq_ok_iff]
  constructor
  · rintro ⟨actual, priced, _, copied, ordered⟩
    cases strict with
    | false =>
      obtain rfl := Except.ok.inj ordered
      exact ⟨priced, copied, by simp⟩
    | true =>
      obtain ⟨_, accepted, same⟩ := bind_eq_ok_iff.mp ordered
      obtain rfl := Except.ok.inj same
      exact ⟨priced, copied, fun _ => accepted⟩
  · rintro ⟨priced, copied, ordered⟩
    refine ⟨cost, priced, (), copied, ?_⟩
    cases strict with
    | false => rfl
    | true => exact bind_eq_ok_iff.mpr ⟨(), ordered rfl, rfl⟩

/-- The check up to the first fault accepts exactly the answers that solve the case. -/
theorem check_eq_ok_iff (bound : problem.target.order ≤ 2 ^ 16) {cost : UInt64} :
    answer.check problem strict = .ok cost ↔
      answer.Solves problem strict ∧ cost = answer.cost := by
  rw [check_eq_ok_iff_checks, solves_iff bound]
  constructor
  · rintro ⟨priced, copied, ordered⟩
    obtain ⟨_, rfl⟩ := Graph.checkCost_eq_ok_iff.mp priced
    exact ⟨⟨priced, copied, ordered⟩, rfl⟩
  · rintro ⟨⟨priced, copied, ordered⟩, rfl⟩
    exact ⟨priced, copied, ordered⟩

/-- A result lists no fault exactly when it has a value. -/
theorem faults_eq_nil_iff {α : Type} {result : Except AnswerViolation α} :
    faults result = [] ↔ ∃ value, result = .ok value := by
  cases result <;> simp [faults]

/-- The report lists no fault exactly for the answers that solve the case. -/
theorem report_violations_eq_nil_iff (bound : problem.target.order ≤ 2 ^ 16) :
    (answer.report problem strict).violations = [] ↔ answer.Solves problem strict := by
  rw [solves_iff bound, report]
  simp only [List.append_eq_nil_iff, faults_eq_nil_iff, mapError_eq_ok_iff]
  constructor
  · rintro ⟨⟨⟨cost, priced⟩, ⟨_, copied⟩⟩, ordered⟩
    obtain ⟨_, rfl⟩ := Graph.checkCost_eq_ok_iff.mp priced
    refine ⟨priced, copied, fun asked => ?_⟩
    rw [if_pos asked, faults_eq_nil_iff] at ordered
    obtain ⟨_, accepted⟩ := ordered
    exact accepted
  · rintro ⟨priced, copied, ordered⟩
    refine ⟨⟨⟨_, priced⟩, ⟨_, copied⟩⟩, ?_⟩
    split
    · next asked => exact faults_eq_nil_iff.mpr ⟨(), ordered asked⟩
    · rfl

end Answer

end CopyOracle
