import CopyOracle.Case.Basic
import CopyOracle.Proofs.Number.Binomial
/-!
# Satisfiable cases

`Case.Satisfiable` compares a case with the true binomial: the target has room for the pattern
and for so many vertex sets. A case is called impossible exactly when it is not satisfiable,
although the bound it is compared with stops at the largest 128-bit word.
-/

namespace CopyOracle

namespace Case

/-- The target has at least as many vertices as the pattern, and there are at least as many
vertex sets of the size of the pattern as copies are asked for. -/
structure Satisfiable (problem : Case) : Prop where
  /-- The pattern has room. -/
  room : problem.pattern.order ≤ problem.target.order
  /-- The copies have different vertex sets. -/
  images : problem.copies.toNat ≤ problem.target.order.choose problem.pattern.order

/-- The saturating bound decides like the true binomial. -/
theorem isImpossible_eq_false_iff {problem : Case} :
    problem.isImpossible = false ↔ problem.Satisfiable := by
  have bound := le_binomial_iff (n := problem.target.order) (r := problem.pattern.order)
    problem.copies.toNat_lt
  rw [isImpossible, targetTooSmall, maxImages, Bool.or_eq_false_iff, decide_eq_false_iff_not,
    decide_eq_false_iff_not, Nat.not_lt, Nat.not_lt, bound]
  exact ⟨fun fits => ⟨fits.1, fits.2⟩, fun fits => ⟨fits.room, fits.images⟩⟩

/-- A case is called impossible exactly when it is not satisfiable. -/
theorem isImpossible_eq_true_iff {problem : Case} :
    problem.isImpossible = true ↔ ¬problem.Satisfiable := by
  rw [← isImpossible_eq_false_iff, Bool.not_eq_false]

/-- The product formula obeys its law for all 64-bit sizes, so a case is called impossible exactly
when the target is too small or when more copies are asked for than the true binomial allows. -/
theorem isImpossible_exact :
    (∀ n r : UInt64, BinomialLaw n.toNat r.toNat) ∧
    ∀ problem : Case, problem.isImpossible = true ↔
      problem.target.order < problem.pattern.order ∨
        problem.target.order.choose problem.pattern.order < problem.copies.toNat := by
  refine ⟨fun n r => binomialLaw_of_lt n.toNat_lt, fun problem => ?_⟩
  rw [isImpossible_eq_true_iff]
  constructor
  · intro unsatisfiable
    by_contra fits
    push Not at fits
    exact unsatisfiable ⟨fits.1, fits.2⟩
  · rintro (small | few) satisfiable
    · exact absurd satisfiable.room (Nat.not_le_of_lt small)
    · exact absurd satisfiable.images (Nat.not_le_of_lt few)

/-- The formula may leave the 128-bit word although the true binomial, here that of three among
`10 ^ 13`, does not. -/
theorem isImpossible_exact_early :
    binomial (10000000000000 : UInt64).toNat (3 : UInt64).toNat = 2 ^ 128 - 1 ∧
      2 ^ 64 < Nat.choose 10000000000000 3 ∧ Nat.choose 10000000000000 3 < 2 ^ 128 - 1 := by
  have early : ∃ i < min 3 (10000000000000 - 3),
      2 ^ 128 ≤ Nat.choose 10000000000000 i * (10000000000000 - i) := by
    refine ⟨2, by decide, ?_⟩
    rw [Nat.choose_eq_descFactorial_div_factorial]
    decide
  have law := (isImpossible_exact.1 10000000000000 3).leaves early
  refine ⟨law.1, law.2, ?_⟩
  rw [Nat.choose_eq_descFactorial_div_factorial]
  decide

end Case

end CopyOracle
