import CopyOracle.Proofs.Case
import CopyOracle.Proofs.Generate.Fuzz
/-!
# Cases that are forced to be impossible

A case that is forced to be impossible asks for one copy more than there are vertex sets, as long
as that number is a 64-bit word. Where it is none the case asks for the largest word, and as there
are at least as many vertex sets it is possible. Up to 67 target vertices this does not happen;
with 68 vertices and a pattern of half as many it does.
-/

namespace CopyOracle.Fuzzer

/-- Up to 67 vertices the number of vertex sets of any size is below the largest 64-bit word. -/
theorem choose_lt_of_le {n : Nat} (small : n ≤ 67) (r : Nat) : n.choose r < 2 ^ 64 - 1 := by
  have middle : Nat.choose 67 33 < 2 ^ 64 - 1 := by
    rw [← Nat.not_le, ← le_binomial_iff (by decide)]
    decide
  calc
    n.choose r ≤ Nat.choose 67 r := Nat.choose_le_choose r small
    _ ≤ Nat.choose 67 33 := Nat.choose_le_middle r 67
    _ < 2 ^ 64 - 1 := middle

/-- Up to the largest 64-bit word, one more than the bound is one more than the true binomial. -/
theorem min_binomial_succ (n r : Nat) :
    min (binomial n r + 1) (UInt64.size - 1) = min (n.choose r + 1) (2 ^ 64 - 1) := by
  have size : UInt64.size - 1 = 2 ^ 64 - 1 := rfl
  have within (k : Nat) (word : k < 2 ^ 64) : k ≤ binomial n r ↔ k ≤ n.choose r :=
    le_binomial_iff word
  rcases Nat.lt_or_ge (n.choose r) (2 ^ 64 - 1) with small | large
  · have lower := (within (n.choose r) (by omega)).mpr (Nat.le_refl _)
    have upper := (within (n.choose r + 1) (by omega)).not.mpr (by omega)
    omega
  · have lower := (within (2 ^ 64 - 1) (by omega)).mpr large
    omega

namespace Drawn

variable {settings : FuzzSettings} {patternOrder targetOrder : Nat} {problem : Case}

/-- A case that is forced to be impossible asks for one copy more than there are vertex sets, or
for the largest word where that is less. -/
theorem copies_eq (drawn : Drawn settings patternOrder targetOrder problem)
    (forced : settings.impossibleProbability = 1.0) :
    problem.copies.toNat =
      min (problem.target.order.choose problem.pattern.order + 1) (2 ^ 64 - 1) := by
  rw [drawn.forced forced, min_binomial_succ, drawn.pattern, drawn.target]

/-- A case that is forced to be impossible is so exactly when one more than the number of its vertex
sets is a 64-bit word. -/
theorem isImpossible_iff (drawn : Drawn settings patternOrder targetOrder problem)
    (forced : settings.impossibleProbability = 1.0) :
    problem.isImpossible = true ↔
      problem.target.order.choose problem.pattern.order < 2 ^ 64 - 1 := by
  have copies := drawn.copies_eq forced
  rw [Case.isImpossible_eq_true_iff]
  constructor
  · intro unsatisfiable
    by_contra large
    refine unsatisfiable ⟨?_, by omega⟩
    rw [drawn.pattern, drawn.target]
    exact drawn.targetRange.1
  · intro small satisfiable
    have images := satisfiable.images
    omega

end Drawn

/-- Cases that are forced to be impossible ask for one copy more than there are vertex sets, or for
the largest word where that is less. So a case is impossible exactly when the number of its vertex
sets is below the largest word, as it is up to 67 target vertices. -/
theorem copies_of_forced (fuzzer : Fuzzer) (name : String)
    (forced : fuzzer.settings.impossibleProbability = 1.0) (g : Generator) :
    ∃ generated, ((fuzzer.generateWith name).run g).1 = .ok generated ∧
      generated.problem.copies.toNat =
        min (generated.problem.target.order.choose generated.problem.pattern.order + 1)
          (2 ^ 64 - 1) ∧
      (generated.problem.isImpossible = true ↔
        generated.problem.target.order.choose generated.problem.pattern.order < 2 ^ 64 - 1) ∧
      (max fuzzer.settings.patternHigh fuzzer.settings.maxTarget ≤ 67 →
        generated.problem.isImpossible = true) := by
  obtain ⟨patternOrder, targetOrder, generated, made, _, _, drawn⟩ := fuzzer.exists_makes name g
  have impossible := drawn.isImpossible_iff forced
  refine ⟨generated, made, drawn.copies_eq forced, impossible, fun bounded => ?_⟩
  have pattern := drawn.patternRange
  have target := drawn.targetRange
  refine impossible.mpr (choose_lt_of_le ?_ _)
  rw [drawn.target]
  omega

/-- A case of the usual orders is forced to be impossible, and is so. -/
theorem copies_of_forced_usual :
    let fuzzer : Fuzzer := ⟨{ impossibleProbability := 1.0 }, by decide +kernel⟩
    ∃ generated, ((fuzzer.generateWith "forced").run (.ofSeed 7)).1 = .ok generated ∧
      generated.problem.isImpossible = true := by
  intro fuzzer
  obtain ⟨generated, made, _, _, small⟩ := copies_of_forced fuzzer "forced" rfl (.ofSeed 7)
  exact ⟨generated, made, small (by decide)⟩

/-- A case with 68 target vertices and 34 pattern vertices is forced to be impossible, and is
possible. -/
theorem forced_and_possible :
    let fuzzer : Fuzzer :=
      ⟨{ patternLow := 34, patternHigh := 34, maxTarget := 68, impossibleProbability := 1.0 },
        by decide +kernel⟩
    ∃ generated, ((fuzzer.generateWith "fuzz_4").run (.ofSeed 4)).1 = .ok generated ∧
      generated.problem.pattern.order = 34 ∧ generated.problem.target.order = 68 ∧
      generated.problem.isImpossible = false := by
  intro fuzzer
  have pattern : ((Draw.size 34 34).run (.ofSeed 4)).1 = 34 := by decide +kernel
  have target : ((Draw.size 34 68).run ((Draw.size 34 34).run (.ofSeed 4)).2).1 = 68 := by
    decide +kernel
  obtain ⟨generated, made, _, _, drawn⟩ := makes_of_run fuzzer "fuzz_4" pattern target
  refine ⟨generated, made, drawn.pattern, drawn.target, ?_⟩
  rw [Bool.eq_false_iff, ne_eq, drawn.isImpossible_iff rfl, drawn.pattern, drawn.target,
    Nat.not_lt, ← le_binomial_iff (by decide)]
  decide

end CopyOracle.Fuzzer
