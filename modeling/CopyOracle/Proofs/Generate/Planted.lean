import CopyOracle.Proofs.Answer.Check
import CopyOracle.Proofs.Generate.Fuzz
import CopyOracle.Proofs.Graph.Plant
/-!
# Cases with a planted pattern

A case in which the pattern is planted holds a copy of it: the places at which it was planted are
different vertices of the target in ascending order, and the pattern is embedded there. Where one
copy is asked for, the target itself with this copy is an answer that costs nothing.
-/

namespace CopyOracle

/-- A graph extends itself at no cost. -/
theorem Graph.checkCost_self (graph : Graph) : graph.checkCost graph 0 = .ok 0 := by
  have nothing : graph.increase graph = 0 := by simp [increase]
  have extension : graph.Extends graph := ⟨rfl, fun _ _ _ _ => UInt32.le_refl _⟩
  refine checkCost_eq_ok_iff.mpr ⟨extensionCost_eq_ok_iff.mpr ⟨extension, ?_⟩, rfl⟩
  rw [nothing]
  rfl

/-- Where one copy is asked for, an embedding into the target is an answer that costs nothing. -/
theorem Answer.check_free {problem : Case} {mapping : Mapping}
    (embeds : Embeds problem.pattern problem.target mapping) (single : problem.copies = 1)
    (strict : Bool) :
    Answer.check problem strict ⟨problem.target, some [mapping], 0⟩ = .ok 0 := by
  refine check_eq_ok_iff_checks.mpr ⟨problem.target.checkCost_self,
    checkCopies_eq_ok_iff.mpr ?_, fun _ => checkOrder_eq_ok_iff.mpr ?_⟩
  · rintro copies listed
    obtain rfl := Option.some.inj listed
    refine ⟨?_, fun other member => ?_, List.pairwise_singleton _ _⟩
    · rw [single]
      rfl
    · rw [List.mem_singleton.mp member]
      exact embeds
  · rintro copies listed
    obtain rfl := Option.some.inj listed
    exact List.pairwise_singleton _ _

namespace Fuzzer

/-- A case in which the pattern is planted has a copy of it at ascending vertices of the target,
and where one copy is asked for the target with this copy is an answer that costs nothing. -/
theorem exists_free_copy (fuzzer : Fuzzer) (name : String)
    (planted : fuzzer.settings.plantedProbability = 1.0) (g : Generator) :
    ∃ generated positions, ((fuzzer.generateWith name).run g).1 = .ok generated ∧
      positions.length = generated.problem.pattern.order ∧ positions.Pairwise (· < ·) ∧
      (∀ position ∈ positions, position < generated.problem.target.order) ∧
      checkEmbedding generated.problem.pattern generated.problem.target (.ofTargets positions) =
        .ok () ∧
      (generated.problem.copies = 1 → ∀ strict, Answer.check generated.problem strict
        ⟨generated.problem.target, some [.ofTargets positions], 0⟩ = .ok 0) := by
  obtain ⟨patternOrder, targetOrder, generated, made, _, _, drawn⟩ := fuzzer.exists_makes name g
  obtain ⟨base, positions, distinct, ascending, target, order⟩ := drawn.planted planted
  have count : positions.length = generated.problem.pattern.order :=
    distinct.count.trans drawn.pattern.symm
  have embeds : Embeds generated.problem.pattern generated.problem.target (.ofTargets positions) :=
    target ▸ Graph.embeds_plant distinct.nodup count (order ▸ distinct.below)
  exact ⟨generated, positions, made, count, ascending, drawn.target ▸ distinct.below,
    checkEmbedding_eq_ok_iff.mpr embeds, Answer.check_free embeds⟩

/-- Twelve pattern vertices are planted among twenty by exchanging places, and with the one copy
that is asked for there the target is an answer. -/
theorem exists_free_copy_exchanged :
    let fuzzer : Fuzzer :=
      ⟨{ patternLow := 12, patternHigh := 12, maxTarget := 20, maxCopies := 1,
         plantedProbability := 1.0 }, by decide +kernel⟩
    ∃ (generated : GeneratedCase) (positions : List Nat),
      ((fuzzer.generateWith "planted").run (.ofSeed 11)).1 = .ok generated ∧
      positions.Pairwise (· < ·) ∧
      checkEmbedding generated.problem.pattern generated.problem.target (.ofTargets positions) =
        .ok () ∧
      Answer.check generated.problem true
        ⟨generated.problem.target, some [.ofTargets positions], 0⟩ = .ok 0 := by
  intro fuzzer
  have single : ((fuzzer.generateWith "planted").run (.ofSeed 11)).1.map
      (fun generated => generated.problem.copies) = .ok 1 := by decide +kernel +revert
  obtain ⟨generated, positions, made, _, ascending, _, embedded, free⟩ :=
    exists_free_copy fuzzer "planted" rfl (.ofSeed 11)
  rw [made] at single
  exact ⟨generated, positions, made, ascending, embedded, free (Except.ok.inj single) true⟩

end Fuzzer

end CopyOracle
