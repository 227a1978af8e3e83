import CopyOracle.Generate.Fuzz
import CopyOracle.Proofs.Random.Draw
/-!
# What a random case is made of

Whatever the state of the generator, usable settings give a case: `Fuzzer.Drawn` says what its
orders, its number of copies and its target are. Each draw of the case has one lemma that says what
it ensures, and the case is put together from them.
-/

namespace CopyOracle

namespace FuzzSettings

/-- What usable settings promise about the orders and the number of copies. -/
theorem bounds_of_fault? {settings : FuzzSettings} (usable : settings.fault? = none) :
    0 < settings.patternLow ∧ settings.patternLow ≤ settings.patternHigh ∧
      0 < settings.maxCopies := by
  rw [fault?] at usable
  split at usable
  · contradiction
  · next range =>
    split at usable
    · contradiction
    · next copies =>
      simp only [Bool.or_eq_true, decide_eq_true_eq, not_or] at range
      omega

end FuzzSettings

/-- The chance of the probability one is certain. -/
theorem Chance.ofProbability_one : ofProbability 1.0 = always := by
  rw [ofProbability, if_pos (by decide)]

/-- Two graphs and a number above zero are a case, where the pattern has a vertex. -/
theorem GeneratedCase.make_eq_ok (name source : String) {pattern : Graph} (target : Graph)
    {copies : Nat} (nonempty : 0 < pattern.order) (positive : 0 < copies) :
    ∃ generated, make name source pattern target copies = .ok generated ∧
      generated.name = name ∧ generated.source = source ∧
      generated.problem.pattern = pattern ∧ generated.problem.target = target ∧
      generated.problem.copies.toNat = min copies (UInt64.size - 1) := by
  have word : (UInt64.ofNat (min copies (UInt64.size - 1))).toNat = min copies (UInt64.size - 1) :=
    UInt64.toNat_ofNat_of_lt' (by
      have size : 0 < UInt64.size := by decide
      omega)
  have asked : 0 < UInt64.ofNat (min copies (UInt64.size - 1)) := by
    have size : 1 < UInt64.size := by decide
    rw [UInt64.lt_iff_toNat_lt, word]
    change 0 < _
    omega
  exact ⟨⟨name, source, none, ⟨pattern, target, _, nonempty, asked⟩⟩, by
    rw [make, Case.make, dif_pos nonempty, dif_pos asked], rfl, rfl, rfl, rfl, word⟩

namespace Fuzzer

variable {settings : FuzzSettings}

/-- A random graph has the order that is asked for. -/
theorem graph_order (settings : FuzzSettings) (order : Nat) :
    (graph settings order).Ensures (·.order = order) :=
  .bind (.of_forall fun _ => trivial) fun _ _ =>
    .bind (.of_forall fun _ => trivial) fun _ _ =>
      .bind (.of_forall fun _ => trivial) fun _ _ => .pure rfl

/-- What happens with the probability one happens. -/
theorem flip_certain (probability : Float) :
    (Draw.flip (.ofProbability probability)).Ensures fun happens =>
      probability = 1.0 → happens = true := by
  intro g certain
  rw [certain, Chance.ofProbability_one]
  exact Draw.flip_always g

/-- The number of copies is above zero, and one more than the vertex sets when it is forced, cut to
the largest word. -/
theorem copies_drawn (some : 0 < settings.maxCopies) (images : Nat) :
    (copies settings images).Ensures fun number => 0 < number ∧
      (settings.impossibleProbability = 1.0 →
        number = min (images + 1) (UInt64.size - 1)) := by
  have sizes : 1 < UInt64.size ∧ UInt64.size - 1 < wordMax128 := by decide
  refine (flip_certain _).bind fun forced certain => ?_
  cases forced with
  | true => exact .pure (by omega)
  | false =>
    refine (Draw.size_mem (by omega)).weaken fun number inside => ⟨inside.1, fun always => ?_⟩
    exact absurd (certain always) Bool.false_ne_true

/-- The target that is drawn, or that target with the pattern planted at different vertices in
ascending order. -/
theorem plantedTarget_drawn (settings : FuzzSettings) {pattern target : Graph}
    (room : pattern.order ≤ target.order) :
    (plantedTarget settings pattern target).Ensures fun drawn => drawn.order = target.order ∧
      (settings.plantedProbability = 1.0 → ∃ positions,
        Draw.Distinct pattern.order target.order positions ∧ positions.Pairwise (· < ·) ∧
          drawn = Graph.plant pattern target positions) := by
  refine (flip_certain _).bind fun planted certain => ?_
  cases planted with
  | true =>
    refine (Draw.subset_ascending room).bind fun positions chosen => ?_
    exact .pure ⟨rfl, fun _ => ⟨positions, chosen.1, chosen.2, rfl⟩⟩
  | false => exact .pure ⟨rfl, fun always => absurd (certain always) Bool.false_ne_true⟩

/-- What a random case is, given the orders that were drawn for it. -/
structure Drawn (settings : FuzzSettings) (patternOrder targetOrder : Nat) (problem : Case) :
    Prop where
  /-- The pattern has the order that was drawn. -/
  pattern : problem.pattern.order = patternOrder
  /-- The target has the order that was drawn. -/
  target : problem.target.order = targetOrder
  /-- The order of the pattern lies in its range. -/
  patternRange : settings.patternLow ≤ patternOrder ∧ patternOrder ≤ settings.patternHigh
  /-- The order of the target lies in its range, and the pattern has room. -/
  targetRange : patternOrder ≤ targetOrder ∧ targetOrder ≤ max settings.maxTarget patternOrder
  /-- A case that is forced to be impossible asks for one copy more than its bound allows, or for
  the largest word. -/
  forced : settings.impossibleProbability = 1.0 →
    problem.copies.toNat = min (binomial targetOrder patternOrder + 1) (UInt64.size - 1)
  /-- A planted pattern stands at different vertices in ascending order. -/
  planted : settings.plantedProbability = 1.0 → ∃ base positions,
    Draw.Distinct patternOrder targetOrder positions ∧ positions.Pairwise (· < ·) ∧
      problem.target = Graph.plant problem.pattern base positions ∧ base.order = targetOrder

/-- The result is no error but a case of the name, with the orders that were drawn for it. -/
def Makes (fuzzer : Fuzzer) (name : String) (patternOrder targetOrder : Nat)
    (result : Except GenerateError GeneratedCase) : Prop :=
  ∃ generated, result = .ok generated ∧ generated.name = name ∧ generated.source = source ∧
    Drawn fuzzer.settings patternOrder targetOrder generated.problem

/-- Usable settings give a case from every state of the generator. Its orders are drawn first. -/
theorem makes_of_run (fuzzer : Fuzzer) (name : String) {g : Generator}
    {patternOrder targetOrder : Nat}
    (pattern : ((Draw.size fuzzer.settings.patternLow fuzzer.settings.patternHigh).run g).1 =
      patternOrder)
    (target : ((Draw.size patternOrder (max fuzzer.settings.maxTarget patternOrder)).run
      ((Draw.size fuzzer.settings.patternLow fuzzer.settings.patternHigh).run g).2).1 =
        targetOrder) :
    fuzzer.Makes name patternOrder targetOrder ((fuzzer.generateWith name).run g).1 := by
  obtain ⟨positive, range, some⟩ := FuzzSettings.bounds_of_fault? fuzzer.usable
  have inside := Draw.size_mem range g
  have room := Draw.size_mem (Nat.le_max_right fuzzer.settings.maxTarget patternOrder)
    ((Draw.size fuzzer.settings.patternLow fuzzer.settings.patternHigh).run g).2
  rw [pattern] at inside
  rw [target] at room
  rw [generateWith, Draw.run_bind, pattern, Draw.run_bind, target]
  refine Draw.Ensures.bind (copies_drawn some _) (fun number asked => ?_) _
  refine (graph_order _ _).bind fun pattern ofPattern => ?_
  refine (graph_order _ _).bind fun base ofBase => ?_
  refine (plantedTarget_drawn _ (by omega)).bind fun target planted => .pure ?_
  have nonempty : 0 < pattern.order := by omega
  obtain ⟨generated, made, named, ofSource, rfl, rfl, number⟩ :=
    GeneratedCase.make_eq_ok name source target nonempty asked.1
  refine ⟨generated, made, named, ofSource, ofPattern, planted.1.trans ofBase, inside, room,
    fun certain => ?_, fun certain => ?_⟩
  · rw [number, asked.2 certain, Nat.min_assoc, Nat.min_self]
  · obtain ⟨positions, distinct, ascending, drawn⟩ := planted.2 certain
    exact ⟨base, positions, ofPattern ▸ ofBase ▸ distinct, ascending, drawn, ofBase⟩

/-- Usable settings give a case from every state of the generator. -/
theorem exists_makes (fuzzer : Fuzzer) (name : String) (g : Generator) :
    ∃ patternOrder targetOrder,
      fuzzer.Makes name patternOrder targetOrder ((fuzzer.generateWith name).run g).1 :=
  ⟨_, _, makes_of_run fuzzer name rfl rfl⟩

end Fuzzer

end CopyOracle
