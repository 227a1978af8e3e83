import CopyOracle.Proofs.Generate.Fuzz
import CopyOracle.Proofs.Graph.Plant
import CopyOracle.Proofs.Number.Binomial
import CopyOracle.Proofs.Random.Unit
/-!
# No draw of a random case is refused

A draw has to be asked for something that it can give: a number of a range that is not empty, a
truth value of a probability from zero to one, a subset no larger than its set. A `GuardedDraw`
checks this and is refused with a `DrawFault` where it does not hold. Here the random cases are
drawn with these guards. With usable settings no guard is ever hit, so the guarded case is the
random case of the same generator, and its orders, its entries and its number of copies lie
`Within` the settings.
-/

namespace CopyOracle

/-- Why a draw is refused. -/
inductive DrawFault where
  /-- The range has no numbers. -/
  | emptyRange (low high : Nat)
  /-- The probability does not lie from zero to one. -/
  | probability (probability : Float)
  /-- More members are asked for than there are. -/
  | sample (length count : Nat)
deriving DecidableEq

/-- A draw that may be refused. -/
abbrev GuardedDraw (α : Type) := StateT Generator (Except DrawFault) α

namespace GuardedDraw

variable {α β : Type}

/-- A draw that is never refused. -/
def free (draw : Draw α) : GuardedDraw α := fun g => .ok (draw.run g)

/-- A draw that is refused unless the condition holds. -/
def require (condition : Bool) (fault : DrawFault) (draw : Draw α) : GuardedDraw α :=
  if condition then free draw else throw fault

/-- A 64-bit number from `low` to `high`. -/
def size (low high : Nat) : GuardedDraw Nat :=
  require (low ≤ high) (.emptyRange low high) (Draw.size low high)

/-- A 32-bit number from `low` to `high`. -/
def number (low high : Nat) : GuardedDraw Nat :=
  require (low ≤ high) (.emptyRange low high) (Draw.number low high)

/-- The probabilities that have a chance: those from zero to below one, and one. -/
def accepts (probability : Float) : Bool :=
  (0.0 ≤ probability && probability < 1.0) || probability == 1.0

/-- A truth value of a probability. -/
def flip (probability : Float) : GuardedDraw Bool :=
  require (accepts probability) (.probability probability)
    (Draw.flip (.ofProbability probability))

/-- So many of the numbers below `length`, ascending. -/
def subset (length count : Nat) : GuardedDraw (List Nat) :=
  require (count ≤ length) (.sample length count) (Draw.subset length count)

/-- So many results of one draw, in order. -/
def many (draw : GuardedDraw α) : (count : Nat) → GuardedDraw (List α)
  | 0 => pure []
  | count + 1 => do
    let first ← draw
    let rest ← many draw count
    pure (first :: rest)

/-- The guarded draw is never refused, it is the plain draw, and what is drawn has the property. -/
def Gives (guarded : GuardedDraw α) (draw : Draw α) (property : α → Prop) : Prop :=
  ∀ g, guarded.run g = .ok (draw.run g) ∧ property (draw.run g).1

variable {property : α → Prop} {result : β → Prop}

/-- A value that is given has the properties that it has. -/
theorem Gives.pure {value : α} (holds : property value) :
    Gives (pure value) (pure value) property := fun _ => ⟨rfl, holds⟩

/-- What the second of two draws gives on every value that the first gives, both give. -/
theorem Gives.bind {guarded : GuardedDraw α} {draw : Draw α} {next : α → GuardedDraw β}
    {plain : α → Draw β} (first : Gives guarded draw property)
    (second : ∀ value, property value → Gives (next value) (plain value) result) :
    Gives (guarded >>= next) (draw >>= plain) result := fun g => by
  obtain ⟨run, holds⟩ := first g
  obtain ⟨after, final⟩ := second _ holds (draw.run g).2
  refine ⟨?_, final⟩
  rw [StateT.run_bind, run]
  exact after

/-- What is given may be weakened. -/
theorem Gives.weaken {guarded : GuardedDraw α} {draw : Draw α} {weaker : α → Prop}
    (given : Gives guarded draw property) (weaken : ∀ value, property value → weaker value) :
    Gives guarded draw weaker := fun g => ⟨(given g).1, weaken _ (given g).2⟩

/-- A draw that is never refused gives what the plain draw ensures. -/
theorem gives_free {draw : Draw α} (ensured : draw.Ensures property) :
    Gives (free draw) draw property := fun g => ⟨rfl, ensured g⟩

/-- A draw whose condition holds is not refused. -/
theorem gives_require {condition : Bool} {fault : DrawFault} {draw : Draw α}
    (met : condition = true) (ensured : draw.Ensures property) :
    Gives (require condition fault draw) draw property := by
  rw [require, if_pos met]
  exact gives_free ensured

/-- A 64-bit number is drawn from every range that is not empty. -/
theorem gives_size {low high : Nat} (nonempty : low ≤ high) :
    Gives (size low high) (Draw.size low high) fun drawn => low ≤ drawn ∧ drawn ≤ high :=
  gives_require (decide_eq_true nonempty) (Draw.size_mem nonempty)

/-- A 32-bit number is drawn from every range that is not empty. -/
theorem gives_number {low high : Nat} (nonempty : low ≤ high) :
    Gives (number low high) (Draw.number low high) fun drawn => low ≤ drawn ∧ drawn ≤ high :=
  gives_require (decide_eq_true nonempty) (Draw.number_mem nonempty)

/-- A truth value is drawn for every probability from zero to one, and with the probability zero
it is false. -/
theorem gives_flip {probability : Float} (accepted : accepts probability = true) :
    Gives (flip probability) (Draw.flip (.ofProbability probability)) fun happens =>
      (probability == 0.0) = true → happens = false := by
  exact gives_require accepted fun g zero => Draw.flip_never zero g

/-- A subset that is no larger than its set is drawn. -/
theorem gives_subset {length count : Nat} (room : count ≤ length) :
    Gives (subset length count) (Draw.subset length count) fun _ => True :=
  gives_require (decide_eq_true room) (Draw.Ensures.of_forall fun _ => trivial)

/-- What one draw gives, all of many draws give. -/
theorem gives_many {guarded : GuardedDraw α} {draw : Draw α} (each : Gives guarded draw property)
    (count : Nat) :
    Gives (many guarded count) (Draw.many draw count) fun drawn =>
      ∀ value ∈ drawn, property value := by
  induction count with
  | zero => exact .pure (by simp)
  | succ count ih =>
    refine each.bind fun first holds => ih.bind fun rest others => .pure ?_
    exact List.forall_mem_cons.mpr ⟨holds, others⟩

end GuardedDraw

namespace FuzzSettings

open GuardedDraw (accepts)

/-- What usable settings promise to the draws. -/
structure Drawable (settings : FuzzSettings) : Prop where
  /-- The smallest pattern has a vertex. -/
  nonempty : 0 < settings.patternLow
  /-- The range of pattern orders is not empty. -/
  range : settings.patternLow ≤ settings.patternHigh
  /-- A copy may be asked for. -/
  copies : 0 < settings.maxCopies
  /-- A light graph may have an edge. -/
  light : 0 < settings.lightWeight
  /-- A heavy graph may have an edge. -/
  heavy : 0 < settings.heavyWeight
  /-- The probability of a heavy graph has a chance. -/
  heavyProbability : accepts settings.heavyProbability = true
  /-- The probability of a case that is forced to be impossible has a chance. -/
  impossibleProbability : accepts settings.impossibleProbability = true
  /-- The probability of a planted pattern has a chance. -/
  plantedProbability : accepts settings.plantedProbability = true

/-- A probability that is not at fault has a chance. -/
theorem accepts_of_probabilityFault? {name : String} {probability : Float}
    (usable : probabilityFault? name probability = none) : accepts probability = true := by
  rw [probabilityFault?] at usable
  split at usable
  · next inside =>
    rw [Bool.and_eq_true, decide_eq_true_iff, decide_eq_true_iff] at inside
    rw [accepts]
    rcases le_iff_lt_or_beq.mp inside.2 with below | one
    · simp [inside.1, below]
    · simp [one]
  · contradiction

/-- Usable settings keep their promise. -/
theorem drawable_of_fault? {settings : FuzzSettings} (usable : settings.fault? = none) :
    settings.Drawable := by
  obtain ⟨nonempty, range, copies⟩ := bounds_of_fault? usable
  rw [fault?] at usable
  split at usable
  · contradiction
  split at usable
  · contradiction
  split at usable
  · contradiction
  · next weights =>
    rw [Option.or_eq_none_iff, Option.or_eq_none_iff] at usable
    obtain ⟨heavyUsable, impossibleUsable, plantedUsable⟩ := usable
    rw [Bool.or_eq_true, decide_eq_true_iff, decide_eq_true_iff, not_or] at weights
    exact ⟨nonempty, range, copies, UInt32.pos_iff_ne_zero.mpr weights.1,
      UInt32.pos_iff_ne_zero.mpr weights.2, accepts_of_probabilityFault? heavyUsable,
      accepts_of_probabilityFault? impossibleUsable, accepts_of_probabilityFault? plantedUsable⟩

end FuzzSettings

/-- A graph whose entries are listed has no larger ones. -/
theorem Graph.entriesLe_ofEntries {bound : UInt32} {order : Nat} {entries : List UInt32}
    (small : ∀ entry ∈ entries, entry ≤ bound) :
    (ofEntries order entries.toArray).EntriesLe bound := by
  refine entriesLe_ofFn fun u v => ?_
  rw [List.getElem?_toArray]
  cases listed : entries[u * order + v]? with
  | none => exact UInt32.zero_le
  | some entry => exact small entry (List.mem_of_getElem? listed)

namespace Fuzzer

open GuardedDraw

variable {settings : FuzzSettings}

/-- An entry of a random graph whose edges have a probability. -/
def guardedEntry (density : Float) (weight : UInt32) : GuardedDraw UInt32 := do
  let present ← flip density
  if present then
    let drawn ← number 1 weight.toNat
    pure (.ofNat drawn)
  else pure 0

/-- A random graph. -/
def guardedGraph (settings : FuzzSettings) (order : Nat) : GuardedDraw Graph := do
  let density ← free Draw.unit
  let heavy ← flip settings.heavyProbability
  let weight := if heavy then settings.heavyWeight else settings.lightWeight
  let entries ← many (guardedEntry density weight) (order * order)
  pure (.ofEntries order entries.toArray)

/-- The number of copies of a case with so many vertex sets. -/
def guardedCopies (settings : FuzzSettings) (images : Nat) : GuardedDraw Nat := do
  let forced ← flip settings.impossibleProbability
  if forced then pure (min (min (images + 1) wordMax128) (UInt64.size - 1))
  else size 1 (min (min (images + 2) wordMax128) settings.maxCopies)

/-- The target, or the target with the pattern planted at random places. -/
def guardedTarget (settings : FuzzSettings) (pattern target : Graph) : GuardedDraw Graph := do
  let planted ← flip settings.plantedProbability
  if planted then
    let positions ← subset target.order pattern.order
    pure (Graph.plant pattern target positions)
  else pure target

/-- A random case. -/
def guardedWith (settings : FuzzSettings) (name : String) :
    GuardedDraw (Except GenerateError GeneratedCase) := do
  let patternOrder ← size settings.patternLow settings.patternHigh
  let targetOrder ← size patternOrder (max settings.maxTarget patternOrder)
  let number ← guardedCopies settings (binomial targetOrder patternOrder)
  let pattern ← guardedGraph settings patternOrder
  let target ← guardedGraph settings targetOrder
  let target ← guardedTarget settings pattern target
  pure (GeneratedCase.make name source pattern target number)

/-- An entry is drawn, and it is no larger than the largest. -/
theorem gives_entry {density : Float} {weight : UInt32} (accepted : accepts density = true)
    (positive : 0 < weight) :
    Gives (guardedEntry density weight) (entry (.ofProbability density) weight) (· ≤ weight) := by
  refine (gives_flip accepted).bind fun present _ => ?_
  cases present with
  | true =>
    refine (gives_number (UInt32.lt_iff_toNat_lt.mp positive)).bind fun drawn inside => .pure ?_
    have word : (UInt32.ofNat drawn).toNat = drawn :=
      UInt32.toNat_ofNat_of_lt' (Nat.lt_of_le_of_lt inside.2 weight.toNat_lt)
    rw [UInt32.le_iff_toNat_le, word]
    exact inside.2
  | false => exact .pure UInt32.zero_le

/-- A random graph draws its density as a double. -/
theorem graph_eq (settings : FuzzSettings) (order : Nat) :
    graph settings order = (do
      let density ← Draw.unit
      let heavy ← Draw.flip (.ofProbability settings.heavyProbability)
      let weight := if heavy then settings.heavyWeight else settings.lightWeight
      let entries ← Draw.many (entry (.ofProbability density) weight) (order * order)
      pure (.ofEntries order entries.toArray)) := by
  rw [graph, Draw.density_eq]
  rfl

/-- A random graph is drawn, with the order that is asked for and no entry above the weights. -/
theorem gives_graph (drawable : settings.Drawable) (order : Nat) :
    Gives (guardedGraph settings order) (graph settings order) fun graph =>
      graph.order = order ∧ graph.EntriesLe (max settings.lightWeight settings.heavyWeight) := by
  rw [graph_eq]
  refine (gives_free Draw.unit_mem).bind fun density inside => ?_
  have accepted : accepts density = true := by simp [accepts, inside.1, inside.2]
  refine (gives_flip drawable.heavyProbability).bind fun heavy _ => ?_
  have weights : 0 < (if heavy then settings.heavyWeight else settings.lightWeight) ∧
      (if heavy then settings.heavyWeight else settings.lightWeight) ≤
        max settings.lightWeight settings.heavyWeight := by
    cases heavy with
    | true => exact ⟨drawable.heavy, Graph.le_max_entry.2⟩
    | false => exact ⟨drawable.light, Graph.le_max_entry.1⟩
  refine (gives_many (gives_entry accepted weights.1) (order * order)).bind fun entries small => ?_
  refine .pure ⟨rfl, Graph.entriesLe_ofEntries fun entry listed => ?_⟩
  exact UInt32.le_trans (small entry listed) weights.2

/-- The number of copies is drawn, and it is above zero. Where no case is forced to be impossible,
it lies within the settings and is at most two more than the vertex sets. -/
theorem gives_copies (drawable : settings.Drawable) (images : Nat) :
    Gives (guardedCopies settings images) (copies settings images) fun number => 0 < number ∧
      ((settings.impossibleProbability == 0.0) = true →
        number ≤ min settings.maxCopies (images + 2)) := by
  have some := drawable.copies
  have words : 1 < UInt64.size ∧ UInt64.size - 1 < wordMax128 := by decide
  refine (gives_flip drawable.impossibleProbability).bind fun forced never => ?_
  cases forced with
  | true => exact .pure ⟨by omega, fun zero => absurd (never zero) (by decide)⟩
  | false =>
    refine (gives_size (by omega)).weaken fun number inside => ?_
    omega

/-- The target is drawn. It keeps its order, and its entries stay at most a bound. -/
theorem gives_target (drawable : settings.Drawable) {pattern target : Graph} {bound : UInt32}
    (room : pattern.order ≤ target.order) (ofPattern : pattern.EntriesLe bound)
    (ofTarget : target.EntriesLe bound) :
    Gives (guardedTarget settings pattern target) (plantedTarget settings pattern target)
      fun drawn => drawn.order = target.order ∧ drawn.EntriesLe bound := by
  refine (gives_flip drawable.plantedProbability).bind fun planted _ => ?_
  cases planted with
  | true =>
    refine (gives_subset room).bind fun positions _ => .pure ?_
    exact ⟨rfl, Graph.entriesLe_plant ofPattern ofTarget⟩
  | false => exact .pure ⟨rfl, ofTarget⟩

/-- A random case lies within the settings. -/
structure Within (settings : FuzzSettings) (problem : Case) : Prop where
  /-- The order of the pattern lies in its range. -/
  pattern : settings.patternLow ≤ problem.pattern.order ∧
    problem.pattern.order ≤ settings.patternHigh
  /-- The target has room for the pattern, and its order lies in its range. -/
  target : problem.pattern.order ≤ problem.target.order ∧
    problem.target.order ≤ max settings.maxTarget problem.pattern.order
  /-- A copy is asked for. -/
  copies : 1 ≤ problem.copies.toNat
  /-- No entry of the pattern is above the weights. -/
  patternEntries : problem.pattern.EntriesLe (max settings.lightWeight settings.heavyWeight)
  /-- No entry of the target is above the weights. -/
  targetEntries : problem.target.EntriesLe (max settings.lightWeight settings.heavyWeight)
  /-- Where no case is forced to be impossible, at most two copies more than there are vertex sets
  are asked for, within the settings. -/
  unforced : (settings.impossibleProbability == 0.0) = true →
    problem.copies.toNat ≤
      min settings.maxCopies (problem.target.order.choose problem.pattern.order + 2)

/-- A number of copies within two of the answer of the formula is within two of the true binomial,
once it is cut to a word. -/
theorem min_le_choose_add_two {n r number : Nat} (close : number ≤ binomial n r + 2) :
    min number (UInt64.size - 1) ≤ n.choose r + 2 := by
  have size : UInt64.size = 2 ^ 64 := rfl
  have word : min number (UInt64.size - 1) - 2 < 2 ^ 64 := by omega
  have exact := (le_binomial_iff (n := n) (r := r) word).mp (by omega)
  omega

/-- A random case is drawn, and it lies within the settings. -/
theorem gives_generateWith (fuzzer : Fuzzer) (name : String) :
    Gives (guardedWith fuzzer.settings name) (fuzzer.generateWith name) fun result =>
      ∃ generated, result = .ok generated ∧ Within fuzzer.settings generated.problem := by
  have drawable := FuzzSettings.drawable_of_fault? fuzzer.usable
  have nonempty := drawable.nonempty
  refine (gives_size drawable.range).bind fun patternOrder patternRange => ?_
  refine (gives_size (Nat.le_max_right _ _)).bind fun targetOrder targetRange => ?_
  refine (gives_copies drawable _).bind fun number ⟨asked, unforced⟩ => ?_
  refine (gives_graph drawable _).bind fun pattern ⟨ofPattern, patternEntries⟩ => ?_
  refine (gives_graph drawable _).bind fun base ⟨ofBase, baseEntries⟩ => ?_
  subst ofPattern ofBase
  refine (gives_target drawable targetRange.1 patternEntries baseEntries).bind
    fun target ⟨ofTarget, targetEntries⟩ => .pure ?_
  have vertex : 0 < pattern.order := by omega
  obtain ⟨generated, made, _, _, rfl, rfl, copies⟩ :=
    GeneratedCase.make_eq_ok name source target vertex asked
  refine ⟨generated, made, patternRange, ofTarget ▸ targetRange, ?_, patternEntries, targetEntries,
    fun zero => ?_⟩
  · rw [copies]
    have size : 1 < UInt64.size := by decide
    omega
  · have close := unforced zero
    have exact := min_le_choose_add_two (Nat.le_trans close (Nat.min_le_right _ _))
    rw [copies, ofTarget]
    omega

/-- A fuzzer is made of its settings. -/
theorem make_eq_ok_iff {settings : FuzzSettings} {fuzzer : Fuzzer} :
    make settings = .ok fuzzer ↔ fuzzer.settings = settings := by
  constructor
  · intro made
    rw [make] at made
    split at made
    · exact congrArg Fuzzer.settings (Except.ok.inj made).symm
    · contradiction
  · rintro rfl
    rw [make]
    split
    · rfl
    · next fault found =>
      rw [fuzzer.usable] at found
      contradiction

/-- Settings that are accepted give a case from every state of the generator. No draw is refused,
and the case lies within the settings. -/
theorem generateWith_not_refused {settings : FuzzSettings} {fuzzer : Fuzzer}
    (accepted : make settings = .ok fuzzer) (name : String) (g : Generator) :
    ∃ generated after, (guardedWith settings name).run g = .ok (.ok generated, after) ∧
      (fuzzer.generateWith name).run g = (.ok generated, after) ∧
      Within settings generated.problem := by
  obtain rfl := make_eq_ok_iff.mp accepted
  obtain ⟨run, generated, drawn, within⟩ := gives_generateWith fuzzer name g
  refine ⟨generated, ((fuzzer.generateWith name).run g).2, ?_, Prod.ext drawn rfl, within⟩
  rw [run, ← drawn]
  rfl

/-- A case with a planted pattern is drawn under the largest limit of copies, and as no case is
forced to be impossible it asks for at most two copies more than there are vertex sets. -/
theorem generateWith_not_refused_planted :
    let settings : FuzzSettings := { maxCopies := UInt64.size - 1, plantedProbability := 1.0 }
    ∃ fuzzer generated after, make settings = .ok fuzzer ∧
      (guardedWith settings "planted").run (.ofSeed 7) = .ok (.ok generated, after) ∧
      generated.problem.copies.toNat ≤
        generated.problem.target.order.choose generated.problem.pattern.order + 2 := by
  intro settings
  have made : make settings = .ok ⟨settings, by decide +kernel⟩ := make_eq_ok_iff.mpr rfl
  obtain ⟨generated, after, run, _, within⟩ :=
    generateWith_not_refused made "planted" (.ofSeed 7)
  have close := within.unforced (by decide +kernel)
  exact ⟨_, generated, after, made, run, Nat.le_trans close (Nat.min_le_right _ _)⟩

end Fuzzer

end CopyOracle
