import CopyOracle.Generate.Basic
import CopyOracle.Graph.Extension
import CopyOracle.Random.Draw

/-!
# Random cases

A random case is a function of its seed and the settings: every case is drawn from a generator
of its own. The orders are drawn first, then the number of copies, the two graphs, and whether
the pattern is planted in the target at random places. A case may be forced to ask for one copy
more than there are vertex sets.
-/
namespace CopyOracle

/-- The distribution of random cases. -/
structure FuzzSettings where
  /-- The smallest pattern order. -/
  patternLow : Nat := 3
  /-- The largest pattern order. -/
  patternHigh : Nat := 8
  /-- The largest target order; the target is never smaller than the pattern. -/
  maxTarget : Nat := 15
  /-- The largest number of copies of a case that is not forced to be impossible. -/
  maxCopies : Nat := 5
  /-- The largest entry of a light graph. -/
  lightWeight : UInt32 := 10
  /-- The largest entry of a heavy graph. -/
  heavyWeight : UInt32 := 100
  /-- The probability that a graph is heavy. -/
  heavyProbability : Float := 0.2
  /-- The probability that a case is forced to be impossible. -/
  impossibleProbability : Float := 0.0
  /-- The probability that the pattern is planted in the target. -/
  plantedProbability : Float := 0.0

namespace FuzzSettings

/-- The fault of a probability outside its range. -/
def probabilityFault? (name : String) (p : Float) : Option SettingsFault :=
  if 0.0 ≤ p && p ≤ 1.0 then none else some (.probability name (.ofList (FloatText.plain p)))

/-- The first setting that cannot be used. -/
def fault? (settings : FuzzSettings) : Option SettingsFault :=
  if settings.patternLow = 0 || settings.patternHigh < settings.patternLow then
    some (.patternRange settings.patternLow settings.patternHigh)
  else if settings.maxCopies = 0 then some .noCopies
  else if settings.lightWeight = 0 || settings.heavyWeight = 0 then some .noWeight
  else (probabilityFault? "heavy" settings.heavyProbability).or
    ((probabilityFault? "impossible" settings.impossibleProbability).or
      (probabilityFault? "planted" settings.plantedProbability))

end FuzzSettings

/-- Settings that can be used. -/
structure Fuzzer where
  /-- The settings. -/
  settings : FuzzSettings
  /-- None of them is at fault. -/
  usable : settings.fault? = none

namespace Fuzzer

/-- The source of random cases. -/
def source : String := "fuzz"

/-- The fuzzer of settings that can be used. -/
def make (settings : FuzzSettings) : Except GenerateError Fuzzer :=
  match usable : settings.fault? with
  | none => .ok ⟨settings, usable⟩
  | some fault => .error (.invalidSettings fault)

/-- An entry of a random graph: with the chance of an edge, a weight up to the largest. -/
def entry (edge : Chance) (weight : UInt32) : Draw UInt32 := do
  let present ← Draw.flip edge
  if present then
    let drawn ← Draw.number 1 weight.toNat
    pure (.ofNat drawn)
  else pure 0

/-- A random graph: its density is drawn first, then whether it is heavy, then its entries. -/
def graph (settings : FuzzSettings) (order : Nat) : Draw Graph := do
  let edge ← Draw.density
  let heavy ← Draw.flip (.ofProbability settings.heavyProbability)
  let weight := if heavy then settings.heavyWeight else settings.lightWeight
  let entries ← Draw.many (entry edge weight) (order * order)
  pure (.ofEntries order entries.toArray)

/-- The number of copies of a case with so many vertex sets: one more than those when forced,
and otherwise up to two more but within the settings. -/
def copies (settings : FuzzSettings) (images : Nat) : Draw Nat := do
  let forced ← Draw.flip (.ofProbability settings.impossibleProbability)
  if forced then pure (min (min (images + 1) wordMax128) (UInt64.size - 1))
  else Draw.size 1 (min (min (images + 2) wordMax128) settings.maxCopies)

/-- The target, or the target with the pattern planted at random places. -/
def plantedTarget (settings : FuzzSettings) (pattern target : Graph) : Draw Graph := do
  let planted ← Draw.flip (.ofProbability settings.plantedProbability)
  if planted then
    let positions ← Draw.subset target.order pattern.order
    pure (Graph.plant pattern target positions)
  else pure target

/-- A random case from the generator of the caller. -/
def generateWith (fuzzer : Fuzzer) (name : String) :
    Draw (Except GenerateError GeneratedCase) := do
  let settings := fuzzer.settings
  let patternOrder ← Draw.size settings.patternLow settings.patternHigh
  let targetOrder ← Draw.size patternOrder (max settings.maxTarget patternOrder)
  let number ← copies settings (binomial targetOrder patternOrder)
  let pattern ← graph settings patternOrder
  let target ← graph settings targetOrder
  let target ← plantedTarget settings pattern target
  pure (GeneratedCase.make name source pattern target number)

/-- The random case of a seed. -/
def generate (fuzzer : Fuzzer) (seed : UInt64) : Except GenerateError GeneratedCase :=
  ((fuzzer.generateWith s!"fuzz_{seed}").run (.ofSeed seed)).1.map fun generated =>
    { generated with seed := some seed }

/-- So many random cases whose seeds derive from that of a campaign. -/
def campaign (fuzzer : Fuzzer) (base : UInt64) (count : Nat) :
    Except GenerateError (List GeneratedCase) :=
  (List.range count).mapM fun iteration =>
    fuzzer.generate (Seed.ofIteration base (.ofNat iteration))

end Fuzzer

end CopyOracle
