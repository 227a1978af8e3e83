import CopyOracle.Case.Input
import CopyOracle.Number.FloatText

/-!
# Generated cases

A generated case has a name that can be a file name, the generator that made it as its source,
and its seed when it was drawn from one.

Every case of a campaign has a seed of its own, derived from the seed of the campaign and the
number of the case. The mixing function is a bijection of 64-bit words: it adds a constant,
multiplies by odd constants and folds high bits into low ones.
-/
namespace CopyOracle

/-- A case with its origin. -/
structure GeneratedCase where
  /-- The name, unique within its source. -/
  name : String
  /-- The generator that made it. -/
  source : String
  /-- The seed it was drawn from. -/
  seed : Option UInt64
  /-- The case. -/
  problem : Case
deriving DecidableEq

/-- What is wrong with the settings of a generator. -/
inductive SettingsFault where
  /-- The range of pattern orders is empty or starts at zero. -/
  | patternRange (low high : Nat)
  /-- No copy may be asked for. -/
  | noCopies
  /-- No weight is allowed. -/
  | noWeight
  /-- A probability, given as its text, is not between zero and one. -/
  | probability (name text : String)
deriving DecidableEq, Repr

/-- The wording of a fault of settings. -/
def SettingsFault.message : SettingsFault → String
  | .patternRange low high =>
    s!"pattern order range {low}..={high} must be non-empty and start at 1 or more"
  | .noCopies => "max copies must be at least 1"
  | .noWeight => "maximum weights must be at least 1"
  | .probability name text => s!"{name} probability {text} is outside [0, 1]"

/-- Why no case was generated. -/
inductive GenerateError where
  /-- The settings cannot be used. -/
  | invalidSettings (fault : SettingsFault)
  /-- What was generated is no case. -/
  | invalidCase (error : InputError)
deriving DecidableEq, Repr

/-- The wording of a generation error. -/
def GenerateError.message : GenerateError → String
  | .invalidSettings fault => s!"invalid generator configuration: {fault.message}"
  | .invalidCase error => s!"generated an invalid case: {error.message}"

/-- The case of two graphs and a number under a name; numbers above the largest word are cut to
it. -/
def GeneratedCase.make (name source : String) (pattern target : Graph) (copies : Nat) :
    Except GenerateError GeneratedCase :=
  match Case.make pattern target (.ofNat (min copies (UInt64.size - 1))) with
  | .ok problem => .ok ⟨name, source, none, problem⟩
  | .error error => .error (.invalidCase error)

/-- The graph whose entries are given row after row. -/
def Graph.ofEntries (order : Nat) (entries : Array UInt32) : Graph :=
  .ofFn order fun u v => (entries[u * order + v]?).getD 0

namespace Seed

/-- The odd constant that keeps neighbouring seeds apart. -/
def spacing : UInt64 := 0x9E3779B97F4A7C15

/-- A word mixed so that every bit depends on every other. -/
def mix (word : UInt64) : UInt64 :=
  let first := word + spacing
  let second := (first ^^^ (first >>> 30)) * 0xBF58476D1CE4E5B9
  let third := (second ^^^ (second >>> 27)) * 0x94D049BB133111EB
  third ^^^ (third >>> 31)

/-- The seed of a case of a campaign, the cases being numbered from zero. -/
def ofIteration (base iteration : UInt64) : UInt64 :=
  mix (base ^^^ ((iteration + 1) * spacing))

end Seed

end CopyOracle
