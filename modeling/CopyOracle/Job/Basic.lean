import CopyOracle.Algorithm
import CopyOracle.Case.Input
import CopyOracle.Generate.Fuzz

/-!
# Jobs

A job is one run of the solver to be made: an input under a name, its source, the algorithm, and
the seed of a random case. An input file that holds no case is kept as it stands together with
its error, so that the solver can be seen to reject it.
-/
namespace CopyOracle

/-- What a job gives to the solver. -/
inductive JobInput where
  /-- A case. -/
  | wellFormed (problem : Case)
  /-- A text that holds no case, and why. -/
  | malformed (text : String) (error : InputError)
deriving DecidableEq

namespace JobInput

/-- The input of a text. -/
def parse (text : String) : JobInput :=
  match Case.parse text with
  | .ok problem => .wellFormed problem
  | .error error => .malformed text error

/-- The text that the solver gets: a case in its one written form, any other text unchanged. -/
def text : JobInput → String
  | .wellFormed problem => problem.render
  | .malformed text _ => text

/-- The sizes of the case. -/
def sizes? : JobInput → Option Sizes
  | .wellFormed problem => some problem.sizes
  | .malformed _ _ => none

/-- The case, or the error of the text. -/
def problem : JobInput → Except InputError Case
  | .wellFormed problem => .ok problem
  | .malformed _ error => .error error

end JobInput

/-- One run of the solver to be made. -/
structure Job where
  /-- The name of the case, unique within its source. -/
  name : String
  /-- The generator or the directory of the case. -/
  source : String
  /-- The seed of a random case. -/
  seed : Option UInt64
  /-- The algorithm to run. -/
  algorithm : Algorithm
  /-- The input. -/
  input : JobInput
deriving DecidableEq

namespace Job

/-- The job of a generated case. -/
def ofGenerated (generated : GeneratedCase) (algorithm : Algorithm) : Job :=
  ⟨generated.name, generated.source, generated.seed, algorithm, .wellFormed generated.problem⟩

/-- The jobs of a campaign of random cases, one for each algorithm. -/
def ofCampaign (fuzzer : Fuzzer) (base : UInt64) (count : Nat) (algorithms : List Algorithm) :
    Except GenerateError (List Job) :=
  (fuzzer.campaign base count).map fun cases =>
    cases.flatMap fun generated => algorithms.map (ofGenerated generated)

/-- The file name under which the input of a job is kept when its run fails. A random case is
named by its seed; names of other cases are unique only within their source. -/
def archiveName (source name : String) (seed : Option UInt64) (algorithm : Algorithm) : String :=
  match seed with
  | some seed => s!"fuzz_fail_{seed}_{algorithm.name}.txt"
  | none => s!"fail_{source}_{name}_{algorithm.name}.txt"

/-- The file name under which the input of this job is kept. -/
def archiveFile (job : Job) : String := archiveName job.source job.name job.seed job.algorithm

end Job

end CopyOracle
