import CopyOracle.Batch.Execution
import CopyOracle.CommandLine.Request
import CopyOracle.Corpus
import CopyOracle.Summary

/-!
# Execution of requests

A request reads and writes files and gives a summary. What a command cannot do without is an
error; a run that fails is part of the summary. Whatever was written before an error stays. The
solvers that a request names are run by the launcher of the system.
-/
namespace CopyOracle

/-- Why a request could not be carried out. -/
inductive RequestError where
  /-- A file named in the request could not be read. -/
  | unreadable (path : String) (cause : FileError)
  /-- A batch or a corpus could not be set up. -/
  | setup (error : SetupError)
  /-- No cases could be generated. -/
  | generation (error : GenerateError)
deriving DecidableEq, Repr

/-- The wording of a request error. -/
def RequestError.message : RequestError → String
  | .unreadable path cause => s!"failed to read `{path}`: {cause.message}"
  | .setup error => error.message
  | .generation error => error.message

/-- An action of a request. -/
abbrev RequestAction := FileAction RequestError

namespace RequestAction

/-- An action on a batch or a corpus, as one of a request. -/
def ofSetup {α : Type} (action : FileAction SetupError α) : RequestAction α :=
  action.adapt RequestError.setup

/-- A result of a generator, as an action of a request. -/
def ofGeneration {α : Type} (result : Except GenerateError α) : RequestAction α :=
  match result with
  | .ok generated => pure generated
  | .error error => throw (.generation error)

/-- The text of a file named in the request. -/
def readNamed (path : String) : RequestAction String :=
  FileAction.inspect (.unreadable path) (·.readText path)

end RequestAction

/-- Runs a solver on jobs, and writes the records if they are wanted. -/
def SolverOptions.execute (launcher : Launcher) (options : SolverOptions) (jobs : List Job)
    (archive : Option String) (seed : Option UInt64) : RequestAction Summary := .ofSetup do
  let batch ← (Batch.make options.solver (options.batchSettings archive) : Except SetupError Batch)
  let progress ← batch.run launcher jobs false
  let report := progress.report
  match options.output with
  | some path =>
    FileAction.change (.notWritten path)
      (·.writeText path (.ofList (Record.writeAll report.records)))
  | none => pure ()
  return .batch report options.output seed

/-- Runs a solver on all cases of the corpora. -/
def BatchRequest.run (launcher : Launcher) (request : BatchRequest) : RequestAction Summary := do
  let corpora ← RequestAction.ofSetup (request.corpora.mapM Corpus.load)
  let jobs := corpora.flatten.flatMap (·.jobs request.options.chosenAlgorithms)
  request.options.execute launcher jobs request.options.archive none

namespace FuzzRequest

/-- The directory for the inputs of failed runs when none is named. -/
def defaultArchive : String := "fuzz_failures"

/-- The distribution of the random cases. -/
def settings (request : FuzzRequest) : FuzzSettings :=
  { impossibleProbability := request.impossibleProbability
    plantedProbability := request.plantedProbability }

/-- Runs a solver on random cases; a seed stands ready in case the request has none. -/
def run (launcher : Launcher) (request : FuzzRequest) (spareSeed : UInt64) :
    RequestAction Summary := do
  let seed := request.seed.getD spareSeed
  let fuzzer ← RequestAction.ofGeneration (Fuzzer.make request.settings)
  let jobs ← RequestAction.ofSetup (Batch.campaignJobs fuzzer seed request.count
    request.options.chosenAlgorithms : Except SetupError (List Job))
  request.options.execute launcher jobs (some (request.options.archive.getD defaultArchive)) (some seed)

end FuzzRequest

namespace GenerateRequest

/-- Writes cases into a directory of their own, and gives it with their number. -/
def writeCorpus (request : GenerateRequest) (name : String) (cases : List GeneratedCase) :
    RequestAction (String × Nat) := do
  let directory := Path.join request.directory s!"tests_{name}"
  RequestAction.ofSetup (Corpus.write directory cases)
  return (directory, cases.length)

/-- Writes the corpora of some families, drawn one after another from one generator. -/
def writeFamilies (request : GenerateRequest) :
    List Family → Generator → RequestAction (List (String × Nat))
  | [], _ => return []
  | family :: rest, generator => do
    let (drawn, generator) := family.generate.run generator
    let cases ← RequestAction.ofGeneration drawn
    let written ← request.writeCorpus family.name cases
    return written :: (← request.writeFamilies rest generator)

/-- Writes the corpus of random cases, if there are to be any. -/
def writeRandom (request : GenerateRequest) : RequestAction (List (String × Nat)) := do
  if request.fuzzCount = 0 then return []
  else
    let settings : FuzzSettings := { impossibleProbability := request.impossibleProbability }
    let fuzzer ← RequestAction.ofGeneration (Fuzzer.make settings)
    let cases ← RequestAction.ofGeneration (fuzzer.campaign request.seed request.fuzzCount)
    return [← request.writeCorpus Fuzzer.source cases]

/-- Writes the corpora. -/
def run (request : GenerateRequest) : RequestAction Summary := do
  let families ← request.writeFamilies request.chosenFamilies (.ofSeed request.seed)
  let random ← request.writeRandom
  return .generated (families ++ random)

end GenerateRequest

/-- Judges an answer that was kept. -/
def CheckRequest.run (request : CheckRequest) : RequestAction Summary := do
  let input ← RequestAction.readNamed request.input
  let stdout ← RequestAction.readNamed request.stdout
  let stderr ← request.stderr.mapM RequestAction.readNamed
  let capture : Capture :=
    { stdout := stdout.toList, stderr := (stderr.getD "").toList, status := some request.status,
      elapsed := .zero }
  return .checked request.input
    (Judgement.ofRun request.strictOrder (Case.parse input) (.completed capture))

/-- Carries out a request; a seed stands ready for a campaign without one. -/
def Request.run (launcher : Launcher) (request : Request) (spareSeed : UInt64) :
    RequestAction Summary :=
  match request with
  | .batch request => request.run launcher
  | .fuzz request => request.run launcher spareSeed
  | .generate request => request.run
  | .check request => request.run

end CopyOracle
