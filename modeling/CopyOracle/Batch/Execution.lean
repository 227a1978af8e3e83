import CopyOracle.Batch.Progress
import CopyOracle.File.Action

/-!
# Running a batch

The jobs are taken in order. Each is given its input in a file of its own, named after its place
among the jobs, in a directory that is removed at the end. Files are read and written by one worker,
whatever number the settings allow: what happens is one schedule of the batch, so what holds of all
schedules holds of this one, but the order in which files are written is that of the jobs.
-/
namespace CopyOracle.Batch

variable (launcher : Launcher)

/-- The directory of the input files. -/
def scratchDirectory : String := "/tmp/copy-oracle"

/-- The name of the input file of a job at a place among the jobs. -/
def inputName (index : Nat) (algorithm : Algorithm) : String :=
  let digits := Numeral.digits index
  .ofList (List.replicate (5 - digits.length) '0' ++ digits) ++ s!"_{algorithm.name}.txt"

/-- Runs the solver on the input of a job. -/
def launch (batch : Batch) (index : Nat) (job : Job) : FileAction SetupError RunOutcome := do
  let path := Path.join scratchDirectory (inputName index job.algorithm)
  FileAction.change (.notWritten path) (·.writeText path job.input.text)
  let outcome ← (batch.solver.run launcher path job.algorithm : StateM FileTree RunOutcome)
  modify (·.remove path)
  return outcome

/-- Keeps the input of a job that failed. -/
def archive (batch : Batch) (job : Job) (outcome : RunOutcome) : FileAction SetupError Unit := do
  match (batch.settings.judge job outcome).archived with
  | some path => FileAction.change (.notWritten path) (·.writeText path job.input.text)
  | none => return ()

/-- The progress after an event; an event that cannot happen changes nothing. -/
def advance (batch : Batch) (jobs : List Job) (event : BatchEvent) (progress : Progress) :
    Progress :=
  (progress.advance? batch.settings jobs event).getD progress

/-- Takes a job, and runs it unless the batch has stopped. -/
def runJob (batch : Batch) (jobs : List Job) (progress : Progress) (job : Job) (index : Nat) :
    FileAction SetupError Progress := do
  let taken := batch.advance jobs (.take index) progress
  match taken.phases[index]? with
  | some .running =>
    let outcome ← batch.launch launcher index job
    let finished := batch.advance jobs (.finish index outcome) taken
    batch.archive job outcome
    return batch.advance jobs (.compare index) finished
  | _ => return taken

/-- Makes the directories that a batch needs. -/
def prepare (batch : Batch) : FileAction SetupError Unit := do
  FileAction.change .noScratch (·.makeDirectoryAll scratchDirectory)
  match batch.settings.archive with
  | some directory =>
    FileAction.change (.directoryNotMade directory) (·.makeDirectoryAll directory)
  | none => return ()

/-- Runs all jobs, one after the other, and gives the progress at the end; a batch may be told to
stop before it starts. -/
def run (batch : Batch) (jobs : List Job) (stopped : Bool) : FileAction SetupError Progress := do
  batch.prepare
  let start := { Progress.start jobs with stopped := stopped }
  try
    jobs.zipIdx.foldlM
      (fun progress (job, index) => batch.runJob launcher jobs progress job index) start
  finally
    modify (·.remove scratchDirectory)

end CopyOracle.Batch
