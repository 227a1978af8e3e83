import CopyOracle.Batch.Error
import CopyOracle.File.Path
import CopyOracle.Job.Record
import CopyOracle.Job.Solver
import CopyOracle.Tally.Basic

/-!
# Batches

A batch runs jobs against one solver, with so many workers at once, and may stop taking jobs
after so many failures. Its report keeps the records of the jobs that ran, in job order, whatever
the order in which they ended.
-/
namespace CopyOracle

/-- How a batch is to be run. -/
structure BatchSettings where
  /-- How many jobs run at once. -/
  workers : Nat := 1
  /-- Whether copies out of order are a fault. -/
  strictOrder : Bool := false
  /-- After how many failures no more job is taken. -/
  maxFailures : Option Nat := none
  /-- The directory that keeps the inputs of failed runs. -/
  archive : Option String := none
deriving DecidableEq, Repr

namespace BatchSettings

/-- Whether so many failures stop the batch. -/
def stopsAfter (settings : BatchSettings) (failures : Nat) : Bool :=
  match settings.maxFailures with
  | some limit => limit ≤ failures
  | none => false

/-- What is wrong with the settings. -/
def fault? (settings : BatchSettings) : Option BatchFault :=
  if settings.workers = 0 then some .noWorker
  else if settings.maxFailures = some 0 then some .noFailure
  else none

end BatchSettings

/-- What is wrong with a solver: it needs time for its runs. -/
def Solver.fault? (solver : Solver) : Option BatchFault :=
  if solver.timeout = .zero then some .noTime else none

/-- A solver and the settings of its batch. -/
structure Batch where
  /-- The solver. -/
  solver : Solver
  /-- The settings. -/
  settings : BatchSettings
deriving DecidableEq, Repr

/-- A solver that can be run. -/
def Solver.validate (solver : Solver) : Except SetupError Solver :=
  match solver.fault? with
  | some fault => .error (.invalidSettings fault)
  | none => .ok solver

/-- The batch of a solver and settings that can be used; the solver is looked at first. -/
def Batch.make (solver : Solver) (settings : BatchSettings) : Except SetupError Batch :=
  match solver.fault?, settings.fault? with
  | some fault, _ | none, some fault => .error (.invalidSettings fault)
  | none, none => .ok ⟨solver, settings⟩

/-- The jobs of a campaign of random cases. -/
def Batch.campaignJobs (fuzzer : Fuzzer) (base : UInt64) (count : Nat)
    (algorithms : List Algorithm) : Except SetupError (List Job) :=
  (Job.ofCampaign fuzzer base count algorithms).mapError .generation

/-- A job that ran. -/
structure Executed where
  /-- Its record. -/
  record : Record
  /-- Where its input is kept, if it failed. -/
  archived : Option String
deriving DecidableEq, Repr

/-- The record of a job whose run ended so, and where its input is kept. -/
def BatchSettings.judge (settings : BatchSettings) (job : Job) (outcome : RunOutcome) : Executed :=
  let record := Record.ofJudgement job
    (Judgement.ofRun settings.strictOrder job.input.problem outcome)
  ⟨record, if record.passed then none
    else settings.archive.map fun directory => Path.join directory job.archiveFile⟩

/-- What a batch produced. -/
structure BatchReport where
  /-- The records of the jobs that ran, in job order. -/
  records : List Record := []
  /-- The counts over the jobs that ran. -/
  tally : Tally := {}
  /-- How many jobs were not taken because the batch had stopped. -/
  skipped : Nat := 0
  /-- Where the inputs of failed runs are kept, in job order. -/
  archived : List String := []
deriving DecidableEq, Repr

namespace BatchReport

/-- The counts over recorded runs. -/
def tallyOf (records : List Record) : Tally :=
  records.foldl (fun tally record =>
    tally.record record.source record.algorithm record.verdict record.time) {}

/-- The report on jobs, in job order, of which those that were not taken have no result. -/
def ofResults (results : List (Option Executed)) : BatchReport :=
  let executed := results.filterMap id
  let records := executed.map Executed.record
  { records := records
    tally := tallyOf records
    skipped := results.countP Option.isNone
    archived := executed.filterMap Executed.archived }

/-- Whether every job ran and passed. -/
def isClean (report : BatchReport) : Bool := report.skipped = 0 && report.tally.allPassed

end BatchReport

end CopyOracle
