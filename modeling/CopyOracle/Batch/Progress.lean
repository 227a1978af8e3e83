import CopyOracle.Batch.Basic

/-!
# Progress of a batch

Workers take jobs, run them, and count those that failed. A job that failed is counted first,
and only then the batch is told to stop if the count has reached the limit; between the two
events other workers go on. A schedule is a list of events, and every order of events that the
rules allow is a schedule, so what holds of all schedules holds however the workers interleave.
-/
namespace CopyOracle

/-- Where a job stands. -/
inductive JobPhase where
  /-- No worker has taken it. -/
  | waiting
  /-- A worker runs it. -/
  | running
  /-- It failed, which made so many failures in all, and its worker is about to compare that
  number with the limit. -/
  | failing (failures : Nat) (executed : Executed)
  /-- It ran. -/
  | finished (executed : Executed)
  /-- A worker took it after the batch had stopped. -/
  | skipped
deriving DecidableEq, Repr

/-- Whether a worker is busy with the job. -/
def JobPhase.isBusy : JobPhase → Bool
  | .running | .failing _ _ => true
  | _ => false

/-- Whether nothing more will happen to the job. -/
def JobPhase.isSettled : JobPhase → Bool
  | .finished _ | .skipped => true
  | _ => false

/-- The result of the job, if it ran. -/
def JobPhase.result? : JobPhase → Option Executed
  | .finished executed | .failing _ executed => some executed
  | _ => none

/-- Where a batch stands. -/
structure Progress where
  /-- Where each job stands, in job order. -/
  phases : List JobPhase
  /-- How many jobs have failed. -/
  failures : Nat := 0
  /-- Whether the batch is to stop. -/
  stopped : Bool := false
deriving DecidableEq, Repr

/-- What happens in a batch. -/
inductive BatchEvent where
  /-- A worker that is free takes a waiting job. -/
  | take (job : Nat)
  /-- A running job ends so. -/
  | finish (job : Nat) (outcome : RunOutcome)
  /-- The worker of a failing job compares its count with the limit. -/
  | compare (job : Nat)
deriving DecidableEq, Repr

namespace Progress

/-- No job is taken yet. -/
def start (jobs : List Job) : Progress := ⟨jobs.map fun _ => .waiting, 0, false⟩

/-- How many workers are busy. -/
def busy (progress : Progress) : Nat := progress.phases.countP JobPhase.isBusy

/-- The progress with one job elsewhere. -/
def move (progress : Progress) (job : Nat) (phase : JobPhase) : Progress :=
  { progress with phases := progress.phases.set job phase }

/-- The progress after an event, if the event can happen. -/
def advance? (settings : BatchSettings) (jobs : List Job) (progress : Progress) :
    BatchEvent → Option Progress
  | .take job =>
    match progress.phases[job]? with
    | some .waiting =>
      if progress.busy < settings.workers then
        some (progress.move job (if progress.stopped then .skipped else .running))
      else none
    | _ => none
  | .finish job outcome =>
    match progress.phases[job]?, jobs[job]? with
    | some .running, some taken =>
      let executed := settings.judge taken outcome
      if executed.record.passed then some (progress.move job (.finished executed))
      else
        let failures := progress.failures + 1
        some { progress.move job (.failing failures executed) with failures := failures }
    | _, _ => none
  | .compare job =>
    match progress.phases[job]? with
    | some (.failing failures executed) =>
      some { progress.move job (.finished executed) with
        stopped := progress.stopped || settings.stopsAfter failures }
    | _ => none

/-- The progress after the events of a schedule. -/
def run? (settings : BatchSettings) (jobs : List Job) (progress : Progress) :
    List BatchEvent → Option Progress
  | [] => some progress
  | event :: later => (progress.advance? settings jobs event).bind (run? settings jobs · later)

/-- Whether all jobs are settled. -/
def isComplete (progress : Progress) : Bool := progress.phases.all JobPhase.isSettled

/-- The report on the jobs. -/
def report (progress : Progress) : BatchReport :=
  .ofResults (progress.phases.map JobPhase.result?)

end Progress

end CopyOracle
