import CopyOracle.Shell.Descriptors

/-!
# Waiting for processes

A shell waits for the processes of a command, notes the ends of those in the background, and says
so when a process that it waits for was ended by a signal. Signals that it catches meanwhile are
kept until it is ready for them.
-/
namespace CopyOracle.Shell

open Host

namespace Job

/-- The job after the end of a process. -/
def note (job : Job) (number : Nat) (ending : Ending) : Job :=
  { job with
    processes := job.processes.map fun (other, known) =>
      if other = number then (other, some ending) else (other, known) }

/-- Whether all of its processes have ended. -/
def isDone (job : Job) : Bool := job.processes.all fun (_, ending) => ending.isSome

/-- How its last process ended. -/
def ending (job : Job) : Option Ending := job.processes.getLast?.bind Prod.snd

end Job

/-- The status of a process that ended. -/
def statusOf : Ending → Nat
  | .exited status => status
  | .killed signal => 128 + signal

namespace Execution

/-- Notes the end of a process in the background. -/
def noteEnd (number : Nat) (ending : Ending) : Execution Unit :=
  modify fun context => { context with jobs := context.jobs.map fun job => job.note number ending }

/-- Says that a process was ended by a signal; an interruption or a broken pipe goes without
saying. -/
def announce (ending : Ending) : Execution Unit := do
  match ending with
  | .exited _ => return ()
  | .killed signal =>
    unless signal = 2 || signal = Signal.pipe do
      complainRaw ((Signal.notice signal).toList ++ ['\n'])

/-- Keeps the signals that were caught. -/
def keepCaught : Execution Unit := do
  let signals ← call .caught
  modify fun context => { context with pending := context.pending ++ signals }

/-- Waits until all of some processes have ended, and gives the ends. -/
def awaitProcesses : (fuel : Nat) → List (Nat × Option Ending) →
    Execution (List (Nat × Option Ending))
  | 0, processes => return processes
  | fuel + 1, processes => do
    if processes.all fun (_, ending) => ending.isSome then return processes
    match ← call (.await none true false) with
    | .ended number ending =>
      if processes.any fun (other, _) => other = number then
        announce ending
        awaitProcesses fuel (processes.map fun (other, known) =>
          if other = number then (other, some ending) else (other, known))
      else
        noteEnd number ending
        awaitProcesses fuel processes
    | .running | .interrupted => awaitProcesses fuel processes
    | .childless => return processes

/-- Waits for the processes of a command and gives the status of the last one. -/
def awaitCommand (processes : List Nat) : Execution Nat := do
  let ended ← awaitProcesses Reading.limit (processes.map (·, none))
  return ((ended.getLast?.bind Prod.snd).map statusOf).getD 0

/-- Notes which processes in the background have ended by now. -/
def noteEnds : (fuel : Nat) → Execution Unit
  | 0 => return ()
  | fuel + 1 => do
    if (← get).jobs.any fun job => !job.isDone then
      match ← call (.await none false false) with
      | .ended number ending =>
        noteEnd number ending
        noteEnds fuel
      | _ => return ()

/-- Waits until some job has ended, or any if none is named; gives the signal that came first. -/
def awaitJob (isDone : Context → Bool) (isAnnounced : Nat → Context → Bool) : (fuel : Nat) →
    Execution (Option Nat)
  | 0 => return none
  | fuel + 1 => do
    let context ← get
    if isDone context then return none
    match ← call (.await none true true) with
    | .ended number ending =>
      if isAnnounced number context then announce ending
      noteEnd number ending
      awaitJob isDone isAnnounced fuel
    | .running => awaitJob isDone isAnnounced fuel
    | .interrupted =>
      keepCaught
      return (← get).pending.getLast?
    | .childless => return none

/-- Forgets the jobs that are of no interest any more. -/
def forgetJobs : Execution Unit :=
  modify fun context =>
    { context with jobs := context.jobs.filter fun job => !(job.isDone && job.isSettled) }

/-- The lowest number that no job has. -/
def freeJobNumber (jobs : List Job) : Nat :=
  let used := jobs.map Job.number
  (((List.range (used.length + 1)).map (· + 1)).find? fun number => !used.contains number).getD 1

/-- Notes processes in the background as a job. -/
def addJob (processes : List Nat) : Execution Unit :=
  modify fun context =>
    { context with
      jobs := ⟨freeJobNumber context.jobs, processes.map (·, none), false⟩ :: context.jobs
      lastBackground := processes.getLast? }

/-- What a shell that was started by another one takes over from it, with the traps that it does
not. -/
def childContext (context : Context) : Context :=
  { context with
    jobs := [], pending := []
    traps := context.traps.filter fun (_, action) => action.isEmpty }

/-- Starts a shell that does something and ends with its status. One in the background is not
interrupted, and the first of its kind reads nothing. -/
def startShell (isBackground isFirst : Bool) (body : Execution Nat) : Execution Nat := do
  forgetJobs
  let context ← get
  let inherited := context.traps.filter fun (signal, action) => signal ≠ 0 && !action.isEmpty
  let prepared : Execution Nat := do
    for (signal, _) in inherited do call (.dispose signal .usual)
    if isBackground then
      call (.dispose 2 .ignored)
      call (.dispose 3 .ignored)
      if isFirst then
        let _ ← call (.close 0)
        let _ ← call (.openFile "/dev/null".toList .read)
    body
  fork fun context => (prepared (childContext context)) fun (result, _) =>
    .ended (match result with
      | .ok status | .error (.exit status) | .error (.fault status) => status
      | .error _ => 0)

end Execution

end CopyOracle.Shell
