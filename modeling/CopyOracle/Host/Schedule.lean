import CopyOracle.Host.Machine

/-!
# Running a machine

Processes take turns. A turn lasts until the process has to wait or has worked for long enough.
When all wait, the clock moves to the time at which the first sleeper wakes or the first alarm
rings; when there is no such time, nothing will ever happen again.
-/
namespace CopyOracle.Host

namespace Machine

/-- What comes of what a process asks for: an answer, or that it has to wait. -/
inductive Reply (asked : Call) where
  /-- An answer, with the machine and the process afterwards. -/
  | answer (machine : Machine) (process : Process) (value : asked.Answer)
  /-- None: the process has become something else, or has ended. -/
  | change (machine : Machine) (process : Process)
  /-- None yet. -/
  | wait

/-- The machine after a signal reached a process. -/
def deliver (machine : Machine) (number : Nat) (process : Process) : Machine :=
  let received := process.receive number
  match process.ending, received.ending with
  | none, some ending => machine.bury process ending
  | _, _ => machine.put received

/-- The processes to which a signal goes. -/
def targets (machine : Machine) (sender : Process) (target : Int) : List Process :=
  machine.processes.filter fun other =>
    if target = 0 then other.group = sender.group
    else if target < 0 then other.group ≠ 0 && -(other.group : Int) = target
    else (other.number : Int) = target

/-- The answer to a signal that a process sends. -/
def sendSignal (machine : Machine) (sender : Process) (target : Int) (number : Nat) :
    Machine × Except FileError Unit :=
  let found := machine.targets sender target
  if found.isEmpty then (machine, .error .noProcess)
  else
    (found.foldl (fun (machine : Machine) (process : Process) =>
      match machine.process? process.number with
      | some now => machine.deliver number now
      | none => machine) machine, .ok ())

/-- Answers a process, if it can be answered now. -/
def answer (machine : Machine) (process : Process) : (asked : Call) → Reply asked
  | .openFile path mode =>
    match machine.openFile process path mode with
    | .ok (machine, process, number) => .answer machine process (.ok number)
    | .error error => .answer machine process (.error error)
  | .close descriptor =>
    match process.opened? descriptor with
    | some _ => .answer machine (process.without descriptor) (.ok ())
    | none => .answer machine process (.error .badDescriptor)
  | .read descriptor count =>
    match machine.read? process descriptor count with
    | some (machine, value) =>
      let length := match value with
        | .ok text => text.length
        | .error _ => 0
      .answer (machine.spend (1 + length / bytesAtOnce)) process value
    | none => .wait
  | .giveBack descriptor count =>
    match process.opened? descriptor with
    | none => .answer machine process ()
    | some index =>
      match machine.opened[index]? with
      | some (.file name offset mode) =>
        .answer (machine.reopen index (.file name (offset - count) mode)) process ()
      | _ => .answer machine process ()
  | .write descriptor text =>
    match machine.write process descriptor text with
    | .all machine => .answer (machine.spend (1 + text.length / bytesAtOnce)) process (.ok ())
    | .refused error => .answer machine process (.error error)
    | .unread =>
      match process.disposition Signal.pipe with
      | .usual => .change machine (process.finish (.killed Signal.pipe))
      | _ => .answer machine process (.error .brokenPipe)
    | .later => .wait
    | .part machine rest =>
      match process.behaviour with
      | .call (.write descriptor _) next =>
        .change machine { process with behaviour := .call (.write descriptor rest) next }
      | _ => .wait
  | .duplicate source target =>
    match process.opened? source with
    | some opened => .answer machine (process.withSlot ⟨target, opened, false⟩) (.ok ())
    | none => .answer machine process (.error .badDescriptor)
  | .keep source least =>
    match process.opened? source with
    | some opened =>
      let number := process.freeFrom least
      .answer machine (process.withSlot ⟨number, opened, true⟩) (.ok number)
    | none => .answer machine process (.error .badDescriptor)
  | .pipe =>
    let pipe := machine.pipes.size
    let machine := { machine with pipes := machine.pipes.push {} }
    let (machine, process, reading) := machine.install process (.pipeEnd pipe true)
    let (machine, process, writing) := machine.install process (.pipeEnd pipe false)
    .answer machine process (reading, writing)
  | .inspect descriptor =>
    let kind := match (process.opened? descriptor).bind (machine.opened[·]?) with
      | none => none
      | some (.file _ _ _) => some StreamKind.file
      | some .directory => some .directory
      | some (.pipeEnd _ _) => some .pipe
      | some (.device _) => some .device
    .answer machine process kind
  | .files => .answer machine process (machine.filesFor process)
  | .change edit =>
    match edit (machine.filesFor process) with
    | .ok files => .answer (machine.withFiles files) process (.ok ())
    | .error error => .answer machine process (.error error)
  | .enter place => .answer machine { process with directory := place } ()
  | .execute path arguments environment =>
    let files := machine.filesFor process
    match machine.programFor files 5 (ByteText.asString path) ⟨arguments, environment⟩ with
    | .ok (main, invocation) =>
      .change { machine with clock := machine.clock + becomeTime } (become process main invocation)
    | .error error => .answer machine process error
  | .await child blocks isInterruptible =>
    match machine.await? process child blocks isInterruptible with
    | some (machine, awaited) => .answer machine process awaited
    | none => .wait
  | .sleep nanoseconds =>
    match process.wakes with
    | none => .change machine { process with wakes := some (machine.clock + nanoseconds) }
    | some time =>
      if time ≤ machine.clock then .answer machine { process with wakes := none } () else .wait
  | .clock => .answer machine process machine.clock
  | .signal target number =>
    let (machine, value) := machine.sendSignal process target number
    match machine.process? process.number with
    | some process =>
      if process.ending.isSome then .change machine process else .answer machine process value
    | none => .answer machine process value
  | .lead => .answer machine { process with group := process.number } ()
  | .alarm nanoseconds =>
    let time := if nanoseconds = 0 then none else some (machine.clock + nanoseconds)
    .answer machine { process with alarm := time } ()
  | .dispose number disposition =>
    let others := process.dispositions.filter fun (other, _) => other ≠ number
    .answer machine { process with dispositions := (number, disposition) :: others } ()
  | .disposition number => .answer machine process (process.disposition number)
  | .caught => .answer machine { process with caught := [] } process.caught
  | .identity => .answer machine process (process.number, process.parent)
  | .work =>
    .answer (machine.spend 1) process ()

/-- Whether a process can go on as far as it is itself concerned. -/
def isRunning (process : Process) : Bool := process.ending.isNone && !process.isStopped

/-- What one step of a process comes to. -/
inductive Step where
  /-- Something happened. -/
  | goesOn (machine : Machine)
  /-- It waits, and nothing has changed. -/
  | waits

/-- One step of a process: it ends, starts a child, or asks for something. -/
def step (machine : Machine) (process : Process) : Step :=
  match process.behaviour with
  | .ended status => .goesOn (machine.bury process (.exited (status % 256)))
  | .fork child next =>
    let number := machine.nextNumber
    let started : Process :=
      { number := number, parent := process.number, behaviour := child (), slots := process.slots
        directory := process.directory, dispositions := process.dispositions
        group := process.group }
    let machine := machine.put { process with behaviour := next number }
    .goesOn { machine with
      processes := machine.processes ++ [started], nextNumber := number + 1
      clock := machine.clock + startTime }
  | .call asked next =>
    match machine.answer process asked with
    | .answer machine process value =>
      .goesOn (machine.put { process with behaviour := next value })
    | .change machine after =>
      match after.ending with
      | some ending => .goesOn (machine.bury process ending)
      | none => .goesOn (machine.put after)
    | .wait => .waits

/-- How many steps a turn has at most. -/
def turnLength : Nat := 5000

/-- How many nanoseconds a turn takes at most, but for its last step. -/
def turnTime : Nat := 5000000

/-- One turn of a process, up to a time: the machine after it, and whether something happened. -/
def turn (number latest : Nat) : (steps : Nat) → (hasMoved : Bool) → Machine → Machine × Bool
  | 0, hasMoved, machine => (machine, hasMoved)
  | steps + 1, hasMoved, machine =>
    match machine.process? number with
    | none => (machine, hasMoved)
    | some process =>
      if !isRunning process || latest < machine.clock then (machine, hasMoved)
      else match machine.step process with
      | .goesOn machine => turn number latest steps true machine
      | .waits => (machine, hasMoved)

/-- The machine after the alarms that are due have rung. -/
def ring (machine : Machine) : Machine :=
  let due := machine.processes.filter fun process => process.alarm.any (· ≤ machine.clock)
  due.foldl (fun (machine : Machine) (process : Process) =>
    machine.deliver Signal.alarm { process with alarm := none }) machine

/-- One turn of every process. -/
def round (machine : Machine) : Machine × Bool :=
  machine.processes.foldl (fun (machine, hasMoved) process =>
    let (machine, moves) :=
      turn process.number (machine.clock + turnTime) turnLength false machine
    (machine, hasMoved || moves)) (machine, false)

/-- When the first sleeper wakes or the first alarm rings. -/
def nextWaking? (machine : Machine) : Option Nat :=
  ((machine.processes.filter isRunning).filterMap Process.wakes ++
    machine.processes.filterMap Process.alarm).min?

/-- Runs a machine until a time has come or nothing more is of interest. -/
def run (isOver : Machine → Bool) (limit : Nat) : (rounds : Nat) → Machine → Machine
  | 0, machine => { machine with clock := max machine.clock limit }
  | rounds + 1, machine =>
    if isOver machine || limit ≤ machine.clock then machine
    else
      let (after, hasMoved) := machine.ring.round
      if hasMoved then run isOver limit rounds after
      else if isOver after then after
      else match after.nextWaking? with
      | some time =>
        if limit ≤ time then { after with clock := limit }
        else run isOver limit rounds { after with clock := max after.clock time }
      | none => { after with clock := max after.clock limit }

end Machine

end CopyOracle.Host
