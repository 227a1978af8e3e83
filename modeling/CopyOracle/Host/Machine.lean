import CopyOracle.Host.Behaviour

/-!
# The machine that processes run on

A machine has files, pipes, a clock and processes. Descriptors of processes lead to what was
opened; a pipe is at its end when no process can write to it, and broken when none can read from
it. A file that is removed while it is open is kept for those who opened it.
-/
namespace CopyOracle.Host

/-- The bytes of a pipe that were written and not read. -/
structure Pipe where
  /-- The first bytes. -/
  front : ByteText := []
  /-- The bytes after them in pieces, the last piece first. -/
  back : List ByteText := []
  /-- How many there are. -/
  size : Nat := 0
  /-- Whether somebody outside the machine reads them all. -/
  isOutside : Bool := false

namespace Pipe

/-- How many bytes a pipe holds at most. -/
def capacity : Nat := 65536

/-- How many more bytes a pipe takes. -/
def room (pipe : Pipe) (wanted : Nat) : Nat :=
  if pipe.isOutside then wanted else min wanted (capacity - pipe.size)

/-- The pipe with more bytes in it. -/
def push (pipe : Pipe) (text : ByteText) (count : Nat) : Pipe :=
  { pipe with back := text :: pipe.back, size := pipe.size + count }

/-- All bytes of a pipe. -/
def content (pipe : Pipe) : ByteText := pipe.front ++ pipe.back.reverse.flatten

/-- The first bytes of a pipe, and the pipe without them. -/
def pull (pipe : Pipe) (count : Nat) : ByteText × Pipe :=
  let all := if pipe.back.isEmpty then pipe.front else pipe.content
  let taken := all.take count
  (taken, { pipe with front := all.drop count, back := [], size := pipe.size - taken.length })

end Pipe

/-- Which file was opened. -/
inductive FileName where
  /-- The one at a place. -/
  | named (place : Place)
  /-- One that was removed. -/
  | orphan (index : Nat)
deriving DecidableEq, Repr

/-- What a descriptor leads to. -/
inductive Opened where
  /-- A file, at an offset. -/
  | file (name : FileName) (offset : Nat) (mode : OpenMode)
  /-- A directory. -/
  | directory
  /-- An end of a pipe. -/
  | pipeEnd (pipe : Nat) (isReading : Bool)
  /-- A device. -/
  | device (device : Device)

/-- A descriptor of a process. -/
structure Slot where
  /-- Its number. -/
  number : Nat
  /-- What it leads to, by its place among all that was opened. -/
  opened : Nat
  /-- Whether other programs do not inherit it. -/
  isPrivate : Bool := false

/-- A process. -/
structure Process where
  /-- Its number. -/
  number : Nat
  /-- The number of the process that started it. -/
  parent : Nat
  /-- What it does from here on. -/
  behaviour : Behaviour
  /-- How it ended, if it did. -/
  ending : Option Ending := none
  /-- Whether a signal has stopped it. -/
  isStopped : Bool := false
  /-- Its descriptors. -/
  slots : List Slot := []
  /-- Its working directory. -/
  directory : Place := []
  /-- What it does on signals, where that is not what is usual. -/
  dispositions : List (Nat × Disposition) := []
  /-- The signals that it caught. -/
  caught : List Nat := []
  /-- Until when it sleeps. -/
  wakes : Option Nat := none
  /-- When its alarm rings. -/
  alarm : Option Nat := none
  /-- The group of processes to which it belongs, by the number of the first of them; the first
  process of all belongs to the group of those outside. -/
  group : Nat := 0

namespace Process

/-- What a descriptor of a process leads to. -/
def opened? (process : Process) (descriptor : Nat) : Option Nat :=
  (process.slots.find? fun slot => slot.number = descriptor).map Slot.opened

/-- The process without a descriptor. -/
def without (process : Process) (descriptor : Nat) : Process :=
  { process with slots := process.slots.filter fun slot => slot.number ≠ descriptor }

/-- The process with a descriptor that leads to something. -/
def withSlot (process : Process) (slot : Slot) : Process :=
  let others := process.without slot.number
  { others with slots := slot :: others.slots }

/-- The lowest number of a descriptor that is free, from one on. -/
def freeFrom (process : Process) (least : Nat) : Nat :=
  let used := process.slots.map Slot.number
  ((List.range (used.length + 1)).map (· + least)).find? (fun number => !used.contains number)
    |>.getD least

/-- What a process does on a signal. -/
def disposition (process : Process) (signal : Nat) : Disposition :=
  (process.dispositions.lookup signal).getD .usual

/-- The process after it ended. -/
def finish (process : Process) (ending : Ending) : Process :=
  { process with ending := some ending, slots := [], behaviour := .ended 0, wakes := none, alarm := none }

/-- The process after a signal reached it. -/
def receive (process : Process) (signal : Nat) : Process :=
  if process.ending.isSome || signal = 0 then process
  else
    let awake := if signal = Signal.continue_ then { process with isStopped := false } else process
    match if Signal.isForced signal then .usual else process.disposition signal with
    | .ignored => awake
    | .caught => { awake with caught := awake.caught ++ [signal] }
    | .usual =>
      if Signal.isHarmless signal then awake
      else if Signal.isStopping signal then { process with isStopped := true }
      else process.finish (.killed signal)

end Process

/-- The state of all that runs. -/
structure Machine where
  /-- The files. -/
  files : FileTree
  /-- The programs of the system. -/
  programs : List (String × Main)
  /-- All that was opened. -/
  opened : Array Opened := #[]
  /-- The files that were removed while they were open. -/
  orphans : Array ByteArray := #[]
  /-- All pipes. -/
  pipes : Array Pipe := #[]
  /-- The processes, in the order of their numbers. -/
  processes : List Process := []
  /-- The nanoseconds since the start. -/
  clock : Nat := 0
  /-- How much work was done. -/
  worked : Nat := 0
  /-- The number of the next process. -/
  nextNumber : Nat := 100

namespace Machine

/-- The process of a number. -/
def process? (machine : Machine) (number : Nat) : Option Process :=
  machine.processes.find? fun process => process.number = number

/-- The machine with a process in its new state. -/
def put (machine : Machine) (process : Process) : Machine :=
  { machine with
    processes := machine.processes.map fun other =>
      if other.number = process.number then process else other }

/-- Whether some process holds an end of a pipe. -/
def holds (machine : Machine) (pipe : Nat) (isReading : Bool) : Bool :=
  machine.processes.any fun process => process.slots.any fun slot =>
    match machine.opened[slot.opened]? with
    | some (.pipeEnd other otherReading) => other = pipe && otherReading = isReading
    | _ => false

/-- The bytes of an opened file. -/
def contentOf (machine : Machine) : FileName → ByteArray
  | .orphan index => machine.orphans[index]?.getD .empty
  | .named place =>
    match machine.files.get? place with
    | some (.file content _) => content
    | _ => .empty

/-- The machine with other bytes in an opened file. -/
def withContent (machine : Machine) (name : FileName) (content : ByteArray) : Machine :=
  match name with
  | .orphan index => { machine with orphans := machine.orphans.set! index content }
  | .named place =>
    let entry := (machine.files.get? place).getD (.file .empty)
    { machine with files := machine.files.put place (entry.withContent content) }

/-- The bytes with others written over them from an offset on. -/
def overwrite (content written : ByteArray) (offset : Nat) : ByteArray :=
  if offset = content.size then content ++ written
  else
    let front := content.extract 0 offset
    let gap : ByteArray := ⟨Array.replicate (offset - content.size) 0⟩
    front ++ gap ++ written ++ content.extract (offset + written.size) content.size

/-- The machine with something new that is open, and a descriptor of a process that leads to
it. -/
def install (machine : Machine) (process : Process) (opened : Opened) :
    Machine × Process × Nat :=
  let number := process.freeFrom 0
  ({ machine with opened := machine.opened.push opened },
    process.withSlot ⟨number, machine.opened.size, false⟩, number)

/-- The files as a process sees them. -/
def filesFor (machine : Machine) (process : Process) : FileTree :=
  { machine.files with workingDirectory := process.directory }

/-- The file that is opened at a place, and the files afterwards. -/
def openedAt (machine : Machine) (files : FileTree) (process : Process) (place : Place)
    (mode : OpenMode) : Except FileError (Opened × FileTree) :=
  let fresh (content : ByteArray) (isExecutable : Bool) : Opened × FileTree :=
    (.file (.named place) 0 mode, files.put place (.file content isExecutable))
  match files.get? place with
  | none => if mode.creates then .ok (fresh .empty false) else .error .notFound
  | some entry =>
    if mode.isExclusive then .error .exists
    else match entry with
    | .directory =>
      if mode.writes || mode.creates then .error .isDirectory else .ok (.directory, files)
    | .program _ =>
      if mode.writes then .error .permissionDenied else .ok (.device .null, files)
    | .device .terminal => .error .noDevice
    | .device (.descriptor number) =>
      match (process.opened? number).bind (machine.opened[·]?) with
      | none => .error .notFound
      | some (.file (.named place) _ _) =>
        match files.get? place with
        | some (.file content isExecutable) =>
          .ok (.file (.named place) 0 mode,
            if mode.truncates then files.put place (.file .empty isExecutable)
            else files.put place (.file content isExecutable))
        | _ => .error .notFound
      | some (.pipeEnd pipe _) => .ok (.pipeEnd pipe (mode.reads && !mode.writes), files)
      | some other => .ok (other, files)
    | .device device => .ok (.device device, files)
    | .file content isExecutable =>
      if mode.truncates then .ok (fresh .empty isExecutable)
      else .ok (.file (.named place) 0 mode, files.put place (.file content isExecutable))

/-- Opens a file for a process. -/
def openFile (machine : Machine) (process : Process) (path : ByteText) (mode : OpenMode) :
    Except FileError (Machine × Process × Nat) := do
  let files := machine.filesFor process
  let path := ByteText.asString path
  let place ← if mode.creates then files.writtenPlace path else files.locate path
  let (opened, files) ← machine.openedAt files process place mode
  return { machine with files := files }.install process opened

/-- Whether a process may write to what it opened. -/
def Opened.isWritable : Opened → Bool
  | .file _ _ mode => mode.writes
  | .pipeEnd _ isReading => !isReading
  | .device _ => true
  | .directory => false

/-- The machine with another state of something that is open. -/
def reopen (machine : Machine) (index : Nat) (opened : Opened) : Machine :=
  { machine with opened := machine.opened.set! index opened }

/-- So many bytes without order that follow from a number. -/
def noise : (count seed : Nat) → ByteText
  | 0, _ => []
  | count + 1, seed =>
    let next := (seed * 6364136223846793005 + 1442695040888963407) % 2 ^ 64
    Char.ofNat (next / 2 ^ 33 % 256) :: noise count next

/-- What reading comes to: bytes, a refusal, or nothing yet. -/
def read? (machine : Machine) (process : Process) (descriptor count : Nat) :
    Option (Machine × Except FileError ByteText) :=
  let refuse (error : FileError) := some (machine, Except.error error)
  match process.opened? descriptor with
  | none => refuse .badDescriptor
  | some index =>
    match machine.opened[index]? with
    | none => refuse .badDescriptor
    | some .directory => refuse .isDirectory
    | some (.device .null) => some (machine, .ok [])
    | some (.device .zero) | some (.device .full) =>
      some (machine, .ok (List.replicate count (Char.ofNat 0)))
    | some (.device .noise) => some (machine, .ok (noise count (machine.clock + machine.worked)))
    | some (.device _) => refuse .noDevice
    | some (.file name offset mode) =>
      if !mode.reads then refuse .badDescriptor
      else
        let bytes := (machine.contentOf name).extract offset (offset + count)
        some (machine.reopen index (.file name (offset + bytes.size) mode),
          .ok (ByteText.ofBytes bytes))
    | some (.pipeEnd _ false) => refuse .badDescriptor
    | some (.pipeEnd number true) =>
      match machine.pipes[number]? with
      | none => refuse .badDescriptor
      | some pipe =>
        if 0 < pipe.size then
          let (text, pipe) := pipe.pull count
          some ({ machine with pipes := machine.pipes.set! number pipe }, .ok text)
        else if machine.holds number false then
          if process.caught.isEmpty then none else refuse .interrupted
        else some (machine, .ok [])

/-- What writing comes to. -/
inductive Written where
  /-- All is written. -/
  | all (machine : Machine)
  /-- So much is left to be written. -/
  | part (machine : Machine) (rest : ByteText)
  /-- There is no room now. -/
  | later
  /-- Nobody reads it. -/
  | unread
  /-- It is refused. -/
  | refused (error : FileError)

/-- Writes for a process. -/
def write (machine : Machine) (process : Process) (descriptor : Nat) (text : ByteText) :
    Written :=
  match process.opened? descriptor with
  | none => .refused .badDescriptor
  | some index =>
    match machine.opened[index]? with
    | none | some .directory | some (.pipeEnd _ true) => .refused .badDescriptor
    | some (.device .full) => if text.isEmpty then .all machine else .refused .noSpace
    | some (.device _) => .all machine
    | some (.file name offset mode) =>
      if !mode.writes then .refused .badDescriptor
      else
        let content := machine.contentOf name
        let bytes := ByteText.toBytes text
        let start := if mode.appends then content.size else offset
        let machine := machine.reopen index (.file name (start + bytes.size) mode)
        .all (machine.withContent name (overwrite content bytes start))
    | some (.pipeEnd number false) =>
      match machine.pipes[number]? with
      | none => .refused .badDescriptor
      | some pipe =>
        if !pipe.isOutside && !machine.holds number true then .unread
        else
          let length := text.length
          let room := pipe.room length
          let filled (now : ByteText) : Machine :=
            { machine with pipes := machine.pipes.set! number (pipe.push now room) }
          if length = 0 then .all machine
          else if room = length then .all (filled text)
          else if room = 0 then .later
          else .part (filled (text.take room)) (text.drop room)

/-- The machine after its files were changed: a file that is open and was removed or replaced is
kept for those who opened it. -/
def withFiles (machine : Machine) (files : FileTree) : Machine :=
  let inUse := machine.processes.flatMap fun process => process.slots.map Slot.opened
  inUse.eraseDups.foldl (fun (changed : Machine) (index : Nat) =>
    match changed.opened[index]? with
    | some (.file (.named place) offset mode) =>
      let content := machine.contentOf (.named place)
      let isKept := match files.get? place with
        | some (.file now _) => now.data == content.data
        | _ => false
      if isKept then changed
      else
        { changed with orphans := changed.orphans.push content }.reopen index
          (.file (.orphan changed.orphans.size) offset mode)
    | _ => changed) { machine with files := { files with workingDirectory := [] } }

/-- The machine after a process ended: its children have no parent any more, and its own parent is
told. -/
def bury (machine : Machine) (process : Process) (ending : Ending) : Machine :=
  let machine := machine.put (process.finish ending)
  { machine with
    processes := (machine.processes.map fun other =>
      if other.parent = process.number then { other with parent := 0 }
      else if other.number = process.parent then other.receive Signal.child
      else other).filter
        fun other => other.parent ≠ 0 || other.ending.isNone || other.number = process.number }

/-- The first line of a file, which may name the program that reads it. -/
def firstLine (content : ByteArray) : ByteText :=
  (ByteText.ofBytes (content.extract 0 256)).takeWhile (· ≠ '\n')

/-- The program that runs when a path is executed, with what it is given. -/
def programFor (machine : Machine) (files : FileTree) : (depth : Nat) → (path : String) →
    Invocation → Except FileError (Main × Invocation)
  | 0, _, _ => .error .invalid
  | depth + 1, path, invocation => do
    match ← files.entry path with
    | .directory | .device _ => .error .permissionDenied
    | .program name =>
      match machine.programs.lookup name with
      | some main => .ok (main, invocation)
      | none => .error .notFound
    | .file content isExecutable =>
      if !isExecutable then .error .permissionDenied
      else match firstLine content with
      | '#' :: '!' :: line =>
        let isGap (c : Char) : Bool := c = ' ' || c = '\t'
        let line := ((line.dropWhile isGap).reverse.dropWhile isGap).reverse
        let interpreter := line.takeWhile fun c => !isGap c
        let option := (line.drop interpreter.length).dropWhile isGap
        let arguments := interpreter :: (if option.isEmpty then [] else [option]) ++
          ByteText.ofString path :: invocation.arguments.tail
        machine.programFor files depth (ByteText.asString interpreter)
          { invocation with arguments := arguments }
      | _ => .error .notProgram

/-- A process after it became another program. -/
def become (process : Process) (main : Main) (invocation : Invocation) : Process :=
  { process with
    behaviour := main invocation
    slots := process.slots.filter fun slot => !slot.isPrivate
    dispositions := process.dispositions.filter fun (_, disposition) => disposition = .ignored
    caught := [] }

/-- Whether a process is a child that is waited for. -/
def isAwaited (parent : Nat) (child : Option Nat) (process : Process) : Bool :=
  process.parent = parent && child.all (· = process.number)

/-- What became of the children of a process, if it need not wait, and the machine without the one
that ended. -/
def await? (machine : Machine) (process : Process) (child : Option Nat)
    (blocks isInterruptible : Bool) : Option (Machine × Awaited) :=
  let children := machine.processes.filter (isAwaited process.number child)
  match children.findSome? fun other => other.ending.map (other.number, ·) with
  | some (number, ending) =>
    some ({ machine with
      processes := machine.processes.filter fun other => other.number ≠ number },
      .ended number ending)
  | none =>
    if children.isEmpty then some (machine, .childless)
    else if !blocks then some (machine, .running)
    else if isInterruptible && !process.caught.isEmpty then some (machine, .interrupted)
    else none

/-- The time that a piece of work takes. It grows when more is done than any program of
reasonable length does. -/
def workTime (machine : Machine) : Nat := if machine.worked < 300000 then 1000 else 20000

/-- The machine after some pieces of work. -/
def spend (machine : Machine) (pieces : Nat) : Machine :=
  { machine with
    clock := machine.clock + pieces * machine.workTime, worked := machine.worked + pieces }

/-- How many nanoseconds it takes to start a process. -/
def startTime : Nat := 200000

/-- How many nanoseconds it takes a process to become another program. -/
def becomeTime : Nat := 500000

/-- How many bytes are moved in one piece of work. -/
def bytesAtOnce : Nat := 256

end Machine

end CopyOracle.Host
