import CopyOracle.Host.Schedule
import CopyOracle.Job.Solver
import CopyOracle.Shell.Session
import CopyOracle.Tool.Table

/-!
# Bounded runs

A program is run on a file tree within a time. It is a program of the system or a script. A run
whose program ends in time can still run out of time if something that it left behind holds its
output open; a short grace is given after the end of the program, even past the time.

The system is a small one of its own: a shell, the usual tools, and scripts for them. It is one
launcher among others, the one with which the program is tried where its solvers are scripts, and
no property of batches depends on it.
-/
namespace CopyOracle.Shell

open Host

/-- The programs of a system: the shell and the tools. -/
def programs : List (String × Main) := [("sh", main), ("dash", main)] ++ Tool.table

/-- The directories of a system. -/
def systemDirectories : List Place :=
  [["bin"], ["boot"], ["dev"], ["dev", "fd"], ["dev", "shm"], ["etc"], ["home"], ["lib"],
    ["media"], ["mnt"], ["opt"], ["proc"], ["root"], ["run"], ["sbin"], ["srv"], ["sys"], ["tmp"],
    ["usr"], ["usr", "bin"], ["usr", "include"], ["usr", "lib"], ["usr", "local"],
    ["usr", "local", "bin"], ["usr", "local", "lib"], ["usr", "local", "sbin"], ["usr", "sbin"],
    ["usr", "share"], ["var"], ["var", "lib"], ["var", "log"], ["var", "tmp"]]

/-- The devices of a system. -/
def systemDevices : List (Place × Device) :=
  [(["dev", "null"], .null), (["dev", "zero"], .zero), (["dev", "full"], .full),
    (["dev", "random"], .noise), (["dev", "urandom"], .noise),
    (["dev", "tty"], .terminal), (["dev", "stdin"], .descriptor 0),
    (["dev", "stdout"], .descriptor 1), (["dev", "stderr"], .descriptor 2)] ++
    (List.range 10).map fun number => (["dev", "fd", toString number], .descriptor number)

/-- The files of a system: its directories, its programs and its devices. -/
def systemFiles : FileTree where
  entries :=
    systemDirectories.map (·, .directory) ++
    systemDevices.map (fun (place, device) => (place, .device device)) ++
    programs.flatMap fun (name, _) =>
      [(["bin", name], .program name), (["usr", "bin", name], .program name)]

/-- The directories in which a program without a path is looked for. -/
def programDirectories : List String :=
  ["/usr/local/sbin", "/usr/local/bin", "/usr/sbin", "/usr/bin", "/sbin", "/bin"]

/-- Whether a path is that of a program that can be started. -/
def checkProgram (machine : Machine) (path : String) : Except FileError Unit := do
  let _ ← machine.programFor machine.files 5 path ⟨[ByteText.ofString path], []⟩

/-- The path of a program, which is looked for if it is only a name. A place where it may not be
run is remembered as the cause if there is no other. -/
def findProgram (machine : Machine) (program : String) : Except FileError String := do
  if program.toList.contains '/' || program = "" then
    checkProgram machine program
    return program
  else if FileTree.longestName < program.utf8ByteSize then throw .nameTooLong
  else search programDirectories .notFound
where
  /-- Looks in one directory after the other. -/
  search : List String → FileError → Except FileError String
    | [], error => .error error
    | directory :: rest, error =>
      let path := Path.join directory program
      match checkProgram machine path with
      | .ok _ => .ok path
      | .error .permissionDenied => search rest .permissionDenied
      | .error .notFound | .error .notDirectory => search rest error
      | .error other => .error other

/-- The number of the process that runs the program. -/
def mainNumber : Nat := 100

/-- The pipes for the output and for the complaints of the program. -/
def outputPipe : Nat := 0

/-- The pipe for the complaints of the program. -/
def errorPipe : Nat := 1

/-- The variables that a program is given. -/
def surroundings : List ByteText :=
  ["HOME=/root", "PATH=/usr/local/sbin:/usr/local/bin:/usr/sbin:/usr/bin:/sbin:/bin"].map
    String.toList

/-- The machine at the start of a program: nothing to read, and both outputs are collected. -/
def startOf (files : FileTree) : Machine where
  files := { files with workingDirectory := [] }
  programs := programs
  opened := #[.device .null, .pipeEnd outputPipe false, .pipeEnd errorPipe false]
  pipes := #[{ isOutside := true }, { isOutside := true }]
  nextNumber := mainNumber + 1
  processes :=
    [{ number := mainNumber, parent := 1, behaviour := .ended 0, directory := files.workingDirectory
       slots := [⟨0, 0, false⟩, ⟨1, 1, false⟩, ⟨2, 2, false⟩] }]

/-- The machine with its first process running a program. -/
def started (machine : Machine) (path : String) (arguments : List ByteText) : Machine :=
  match machine.process? mainNumber with
  | none => machine
  | some process =>
    match machine.programFor (machine.filesFor process) 5 path ⟨arguments, surroundings⟩ with
    | .ok (main, invocation) => machine.put (Machine.become process main invocation)
    | .error _ => machine

/-- The time that is given after the end of a program for its output to be closed. -/
def grace : Duration := .ofMilliseconds 100

/-- The time for which what a program left behind is still looked at. -/
def aftermath : Duration := .ofMilliseconds 5

/-- How many rounds a machine runs at most. -/
def roundLimit : Nat := 10000000

/-- Whether the program has ended. -/
def hasEnded (machine : Machine) : Bool :=
  (machine.process? mainNumber).all fun process => process.ending.isSome

/-- Whether the outputs of the program are closed. -/
def isClosed (machine : Machine) : Bool :=
  !machine.holds outputPipe false && !machine.holds errorPipe false

/-- Everything that was written to a pipe. -/
def printed (machine : Machine) (pipe : Nat) : Text :=
  ByteText.decode ((machine.pipes[pipe]?.map Pipe.content).getD [])

/-- The outcome of a program that has ended and closed its outputs. -/
def outcomeOf (machine : Machine) : RunOutcome :=
  .completed
    { stdout := printed machine outputPipe
      stderr := printed machine errorPipe
      status := match (machine.process? mainNumber).bind Process.ending with
        | some (.exited status) => some (status : Int)
        | _ => none
      elapsed := ⟨machine.clock⟩ }

/-- Runs a machine on which a program was started for at most a time. -/
def runFor (machine : Machine) (timeout : Duration) : Machine × RunOutcome :=
  let ended := machine.run hasEnded timeout.nanoseconds roundLimit
  if !hasEnded ended || (timeout.nanoseconds ≤ ended.clock && ended.clock ≠ 0) then
    (ended, .timedOut ⟨max timeout.nanoseconds ended.clock⟩)
  else
    let latest := max timeout.nanoseconds (ended.clock + grace.nanoseconds)
    let closed := ended.run isClosed latest roundLimit
    if isClosed closed then
      let after := closed.run (fun _ => false) (closed.clock + aftermath.nanoseconds) roundLimit
      (after, outcomeOf closed)
    else (closed, .timedOut ⟨latest⟩)

/-- Runs a program with arguments for at most a time. -/
def launch (program : String) (arguments : List String) (timeout : Duration) :
    StateM FileTree RunOutcome := do
  let files ← get
  if (program :: arguments).any fun word => word.toList.contains '\x00' then
    return .failed .spawnFailed s!"{program}: nul byte found in provided data"
  let machine := startOf files
  match findProgram { machine with files } program with
  | .error error => return .failed .spawnFailed s!"{program}: {error.message}"
  | .ok path =>
    let words := (program :: arguments).map ByteText.ofString
    let (machine, outcome) := runFor (started machine path words) timeout
    set { machine.files with workingDirectory := files.workingDirectory }
    return outcome

/-- A run leaves the working directory as it is. -/
theorem launch_home (program : String) (arguments : List String) (timeout : Duration)
    (files : FileTree) :
    ((launch program arguments timeout).run files).2.workingDirectory = files.workingDirectory := by
  rw [launch]
  simp only [bind, StateT.bind, get, getThe, MonadStateOf.get, StateT.get, pure, StateT.run]
  split
  · rfl
  · cases findProgram { startOf files with files } program <;> rfl

/-- The launcher of the system. -/
def launcher : Launcher := ⟨launch, launch_home⟩

end CopyOracle.Shell
