import CopyOracle.Shell.Context

/-!
# Looking for programs

A name without a slash is looked for in the directories of the search path. The paths that were
found are remembered until the search path changes. A program is given the variables that are
exported.
-/
namespace CopyOracle.Shell

open Host

/-- The search path that is used where the one of the script shall not count. -/
def standardPath : ByteText :=
  "/usr/local/sbin:/usr/local/bin:/usr/sbin:/usr/bin:/sbin:/bin".toList

/-- The candidates for a name in the directories of a search path. -/
def candidates (path name : ByteText) : List ByteText :=
  (path.splitOn ':').map fun directory =>
    if directory.isEmpty then name else directory ++ '/' :: name

/-- Whether something can be run as a program. -/
def isRunnable : FileEntry → Bool
  | .program _ | .file _ true => true
  | _ => false

/-- The first candidate that can be run, or why there is none. -/
def firstRunnable (files : FileTree) : List ByteText → (error : FileError) →
    Except FileError ByteText
  | [], error => .error error
  | candidate :: rest, error =>
    match files.entry (ByteText.asString candidate) with
    | .error .notFound | .error .notDirectory => firstRunnable files rest error
    | .error other => firstRunnable files rest other
    | .ok entry =>
      if isRunnable entry then .ok candidate else firstRunnable files rest .permissionDenied

/-- The number of rows in which variables are kept. -/
def rowCount : Nat := 39

/-- A number that depends on the characters of a name. -/
def rowOf (rows : Nat) (name : ByteText) : Nat :=
  ((name.head?.map fun c => c.toNat * 16).getD 0 + (name.map Char.toNat).foldl (· + ·) 0) % rows

/-- Names with values in the order of their rows. -/
def inRows {α : Type} (rows : Nat) (entries : List (ByteText × α)) : List (ByteText × α) :=
  (List.range rows).flatMap fun row => entries.filter fun (name, _) => rowOf rows name = row

namespace Execution

/-- The search path. -/
def searchPath : Execution ByteText := do
  return (← storedValue? "PATH".toList).getD []

/-- The path of a program, or why there is none. -/
def findProgram (path : Option ByteText) (name : ByteText) :
    Execution (Except FileError ByteText) := do
  match path with
  | some path => return firstRunnable (← call .files) (candidates path name) .notFound
  | none =>
    match (← get).tracked.lookup name with
    | some found => return .ok found
    | none =>
      match firstRunnable (← call .files) (candidates (← searchPath) name) .notFound with
      | .ok found =>
        modify fun context => { context with tracked := context.tracked ++ [(name, found)] }
        return .ok found
      | .error error => return .error error

/-- The variables that programs are given. -/
def exportedVariables : Execution (List ByteText) := do
  let context ← get
  let exported := context.bindings.filter fun (_, entry) => entry.isExported
  return (inRows rowCount exported).filterMap fun (name, entry) =>
    entry.value.map fun value => name ++ '=' :: value

/-- The wording of the refusal to run a program. -/
def runningReason (error : FileError) : ByteText :=
  (match error with
    | .notFound | .notDirectory => "not found"
    | other => other.reason).toList

/-- Becomes the program in a file; a file that the system cannot run is read by a shell. -/
def tryProgram (path : ByteText) (arguments environment : List ByteText) : Execution FileError := do
  match ← call (.execute path arguments environment) with
  | .notProgram =>
    let shell := "/bin/sh".toList
    call (.execute shell (shell :: path :: arguments.tail) environment)
  | error => return error

/-- Becomes the first of some programs that can be run. -/
def tryPrograms (arguments environment : List ByteText) : List ByteText → (error : FileError) →
    Execution FileError
  | [], error => return error
  | candidate :: rest, error => do
    match ← tryProgram candidate arguments environment with
    | .notFound | .notDirectory => tryPrograms arguments environment rest error
    | other => tryPrograms arguments environment rest other

/-- Becomes a program with some arguments, the first of which names it; what cannot be run ends
the shell. -/
def becomeProgram {α : Type} (path : Option ByteText) (arguments : List ByteText) :
    Execution α := do
  let name := arguments.headD []
  let environment ← exportedVariables
  let places ← if name.contains '/' then pure [name] else do
    let path ← match path with
      | some path => pure path
      | none => searchPath
    pure (candidates path name)
  let error ← tryPrograms arguments environment places .notFound
  complain (name ++ ": ".toList ++ runningReason error)
  throw (.exit (match error with
    | .notFound | .notDirectory | .nameTooLong => 127
    | _ => 126))

end Execution

end CopyOracle.Shell
