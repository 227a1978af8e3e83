import CopyOracle.CommandLine.Session
import CopyOracle.Shell.Launch

/-!
# The program

The outer layer of the program. It reads the working directory into a file tree, runs a session
on it with the launcher of a small system, and writes back what the session changed.
-/
namespace CopyOracle.Program

/-- How many directories deep the working directory is read. -/
def depth : Nat := 32

/-- The entries of a directory and of the directories in it. -/
def entriesBelow (place : Place) : Nat → IO (List (Place × FileEntry))
  | 0 => pure []
  | depth + 1 => do
    let directory ← IO.FS.realPath ("/" ++ "/".intercalate place)
    let mut entries := []
    for found in ← directory.readDir do
      let below := place ++ [found.fileName]
      if ← found.path.isDir then
        entries := entries ++ (below, .directory) :: (← entriesBelow below depth)
      else
        let content ← IO.FS.readBinFile found.path
        entries := entries ++ [(below, .file content)]
    pure entries

/-- The files of the system together with the working directory. -/
def load : IO FileTree := do
  let place := Path.names (← IO.currentDir).toString
  let above := (List.range place.length).map fun count =>
    (place.take (count + 1), FileEntry.directory)
  let entries := above ++ (← entriesBelow place depth)
  let system := Shell.systemFiles
  return entries.foldl (fun files (place, entry) => files.put place entry)
    { system with workingDirectory := place }

/-- Writes back what a session changed. -/
def store (before after : FileTree) : IO Unit :=
  for (place, entry) in after.entries do
    if before.get? place ≠ some entry then
      let path := "/" ++ "/".intercalate place
      match entry with
      | .directory => IO.FS.createDirAll path
      | .file content _ => IO.FS.writeBinFile path content
      | _ => pure ()

/-- Runs a session with arguments and gives its exit status. -/
def run (arguments : List String) : IO UInt32 := do
  let surroundings : Surroundings :=
    { logFormat := ← IO.getEnv LogSettings.formatVariable
      logSpans := ← IO.getEnv LogSettings.spansVariable
      spareSeed := .ofNat (← IO.monoNanosNow) }
  let before ← load
  let (ended, after) := Session.run Shell.launcher surroundings arguments before
  store before after
  IO.print ended.stdout
  IO.eprint ended.stderr
  return .ofNat ended.status

end CopyOracle.Program

/-- Runs the program. -/
def main (arguments : List String) : IO UInt32 := CopyOracle.Program.run arguments
