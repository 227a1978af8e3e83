import CopyOracle.File.Tree

/-!
# Actions on files

An action on files reads and changes a file tree and may fail. What it did to the files before
it failed stays done.
-/
namespace CopyOracle

/-- An action on files that may fail. -/
abbrev FileAction (ε : Type) := ExceptT ε (StateM FileTree)

namespace FileAction

/-- Looks something up in the files; a refusal becomes an error. -/
def inspect {ε α : Type} (fail : FileError → ε) (look : FileTree → Except FileError α) :
    FileAction ε α := do
  match look (← get) with
  | .ok found => pure found
  | .error error => throw (fail error)

/-- Changes the files; a refusal becomes an error and changes nothing. -/
def change {ε : Type} (fail : FileError → ε) (edit : FileTree → Except FileError FileTree) :
    FileAction ε Unit := do
  match edit (← get) with
  | .ok files => set files
  | .error error => throw (fail error)

end FileAction

end CopyOracle
