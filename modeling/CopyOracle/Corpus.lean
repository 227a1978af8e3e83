import CopyOracle.Batch.Error
import CopyOracle.File.Action
import CopyOracle.Job.Basic

/-!
# Directories of cases

A corpus is a directory with one case in each file that ends in `.txt`, except for files whose
name starts with an underscore, which describe the corpus. The source of its cases is the name of
the directory without a leading `tests_`. What is written for a list of cases is read back as the
same cases, in the order of their file names.
-/
namespace CopyOracle

/-- A case of a corpus. -/
structure CorpusEntry where
  /-- The file name without its extension. -/
  name : String
  /-- The source of the corpus. -/
  source : String
  /-- What the file holds. -/
  input : JobInput
deriving DecidableEq

/-- The jobs of an entry, one for each algorithm. -/
def CorpusEntry.jobs (entry : CorpusEntry) (algorithms : List Algorithm) : List Job :=
  algorithms.map fun algorithm => ⟨entry.name, entry.source, none, algorithm, entry.input⟩

namespace Corpus

/-- What a directory name loses to become a source. -/
def directoryMark : Text := "tests_".toList

/-- The source of the cases in a directory. -/
def sourceOf (directory : String) : String :=
  let name := (Path.fileName? directory).getD "corpus"
  if directoryMark.isPrefixOf name.toList then .ofList (name.toList.drop directoryMark.length)
  else name

/-- Whether a file of that name holds a case. -/
def isCaseName (name : String) : Bool :=
  (Path.splitExtension name).2 = some "txt" && name.toList.head? ≠ some '_'

/-- The names of the files with cases in a directory, in ascending order. -/
def caseNames (directory : String) (files : FileTree) : Except FileError (List String) := do
  let names ← files.list directory
  let caseFiles := names.filter fun name =>
    isCaseName name && files.isFile (Path.join directory name)
  .ok (caseFiles.mergeSort fun left right => decide (left ≤ right))

/-- The case in a file of a directory. -/
def readEntry (directory name : String) : FileAction SetupError CorpusEntry := do
  let path := Path.join directory name
  let text ← FileAction.inspect (.unreadable path) (·.readText path)
  pure ⟨(Path.splitExtension name).1, sourceOf directory, .parse text⟩

/-- All cases in a directory, in the order of their file names. -/
def load (directory : String) : FileAction SetupError (List CorpusEntry) := do
  if (← get).isDirectory directory then
    let names ← FileAction.inspect (.unreadable directory) (caseNames directory)
    names.mapM (readEntry directory)
  else throw (.corpusMissing directory)

/-- Writes a case into its file in a directory. -/
def writeCase (directory : String) (generated : GeneratedCase) : FileAction SetupError Unit :=
  let path := Path.join directory s!"{generated.name}.txt"
  FileAction.change (.notWritten path) (·.writeText path generated.problem.render)

/-- Writes cases into a directory, which is made if it is not there. -/
def write (directory : String) (cases : List GeneratedCase) : FileAction SetupError Unit := do
  FileAction.change (.directoryNotMade directory) (·.makeDirectoryAll directory)
  cases.forM (writeCase directory)

end Corpus

end CopyOracle
