import CopyOracle.File.Tree
import CopyOracle.Generate.Basic

/-!
# What stops a whole batch

Only what goes wrong before or between the runs is an error. Whatever goes wrong with one run is
its verdict.
-/
namespace CopyOracle

/-- What is wrong with the settings of a batch. -/
inductive BatchFault where
  /-- A run may take no time. -/
  | noTime
  /-- There is no worker. -/
  | noWorker
  /-- The batch is to stop after no failure. -/
  | noFailure
deriving DecidableEq, Repr

/-- The wording of a fault of batch settings. -/
def BatchFault.message : BatchFault → String
  | .noTime => "timeout must be positive"
  | .noWorker => "at least one worker is required"
  | .noFailure => "max failures must be at least 1"

/-- Why a batch could not be set up or carried on. -/
inductive SetupError where
  /-- There is no directory with cases. -/
  | corpusMissing (path : String)
  /-- A directory or a file with a case could not be read. -/
  | unreadable (path : String) (cause : FileError)
  /-- There is no place for the inputs of the runs. -/
  | noScratch (cause : FileError)
  /-- A directory could not be made. -/
  | directoryNotMade (path : String) (cause : FileError)
  /-- A file could not be written. -/
  | notWritten (path : String) (cause : FileError)
  /-- The settings cannot be used. -/
  | invalidSettings (fault : BatchFault)
  /-- No cases could be generated. -/
  | generation (error : GenerateError)
deriving DecidableEq, Repr

/-- The wording of a setup error. -/
def SetupError.message : SetupError → String
  | .corpusMissing path => s!"corpus directory `{path}` does not exist"
  | .unreadable path cause => s!"failed to read `{path}`: {cause.message}"
  | .noScratch cause => s!"failed to create a scratch directory: {cause.message}"
  | .directoryNotMade path cause => s!"failed to create directory `{path}`: {cause.message}"
  | .notWritten path cause => s!"failed to write `{path}`: {cause.message}"
  | .invalidSettings fault => s!"invalid run configuration: {fault.message}"
  | .generation error => s!"case generation failed: {error.message}"

end CopyOracle
