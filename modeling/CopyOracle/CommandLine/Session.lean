import CopyOracle.CommandLine.Execution
import CopyOracle.Logging

/-!
# Sessions

A session is one call of the program. The settings of the log are looked at first, then the
arguments, and then the request is carried out. The exit status tells a clean run from one in
which something that was judged did not pass, and both from a command that could not be carried
out.
-/
namespace CopyOracle

/-- What the environment gives to a session. -/
structure Surroundings where
  /-- The format of the log. -/
  logFormat : Option String := none
  /-- The spans of the log. -/
  logSpans : Option String := none
  /-- A seed for a campaign without one. -/
  spareSeed : UInt64 := 0
deriving DecidableEq, Repr

/-- How a session ended. -/
inductive SessionEnd where
  /-- The log cannot be set up. -/
  | noLog (fault : UnsupportedValue)
  /-- The command line asks for no request. -/
  | usage (fault : UsageFault)
  /-- The request could not be carried out. -/
  | failed (error : RequestError)
  /-- The request was carried out. -/
  | done (summary : Summary)
deriving DecidableEq, Repr

namespace SessionEnd

/-- The exit status. -/
def status : SessionEnd → Nat
  | .noLog _ | .failed _ => 1
  | .usage .help => 0
  | .usage _ => 2
  | .done summary => if summary.isClean then 0 else 2

/-- What is printed. -/
def stdout : SessionEnd → String
  | .done summary => summary.render
  | _ => ""

/-- What is printed on the error stream, besides the log. -/
def stderr : SessionEnd → String
  | .noLog fault => s!"failed to initialize logging: {fault.message}\n"
  | .failed error => s!"failed to execute command: {error.message}\n"
  | _ => ""

end SessionEnd

/-- Runs a session on the files of a system with its launcher. -/
def Session.run (launcher : Launcher) (surroundings : Surroundings) (arguments : List String) :
    StateM FileTree SessionEnd := do
  match LogSettings.read surroundings.logFormat surroundings.logSpans with
  | .error fault => return .noLog fault
  | .ok _ =>
    match Request.parse arguments with
    | .error fault => return .usage fault
    | .ok request =>
      match ← (request.run launcher surroundings.spareSeed).run with
      | .error error => return .failed error
      | .ok summary => return .done summary

end CopyOracle
