import CopyOracle.Text.Basic

/-!
# Settings of the log

Two variables of the environment shape the log: its format, and which ends of spans are logged.
Their values are read in any case and with white space around them. The format is looked at
first.
-/
namespace CopyOracle

/-- How log lines are written. -/
inductive LogFormat where
  /-- For people. -/
  | human
  /-- One JSON object a line. -/
  | json
deriving DecidableEq, Repr

/-- Which points of a span are logged. -/
inductive LogSpans where
  /-- None. -/
  | none
  /-- Its end. -/
  | close
  /-- Its start and its end. -/
  | full
deriving DecidableEq, Repr

/-- The settings of the log. -/
structure LogSettings where
  /-- How lines are written. -/
  format : LogFormat := .human
  /-- Which points of a span are logged. -/
  spans : LogSpans := .close
deriving DecidableEq, Repr

/-- A value that a variable of the environment does not accept. -/
structure UnsupportedValue where
  /-- The variable. -/
  name : String
  /-- The value, trimmed and in small letters. -/
  provided : String
  /-- What is accepted. -/
  expected : String
deriving DecidableEq, Repr

/-- The wording of an unsupported value. -/
def UnsupportedValue.message (fault : UnsupportedValue) : String :=
  s!"unsupported value `{fault.provided}` for `{fault.name}`; expected one of {fault.expected}"

namespace LogSettings

/-- The variable with the format. -/
def formatVariable : String := "KEXTEND_LOG_FORMAT"

/-- The variable with the spans. -/
def spansVariable : String := "KEXTEND_LOG_SPANS"

/-- The value that is compared with the accepted ones. -/
def normalize (value : String) : String := .ofList (Text.trim value.toList).lower

/-- The format of a value. -/
def readFormat (value : String) : Except UnsupportedValue LogFormat :=
  match normalize value with
  | "human" => .ok .human
  | "json" => .ok .json
  | other => .error ⟨formatVariable, other, "`human`, `json`"⟩

/-- The spans of a value. -/
def readSpans (value : String) : Except UnsupportedValue LogSpans :=
  match normalize value with
  | "none" => .ok .none
  | "close" => .ok .close
  | "full" => .ok .full
  | other => .error ⟨spansVariable, other, "`none`, `close`, `full`"⟩

/-- The settings of the two variables, either of which may be missing. -/
def read (format spans : Option String) : Except UnsupportedValue LogSettings := do
  let format ← format.mapM readFormat
  let spans ← spans.mapM readSpans
  .ok ⟨format.getD .human, spans.getD .close⟩

end LogSettings

end CopyOracle
