import CopyOracle.Algorithm
import CopyOracle.CommandLine.Usage
import CopyOracle.Number.FloatText
import CopyOracle.Number.Numeral

/-!
# Values of arguments

A value of an argument is read before it enters the settings of a command. A value that cannot be
read is told apart from one that is none of those listed, or empty where a path is wanted.
-/
namespace CopyOracle

namespace ArgumentValue

/-- A value as its reader found it. -/
def readable {α : Type} (found : Option α) : Except UsageFault α :=
  match found with
  | some value => .ok value
  | none => .error .unreadableValue

/-- A path, which has a name. -/
def path (value : String) : Except UsageFault String :=
  if value = "" then .error .invalidValue else .ok value

/-- Any text. -/
def text (value : String) : Except UsageFault String := .ok value

/-- The name of an algorithm. -/
def algorithm (value : String) : Except UsageFault Algorithm :=
  readable (Algorithm.parse value).toOption

/-- A number of things. -/
def number (value : String) : Except UsageFault Nat := readable (Numeral.readSize? value.toList)

/-- A number of things, at least one. -/
def positive (value : String) : Except UsageFault Nat := do
  let read ← number value
  if read = 0 then .error .unreadableValue else .ok read

/-- A seed. -/
def seed (value : String) : Except UsageFault UInt64 :=
  readable (Numeral.readWord64? value.toList)

/-- An exit status. -/
def status (value : String) : Except UsageFault Int :=
  readable (Numeral.readStatus? value.toList)

/-- A probability; whether it is one is seen later. -/
def probability (value : String) : Except UsageFault Float :=
  readable (FloatText.read? value.toList)

/-- One of some values, by its name. -/
def oneOf {α : Type} (values : List α) (name : α → String) (value : String) :
    Except UsageFault α :=
  match values.find? fun listed => name listed = value with
  | some found => .ok found
  | none => .error .invalidValue

end ArgumentValue

namespace Parameter

variable {σ τ α : Type}

/-- A parameter whose value is read and stored. -/
def reading (name : String) (read : String → Except UsageFault α) (store : α → σ → σ) :
    Parameter σ where
  name := name
  enter value settings := (read value).map fun found => store found settings

/-- A flag, which changes the settings when it is given. -/
def flag (name : String) (raise : σ → σ) : Parameter σ where
  name := name
  enter _ settings := .ok (raise settings)
  isFlag := true

/-- The parameter of a part of the settings, as one of the whole. -/
def within (part : τ → σ) (replace : σ → τ → τ) (parameter : Parameter σ) : Parameter τ where
  name := parameter.name
  enter value settings :=
    (parameter.enter value (part settings)).map fun changed => replace changed settings
  isFlag := parameter.isFlag
  repeats := parameter.repeats
  takesDashes := parameter.takesDashes
  isRequired := parameter.isRequired

/-- The parameter when the command needs it. -/
def required (parameter : Parameter σ) : Parameter σ := { parameter with isRequired := true }

/-- The parameter when it may be given more than once. -/
def repeated (parameter : Parameter σ) : Parameter σ := { parameter with repeats := true }

/-- The parameter when its value may start with a dash. -/
def dashed (parameter : Parameter σ) : Parameter σ := { parameter with takesDashes := true }

end Parameter

end CopyOracle
