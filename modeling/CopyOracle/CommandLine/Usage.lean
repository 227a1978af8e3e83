/-!
# Arguments of a command

A command has options with a long name, which take a value or are flags, and arguments by place.
A value follows its option as the next argument or after an equals sign, and is looked at when the
next option or argument begins; so of two faults in a command line an unknown option wins over the
value right before it, and loses to any value further in front. After two dashes all arguments go
by place.
-/
namespace CopyOracle

/-- What is wrong with a command line, or asked for instead of a command. -/
inductive UsageFault where
  /-- Help is asked for. -/
  | help
  /-- There is no command. -/
  | noCommand
  /-- There is no such command. -/
  | unknownCommand
  /-- There is no such option, or one argument too many. -/
  | unknownArgument
  /-- A value is missing, empty or none of those listed. -/
  | invalidValue
  /-- A value cannot be read. -/
  | unreadableValue
  /-- An option or argument is missing. -/
  | missingArgument
  /-- An option is given twice. -/
  | repeatedOption
  /-- A flag is given a value. -/
  | unneededValue
deriving DecidableEq, Repr

/-- An option or an argument by place, and how its value enters the settings of its command. -/
structure Parameter (σ : Type) where
  /-- Its long name, or what an argument by place stands for. -/
  name : String
  /-- The settings with a value entered; a flag is entered with an empty one. -/
  enter : String → σ → Except UsageFault σ
  /-- Whether it is a flag. -/
  isFlag : Bool := false
  /-- Whether it may be given more than once. -/
  repeats : Bool := false
  /-- Whether its value may start with a dash. -/
  takesDashes : Bool := false
  /-- Whether the command needs it. -/
  isRequired : Bool := false

/-- The parameters of a command. -/
structure Parameters (σ : Type) where
  /-- The options. -/
  options : List (Parameter σ)
  /-- The arguments by place; the last one may repeat. -/
  places : List (Parameter σ) := []

/-- What was understood of a command line so far. -/
structure Understood (σ : Type) where
  /-- The settings. -/
  settings : σ
  /-- The names of the parameters given. -/
  given : List String := []
  /-- A parameter whose values have not been looked at. -/
  pending : Option (Parameter σ × List String) := none
  /-- Whether the next argument may be a value of the pending option. -/
  awaits : Bool := false
  /-- How many places are filled. -/
  place : Nat := 0
  /-- Whether all further arguments go by place. -/
  byPlace : Bool := false

namespace Understood

variable {σ : Type}

/-- Enters the values of a parameter. -/
def enter (understood : Understood σ) (parameter : Parameter σ) (values : List String) :
    Except UsageFault (Understood σ) := do
  if values.isEmpty then .error .invalidValue
  else if !parameter.repeats && understood.given.contains parameter.name then
    .error .repeatedOption
  else
    let settings ← values.foldlM (fun settings value => parameter.enter value settings)
      understood.settings
    .ok { understood with settings, given := parameter.name :: understood.given }

/-- Enters the values of the pending parameter. -/
def settle (understood : Understood σ) : Except UsageFault (Understood σ) :=
  match understood.pending with
  | none => .ok understood
  | some (parameter, values) =>
    { understood with pending := none, awaits := false }.enter parameter values

/-- Understands an option, which may have a value attached. -/
def takeOption (understood : Understood σ) (parameters : Parameters σ) (name : String)
    (attached : Option String) : Except UsageFault (Understood σ) := do
  if name = "help" then
    match attached with
    | some _ => .error .unneededValue
    | none =>
      let _ ← understood.settle
      .error .help
  else match parameters.options.find? fun parameter => parameter.name = name with
  | none => .error .unknownArgument
  | some parameter =>
    match parameter.isFlag, attached with
    | true, some _ => .error .unneededValue
    | true, none => (← understood.settle).enter parameter [""]
    | false, some value => (← understood.settle).enter parameter [value]
    | false, none =>
      .ok { ← understood.settle with pending := some (parameter, []), awaits := true }

/-- Understands an argument by place. -/
def takePlace (understood : Understood σ) (parameters : Parameters σ) (value : String) :
    Except UsageFault (Understood σ) := do
  match parameters.places[understood.place]? with
  | none => .error .unknownArgument
  | some parameter =>
    match understood.pending with
    | some (pending, values) =>
      if pending.name = parameter.name && parameter.repeats then
        return { understood with pending := some (parameter, values ++ [value]) }
    | none => pure ()
    let settled ← understood.settle
    .ok { settled with
      pending := some (parameter, [value])
      place := if parameter.repeats then settled.place else settled.place + 1 }

/-- Understands one more argument. -/
def take (understood : Understood σ) (parameters : Parameters σ) (argument : String) :
    Except UsageFault (Understood σ) := do
  let takesDashes := match understood.pending with
    | some (pending, _) => understood.awaits && pending.takesDashes
    | none => false
  match understood.byPlace || takesDashes, argument.toList with
  | false, ['-', '-'] => return { understood with byPlace := true, awaits := false }
  | false, '-' :: '-' :: rest =>
    let name := rest.takeWhile (· ≠ '=')
    let attached := (rest.drop name.length).tail
    let isAttached := name.length < rest.length
    return ← understood.takeOption parameters (.ofList name)
      (if isAttached then some (.ofList attached) else none)
  | false, '-' :: 'h' :: _ =>
    let _ ← understood.settle
    throw .help
  | false, '-' :: _ :: _ => throw .unknownArgument
  | _, _ => pure ()
  match understood.pending, understood.awaits with
  | some (pending, _), true =>
    .ok { understood with pending := some (pending, [argument]), awaits := false }
  | _, _ => understood.takePlace parameters argument

end Understood

/-- The settings that the arguments of a command give. -/
def Parameters.understand {σ : Type} (parameters : Parameters σ) (settings : σ)
    (arguments : List String) : Except UsageFault σ := do
  let start : Understood σ := { settings }
  let understood ← arguments.foldlM (fun understood argument =>
    understood.take parameters argument) start
  let understood ← understood.settle
  let required := (parameters.options ++ parameters.places).filter Parameter.isRequired
  if required.all fun parameter => understood.given.contains parameter.name then
    .ok understood.settings
  else .error .missingArgument

end CopyOracle
