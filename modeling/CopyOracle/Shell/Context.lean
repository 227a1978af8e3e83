import CopyOracle.Number.Numeral
import CopyOracle.Shell.Reader
import CopyOracle.Host.Behaviour

/-!
# The state of a shell

A shell runs commands one after the other and asks the system for all that goes beyond its own
state: variables, functions, options, and what it does on signals. A command may leave the
commands around it: a repetition, a function, or the shell as a whole.
-/
namespace CopyOracle.Shell

open Host

/-- A variable. -/
structure Variable where
  /-- Its value; a variable can be declared without one. -/
  value : Option ByteText := none
  /-- Whether programs are given it. -/
  isExported : Bool := false
  /-- Whether it must stay as it is. -/
  isReadOnly : Bool := false

/-- A function. -/
structure Function where
  /-- The line of its definition. -/
  line : Nat
  /-- What it does. -/
  body : Command

/-- Processes that were started together. -/
structure Job where
  /-- Its number. -/
  number : Nat
  /-- The numbers of its processes, and how those ended that did. -/
  processes : List (Nat × Option Ending)
  /-- Whether it was waited for after its end. -/
  isSettled : Bool := false

/-- Where a descriptor led before it was redirected. -/
inductive Former where
  /-- Nowhere. -/
  | nowhere
  /-- Where a copy of it leads. -/
  | copied (copy : Nat)
deriving DecidableEq, Repr

/-- What belongs to one shell. -/
structure Context where
  /-- The name under which the script was started. -/
  title : ByteText
  /-- The arguments of the script or of the function that runs. -/
  arguments : List ByteText := []
  /-- The variables. -/
  bindings : List (ByteText × Variable) := []
  /-- The functions. -/
  functions : List (ByteText × Function) := []
  /-- The aliases. -/
  aliases : List (ByteText × ByteText) := []
  /-- The programs that were looked for by their names, and their paths. -/
  tracked : List (ByteText × ByteText) := []
  /-- The texts that stand in scripts after their lines. -/
  texts : List (Nat × Word) := []
  /-- The number of the next text. -/
  nextText : Nat := 0
  /-- The letters of the options that are set. -/
  options : List Char := []
  /-- The working directory, as it was entered. -/
  directory : ByteText := ['/']
  /-- The bits that new files do not get. -/
  mask : Nat := 18
  /-- The status of the last command. -/
  status : Nat := 0
  /-- The status of the last command in place of a word, while a command is expanded. -/
  substituted : Nat := 0
  /-- The status before a trap, while it runs. -/
  before : Option Nat := none
  /-- The number of the last process in the background. -/
  lastBackground : Option Nat := none
  /-- The jobs in the background, the latest one first. -/
  jobs : List Job := []
  /-- The line that complaints name. -/
  line : Nat := 0
  /-- The line on which the function that runs is defined. -/
  functionLine : Option Nat := none
  /-- The command of the shell that runs. -/
  commandName : Option ByteText := none
  /-- How many repetitions are around the command. -/
  loops : Nat := 0
  /-- What is to be restored at the end of each function that runs. -/
  saved : List (List (ByteText × Option Variable)) := []
  /-- What is done on signals, by their numbers, and at the end, by zero. -/
  traps : List (Nat × ByteText) := []
  /-- The signals that were caught and not dealt with. -/
  pending : List Nat := []
  /-- The number of the shell among all processes. -/
  number : Nat := 0
  /-- What is to be restored after each redirected command that runs. -/
  redirected : List (List (Nat × Former)) := []
  /-- How many functions run in one another. -/
  functionDepth : Nat := 0
  /-- The argument at which the reading of options goes on. -/
  optionIndex : Nat := 1
  /-- The place in an argument at which the reading of options goes on. -/
  optionOffset : Option Nat := none
  /-- Where the trace of commands is written. -/
  traceDescriptor : Nat := 2
  /-- Whether a line of the trace is being prepared. -/
  isTracing : Bool := false
  /-- Whether the end of the script was met, and not passed over since. -/
  isAtEnd : Bool := false

/-- How a command leaves the one around it. -/
inductive Leave where
  /-- It ends so many repetitions. -/
  | stop (levels : Nat)
  /-- It goes on with a repetition, so many levels out. -/
  | again (levels : Nat)
  /-- It returns from a function, with a status if it names one. -/
  | back (status : Option Nat)
  /-- It ends the shell. -/
  | exit (status : Nat)
  /-- It ends the shell because of a fault, unless somebody can do without the command. -/
  | fault (status : Nat)
deriving DecidableEq, Repr

/-- What running a command does. -/
abbrev Execution := ExceptT Leave (StateT Context Program)

namespace Execution

/-- The answer of the system. -/
@[inline] def call (asked : Call) : Execution asked.Answer := fun context next =>
  .call asked fun answer => next (.ok answer, context)

/-- Starts a child that does something else. -/
@[inline] def fork (child : Context → Behaviour) : Execution Nat := fun context next =>
  .fork (fun _ => child context) fun number => next (.ok number, context)

/-- Ends the process at once. -/
def quit {α : Type} (status : Nat) : Execution α := fun _ _ => .ended status

/-- Runs a command and reports how it left. -/
@[inline] def attempt {α : Type} (body : Execution α) : Execution (Except Leave α) :=
  fun context next => body context fun (result, after) => next (.ok result, after)

/-- Goes on as a command left. -/
def settle {α : Type} : Except Leave α → Execution α
  | .ok value => return value
  | .error leave => throw leave

/-- A part of the context. -/
@[inline] def ask {α : Type} (part : Context → α) : Execution α := return part (← get)

/-- Whether an option is set. -/
def hasOption (letter : Char) : Execution Bool := return (← get).options.contains letter

/-- Writes to a descriptor. -/
def write (descriptor : Nat) (text : ByteText) : Execution (Except FileError Unit) :=
  if text.isEmpty then return .ok () else call (.write descriptor text)

/-- Writes a complaint. -/
def complainRaw (text : ByteText) : Execution Unit := do
  let _ ← write 2 text

/-- What stands in front of a complaint. -/
def complaintStart : Execution ByteText := do
  let context ← get
  let name := match context.commandName with
    | some name => name ++ ": ".toList
    | none => []
  return context.title ++ s!": {context.line}: ".toList ++ name

/-- Complains about the command that runs. -/
def complain (text : ByteText) : Execution Unit := do
  complainRaw ((← complaintStart) ++ text ++ ['\n'])

/-- Complains and gives up the command that runs, with a status. -/
def failWith {α : Type} (status : Nat) (text : ByteText) : Execution α := do
  complain text
  throw (.fault status)

/-- Complains and gives up the command that runs. -/
def fail {α : Type} (text : ByteText) : Execution α := failWith 2 text

/-- The line that complaints name, with the one that a script can ask for. -/
def atLine (line : Nat) : Execution Unit := modify fun context => { context with line := line }

/-- The variable of a name. -/
def binding? (name : ByteText) : Execution (Option Variable) := do
  return (← get).bindings.lookup name

/-- The value of a variable that is not worked out. -/
def storedValue? (name : ByteText) : Execution (Option ByteText) := do
  return ((← get).bindings.lookup name).bind Variable.value

/-- Bindings with one replaced or added. -/
def bind (name : ByteText) (entry : Variable) :
    List (ByteText × Variable) → List (ByteText × Variable)
  | [] => [(name, entry)]
  | (other, standing) :: rest =>
    if other = name then (name, entry) :: rest else (other, standing) :: bind name entry rest

/-- Changes a variable. -/
def setVariable (name : ByteText) (entry : Variable) : Execution Unit :=
  modify fun context => { context with bindings := bind name entry context.bindings }

/-- Gives a variable a value. -/
def assign (name value : ByteText) : Execution Unit := do
  let standing := ((← get).bindings.lookup name).getD {}
  if standing.isReadOnly then fail (name ++ ": is read only".toList)
  let isExported := standing.isExported || (← hasOption 'a')
  setVariable name { standing with value := some value, isExported := isExported }
  if name = "OPTIND".toList then
    let index := (Numeral.value? value).getD 1
    modify fun context =>
      { context with optionIndex := max index 1, optionOffset := none }
  if name = "PATH".toList then modify fun context => { context with tracked := [] }

/-- Whether a character separates the fields of a value by default. -/
def defaultSeparators : ByteText := [' ', '\t', '\n']

/-- The text at which unquoted values are split. -/
def separators : Execution ByteText := do
  return (← storedValue? "IFS".toList).getD defaultSeparators

end Execution

/-- Runs a command of any depth, with its flags: how a command that holds others runs them. -/
structure Flags where
  /-- Whether the process ends with the command. -/
  isLast : Bool := false
  /-- Whether a failure of the command is looked at. -/
  isTested : Bool := false

/-- How a command that holds others runs them. -/
abbrev Evaluator := Flags → Command → Execution Nat

end CopyOracle.Shell
