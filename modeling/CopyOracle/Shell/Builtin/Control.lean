import CopyOracle.Shell.Builtin.Basic
import CopyOracle.Shell.Search

/-!
# Commands on the course of a script

A repetition is ended or gone on with, a function or a shell is left, other text is run as part of
the script, and what is done on signals is set.
-/
namespace CopyOracle.Shell

open Host

namespace Execution

/-- How many repetitions a command leaves: as many as it names, but no more than there are. -/
def levels (arguments : List ByteText) : Execution Nat := do
  let named ← match arguments with
    | [] => pure 1
    | argument :: _ => number argument
  if named = 0 then fail ("Illegal number: ".toList ++ arguments.headD [])
  return min named (← get).loops

/-- Ends repetitions. -/
def «break» : Builtin := fun _ _ arguments => do
  match ← levels arguments with
  | 0 => return 0
  | count + 1 =>
    modify fun context => { context with status := 0 }
    throw (.stop count)

/-- Goes on with a repetition. -/
def «continue» : Builtin := fun _ _ arguments => do
  match ← levels arguments with
  | 0 => return 0
  | count + 1 =>
    modify fun context => { context with status := 0 }
    throw (.again count)

/-- Returns from a function or from a file. -/
def «return» : Builtin := fun _ _ arguments => do
  match arguments with
  | [] => throw (.back none)
  | argument :: _ =>
    let status ← number argument
    modify fun context => { context with status := status }
    throw (.back (some status))

/-- Ends the shell. -/
def exit : Builtin := fun _ _ arguments => do
  match arguments with
  | [] =>
    let context ← get
    throw (.exit (context.before.getD context.status))
  | argument :: _ => throw (.exit (← number argument))

/-- Runs arguments as a script. -/
def eval : Builtin := fun evaluate flags arguments => do
  match arguments with
  | [] => return 0
  | _ => runText evaluate { isTested := flags.isTested } ([' '].intercalate arguments)

/-- The file of a name without a slash in the search path. -/
def findFile (name : ByteText) : Execution ByteText := do
  if name.contains '/' then return name
  else
    let files ← call .files
    match (candidates (← searchPath) name).find? fun candidate =>
      files.isFile (ByteText.asString candidate) with
    | some found => return found
    | none => fail (name ++ ": not found".toList)

/-- All bytes that are read from a descriptor, in pieces, the last one first. -/
def readPieces (descriptor : Nat) : (fuel : Nat) → List ByteText → Execution (List ByteText)
  | 0, pieces => return pieces
  | fuel + 1, pieces => do
    match ← call (.read descriptor 65536) with
    | .error .interrupted =>
      keepCaught
      readPieces descriptor fuel pieces
    | .error _ | .ok [] => return pieces
    | .ok text => readPieces descriptor fuel (text :: pieces)

/-- All bytes that are read from a descriptor. -/
def readAll (descriptor : Nat) : Execution ByteText := do
  return (← readPieces descriptor Reading.limit []).reverse.flatten

/-- The text of a script in a file. -/
def scriptIn (path : ByteText) : Execution ByteText := do
  match ← call (.openFile path .read) with
  | .error error =>
    fail ("cannot open ".toList ++ path ++ ": ".toList ++ openingReason "No such file" error)
  | .ok descriptor =>
    let text ← readAll descriptor
    let _ ← call (.close descriptor)
    return text

/-- Runs the script in a file as part of the one that runs. -/
def source : Builtin := fun evaluate _ arguments => do
  match ← operands arguments with
  | [] => return 0
  | name :: _ =>
    let path ← findFile name
    let text ← scriptIn path
    modify fun context => { context with commandName := some path }
    match ← attempt (runText evaluate {} text .file) with
    | .error (.back _) => return (← get).status
    | result => settle result

/-- Becomes another program. -/
def exec : Builtin := fun _ _ arguments => do
  match ← operands arguments with
  | [] => return 0
  | words => becomeProgram none words

/-- The signal of a number or a name; zero stands for the end of the shell. -/
def signalOf? (allowsZero : Bool) (word : ByteText) : Option Nat :=
  match Numeral.value? word with
  | some number => if number ≤ Signal.largest then some number else none
  | none =>
    let name := String.ofList (word.map Char.toUpper)
    if name = "EXIT" && allowsZero then some 0 else Signal.ofName? name

/-- The name of a signal, where zero stands for the end of the shell. -/
def signalName (number : Nat) : ByteText :=
  if number = 0 then "EXIT".toList
  else ((Signal.name? number).getD (toString number)).toList

/-- Sets what is done on a signal. -/
def setTrap (signal : Nat) (action : Option ByteText) : Execution Unit := do
  modify fun context =>
    let others := context.traps.filter fun (other, _) => other ≠ signal
    { context with
      traps := match action with
        | some action => (signal, action) :: others
        | none => others }
  if signal ≠ 0 && !Signal.isForced signal then
    call (.dispose signal (match action with
      | none => .usual
      | some [] => .ignored
      | some _ => .caught))

/-- Sets what is done on signals, or says what is set. -/
def trap : Builtin := fun _ _ arguments => do
  match ← operands arguments with
  | [] =>
    let traps := (← get).traps.mergeSort fun left right => left.1 ≤ right.1
    print (traps.flatMap fun (signal, action) =>
      "trap -- ".toList ++ singleQuoted action ++ ' ' :: signalName signal ++ ['\n'])
  | first :: rest =>
    if rest.isEmpty || (Numeral.value? first).any (· ≤ Signal.largest) then
      setAll none (first :: rest)
    else setAll (if first = ['-'] then none else some first) rest
where
  /-- Sets what is done on signals, as far as they are signals. -/
  setAll (action : Option ByteText) : List ByteText → Execution Nat
    | [] => return 0
    | word :: rest => do
      match signalOf? true word with
      | some signal =>
        setTrap signal action
        setAll action rest
      | none =>
        complainRaw ("trap: ".toList ++ word ++ ": bad trap\n".toList)
        return 1

end Execution

end CopyOracle.Shell
