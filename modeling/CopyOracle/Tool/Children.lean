import CopyOracle.Shell.Search
import CopyOracle.Tool.Options

/-!
# Tools that start programs

A tool starts other programs as its children, or becomes another program itself. A program is
looked for in the directories of the search path.
-/
namespace CopyOracle.Tool

open Host

/-- Starts a child that does something else, and gives its number. -/
def start (body : Program Nat) : Work Nat := fun desk next =>
  .fork (fun _ => body.behaviour) fun number => next (number, desk)

/-- The search path among the variables of surroundings. -/
def searchPathIn (environment : List ByteText) : ByteText :=
  match environment.find? fun entry => "PATH=".toList.isPrefixOf entry with
  | some entry => entry.drop 5
  | none => "/bin:/usr/bin".toList

/-- Becomes the first of some programs that can be run; a file that the system cannot run is read
by a shell. -/
def becomeFirst (arguments environment : List ByteText) : List ByteText → (error : FileError) →
    Program FileError
  | [], error => return error
  | candidate :: rest, error => do
    match ← Program.ask (.execute candidate arguments environment) with
    | .notProgram =>
      let shell := "/bin/sh".toList
      Program.ask (.execute shell (shell :: candidate :: arguments.tail) environment)
    | .notFound | .notDirectory => becomeFirst arguments environment rest error
    | other => becomeFirst arguments environment rest other

/-- Becomes the program that arguments name. -/
def become (arguments environment : List ByteText) : Program FileError :=
  let name := arguments.headD []
  let candidates := if name.contains '/' then [name]
    else Shell.candidates (searchPathIn environment) name
  becomeFirst arguments environment (if name.isEmpty then [] else candidates) .notFound

/-- The status of a program that could not be started. -/
def statusOfRefusal (error : FileError) : Nat := if error = .notFound then 127 else 126

/-- Becomes a shell, under some name, that runs a command. -/
def becomeShell (name : String) (command : ByteText) (environment : List ByteText) :
    Program Nat := do
  let _ ← Program.ask (.execute "/bin/sh".toList [name.toList, "-c".toList, command] environment)
  return 127

/-- Waits for the end of a child. -/
def awaitChild (number : Nat) : (fuel : Nat) → Work Ending
  | 0 => return .exited 0
  | fuel + 1 => do
    match ← call (.await (some number) true false) with
    | .ended _ ending => return ending
    | .childless => return .exited 127
    | .running | .interrupted => awaitChild number fuel

/-- Starts a child and waits for its end. -/
def runChild (body : Program Nat) : Work Ending := do
  flush
  let number ← start body
  awaitChild number limit

end CopyOracle.Tool
