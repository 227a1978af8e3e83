import CopyOracle.Shell.Waiting

/-!
# Running scripts

A script is read and run line by line. Between commands a shell runs what is to be done on the
signals that it caught, and when it ends what is to be done at the end.
-/
namespace CopyOracle.Shell

open Host

namespace Execution

/-- Refuses a script that cannot be read. -/
def refuseScript {α : Type} (fault : ReadFault) : Execution α := do
  atLine fault.line
  fail ("Syntax error: ".toList ++ ByteText.ofString fault.wording)

/-- Where a script stands. -/
inductive Origin where
  /-- Among the commands of another script. -/
  | inside
  /-- In a file. -/
  | file
deriving DecidableEq, Repr

/-- So many lines of a text. -/
def linesAhead : (count : Nat) → ByteText → ByteText
  | 0, _ => []
  | count + 1, text =>
    let line := text.takeWhile (· ≠ '\n')
    match text.drop line.length with
    | [] => line
    | newline :: rest => line ++ newline :: linesAhead count rest

/-- Shows lines of a script that were read, if that is wanted. -/
def showLines (origin : Origin) (lines : Unit → ByteText) : Execution Unit := do
  if origin = .file && (← hasOption 'v') then
    let _ ← write 2 (lines ())

/-- The next line of a script, and where the reader stands after it. -/
def nextLine (origin : Origin) (start : Cursor) : Execution (Reading.Line × Cursor) := do
  let context ← get
  match Reading.line.run
      { start with texts := [], nextText := context.nextText, aliases := context.aliases } with
  | .error fault =>
    showLines origin fun _ => linesAhead (fault.line + 1 - start.line) start.rest
    refuseScript fault
  | .ok (line, cursor) =>
    showLines origin fun _ => start.rest.take (start.rest.length - cursor.rest.length)
    let isAtEnd := match line with
      | .none => true
      | .some _ isLast => isLast
    modify fun context =>
      { context with
        texts := cursor.texts ++ context.texts, nextText := cursor.nextText, isAtEnd := isAtEnd }
    return (line, cursor)

/-- A text that holds words to expand. A command in it meets the end of the script first, if that
was met. -/
def freeText (text : ByteText) : Execution Word := do
  let context ← get
  let held := if context.isAtEnd then some Token.endOfFile else none
  match Reading.freeText.run
      { rest := text, held := held, nextText := context.nextText, aliases := context.aliases } with
  | .error fault =>
    modify fun context => { context with isAtEnd := false }
    refuseScript fault
  | .ok (word, cursor) =>
    modify fun context =>
      { context with
        texts := cursor.texts ++ context.texts, nextText := cursor.nextText
        isAtEnd := cursor.held.isSome }
    return word

/-- Runs the lines of a script from where the reader stands, after a status. -/
def runLines (evaluate : Evaluator) (flags : Flags) (origin : Origin) : (fuel : Nat) → Cursor → (status : Nat) →
    Execution Nat
  | 0, _, status => return status
  | fuel + 1, cursor, status => do
    match ← nextLine origin cursor with
    | (.none, _) => return status
    | (.some none isLast, cursor) =>
      if isLast then return status else runLines evaluate flags origin fuel cursor status
    | (.some (some command) isLast, cursor) =>
      let status ← evaluate { flags with isLast := flags.isLast && isLast } command
      if isLast then
        modify fun context => { context with isAtEnd := true }
        return status
      else runLines evaluate flags origin fuel cursor status

/-- Runs a script. -/
def runText (evaluate : Evaluator) (flags : Flags) (text : ByteText) (origin : Origin := .inside) :
    Execution Nat :=
  runLines evaluate flags origin Reading.limit { rest := text.filter (· ≠ Char.ofNat 0) } 0

/-- Runs what is to be done on signals. -/
def runTraps (evaluate : Evaluator) : List Nat → Execution Unit
  | [] => return ()
  | signal :: rest => do
    match (← get).traps.lookup signal with
    | none => runTraps evaluate rest
    | some action =>
      modify fun context => { context with pending := rest }
      let before := (← get).before
      let status := before.getD (← get).status
      modify fun context => { context with before := some status }
      let result ← attempt (runText evaluate {} action)
      match result with
      | .ok _ | .error (.stop _) | .error (.again _) | .error (.back none) =>
        modify fun context => { context with status := status, before := before }
      | .error (.back (some _)) => modify fun context => { context with before := before }
      | .error _ => pure ()
      let _ ← settle result
      runTraps evaluate rest

/-- Runs what is to be done on the signals that were caught. -/
def dealWithSignals (evaluate : Evaluator) : Execution Unit := do
  let context ← get
  if context.traps.any fun (signal, action) => signal ≠ 0 && !action.isEmpty then
    let caught ← call .caught
    let signals := ((← get).pending ++ caught).eraseDups.mergeSort
    modify fun context => { context with pending := [] }
    runTraps evaluate signals

/-- Runs a shell to its end, with what is to be done there, and gives its status. -/
def runShell (evaluate : Evaluator) (body : Execution Nat) : Execution Nat := do
  let result ← attempt body
  let status ← match result with
    | .error (.exit status) | .error (.fault status) => pure status
    | _ => return (← finish (← get).status)
  finish status
where
  /-- Ends the shell. -/
  finish (status : Nat) : Execution Nat := do
    restoreTo 0
    match (← get).traps.lookup 0 with
    | none => return status
    | some action =>
      modify fun context =>
        { context with
          traps := context.traps.filter fun (signal, _) => signal ≠ 0
          status := status, before := some status, loops := 0 }
      match ← attempt (runText evaluate {} action) with
      | .error (.exit status) | .error (.fault status) => return status
      | _ => return status

end Execution

end CopyOracle.Shell
