import CopyOracle.Host.Behaviour
import CopyOracle.Number.Numeral

/-!
# Tools

A tool is a program that reads its input, works on it and prints what comes out. What it prints is
held back until there is enough of it or the tool ends; what it complains about is not.
-/
namespace CopyOracle.Tool

open Host

/-- What a tool has at hand. -/
structure Desk where
  /-- The name under which it was started. -/
  name : ByteText
  /-- The variables of its surroundings. -/
  environment : List ByteText := []
  /-- The output that is held back in pieces, the last one first. -/
  pieces : List ByteText := []
  /-- How much output is held back. -/
  held : Nat := 0
  /-- The status with which it will end. -/
  status : Nat := 0

/-- What a tool does. -/
abbrev Work := StateT Desk Program

/-- The answer of the system. -/
@[inline] def call (asked : Call) : Work asked.Answer := fun desk next =>
  .call asked fun answer => next (answer, desk)

/-- Ends the tool without printing what is held back. -/
def quit {α : Type} (status : Nat) : Work α := fun _ _ => .ended status

/-- How many rounds a tool works at most. -/
def limit : Nat := 100000000

/-- What stands in front of a complaint. -/
def nameStart : Work ByteText := return (← get).name ++ ": ".toList

/-- Complains under the name of the tool. -/
def complain (text : ByteText) : Work Unit := do
  let _ ← call (.write 2 ((← nameStart) ++ text ++ ['\n']))

/-- Complains and remembers that the tool failed. -/
def fault (status : Nat) (text : ByteText) : Work Unit := do
  complain text
  modify fun desk => { desk with status := status }

/-- Prints what is held back. -/
def flush : Work Unit := do
  let desk ← get
  unless desk.pieces.isEmpty do
    set { desk with pieces := [], held := 0 }
    match ← call (.write 1 desk.pieces.reverse.flatten) with
    | .ok _ => return ()
    | .error error =>
      complain ("write error: ".toList ++ error.reason.toList)
      quit 1

/-- Ends the tool. -/
def leave {α : Type} (status : Nat) : Work α := do
  flush
  quit status

/-- Complains and ends the tool. -/
def fail {α : Type} (status : Nat) (text : ByteText) : Work α := do
  flush
  complain text
  quit status

/-- How much output is held back at most. -/
def heldAtMost : Nat := 4096

/-- Prints a text. -/
def put (text : ByteText) : Work Unit := do
  unless text.isEmpty do
    modify fun desk =>
      { desk with pieces := text :: desk.pieces, held := desk.held + text.length }
    if heldAtMost ≤ (← get).held then flush

/-- Prints a text and a line end. -/
def putLine (text : ByteText) : Work Unit := do
  put text
  put ['\n']

/-- The program that does some work with its arguments. -/
def program (work : List ByteText → Work Unit) : Main := fun invocation =>
  let whole : Work Nat := do
    work invocation.arguments.tail
    flush
    return (← get).status
  whole { name := invocation.arguments.headD [], environment := invocation.environment }
    fun (status, _) => .ended status

/-- Whether a text has to be quoted so that a shell reads it as one word. -/
def needsQuotes (text : ByteText) : Bool :=
  let isPlain (c : Char) : Bool :=
    c.isAlphanum || c ∈ ['/', '.', '_', '-', '+', ',', ':', '@', '%', ']', '#', '~', '\x7b', '\x7d']
  !(text.all isPlain) || match text with
    | [] | '#' :: _ | '~' :: _ | ['\x7b'] | ['\x7d'] => true
    | _ => false

/-- A text in quotes, as complaints name files. -/
def quoted (text : ByteText) : ByteText :=
  if text.contains '\'' && !(text.any fun c => c ∈ ['"', '$', '\\', Char.ofNat 96]) then
    '"' :: text ++ ['"']
  else '\'' :: (text.flatMap fun c => if c = '\'' then "'\\''".toList else [c]) ++ ['\'']

/-- A text in quotes if it needs them. -/
def quotedIfNeeded (text : ByteText) : ByteText := if needsQuotes text then quoted text else text

/-- A stream of input. -/
structure Source where
  /-- The descriptor. -/
  descriptor : Nat
  /-- What was read and not used yet. -/
  ahead : ByteText := []
  /-- Whether nothing more comes. -/
  isOver : Bool := false

/-- How much is read at once. -/
def readAtOnce : Nat := 65536

/-- More bytes of a descriptor; none at its end. A refusal is complained about under the name of
the file. -/
def more (name : ByteText) (descriptor : Nat) : Work ByteText := do
  match ← call (.read descriptor readAtOnce) with
  | .ok text => return text
  | .error error =>
    fault 1 (name ++ ": ".toList ++ error.reason.toList)
    return []

/-- All bytes of a descriptor in pieces, the last one first. -/
def morePieces (name : ByteText) (descriptor : Nat) : (fuel : Nat) → List ByteText →
    Work (List ByteText)
  | 0, pieces => return pieces
  | fuel + 1, pieces => do
    match ← more name descriptor with
    | [] => return pieces
    | text => morePieces name descriptor fuel (text :: pieces)

/-- All bytes of a descriptor. -/
def all (name : ByteText) (descriptor : Nat) : Work ByteText := do
  return (← morePieces name descriptor limit []).reverse.flatten

/-- The first line of a text without its line end, whether it has one, and what follows it. -/
def splitLine (text : ByteText) : ByteText × Bool × ByteText :=
  let line := text.takeWhile (· ≠ '\n')
  match text.drop line.length with
  | _ :: rest => (line, true, rest)
  | [] => (line, false, [])

/-- The next line of a stream, and whether a line end follows it; none at the end. The part of the
line that was read before comes in pieces, the last one first. -/
def nextLineFrom (name : ByteText) : (fuel : Nat) → Source → List ByteText →
    Work (Option (ByteText × Bool) × Source)
  | 0, source, _ => return (none, source)
  | fuel + 1, source, before => do
    let (line, isWhole, rest) := splitLine source.ahead
    if isWhole then
      return (some ((line :: before).reverse.flatten, true), { source with ahead := rest })
    else if source.isOver then
      let text := (line :: before).reverse.flatten
      return (if text.isEmpty then none else some (text, false), { source with ahead := [] })
    else
      let text ← more name source.descriptor
      nextLineFrom name fuel { source with ahead := text, isOver := text.isEmpty } (line :: before)

/-- The next line of a stream, and whether a line end follows it; none at the end. -/
def nextLine (name : ByteText) (source : Source) : Work (Option (ByteText × Bool) × Source) :=
  nextLineFrom name limit source []

/-- Opens the file of an operand to be read, where a dash stands for the input. -/
def openOperand (path : ByteText) : Work (Except FileError Nat) := do
  if path = ['-'] then return .ok 0 else call (.openFile path .read)

/-- Closes what was opened for an operand. -/
def closeOperand (descriptor : Nat) : Work Unit := do
  if 2 < descriptor then
    let _ ← call (.close descriptor)

/-- The name of an operand in complaints about reading it. -/
def operandName (path : ByteText) : ByteText := if path = ['-'] then path else quotedIfNeeded path

/-- Does something with each operand that can be opened, or with the input if there is none. -/
def forOperands (operands : List ByteText) (refused : ByteText → FileError → Work Unit)
    (use : ByteText → Nat → Work Unit) : Work Unit :=
  (if operands.isEmpty then [['-']] else operands).forM fun path => do
    match ← openOperand path with
    | .ok descriptor =>
      use path descriptor
      closeOperand descriptor
    | .error error => refused path error

/-- Complains that an operand cannot be opened. -/
def refusedPlainly (path : ByteText) (error : FileError) : Work Unit :=
  fault 1 (operandName path ++ ": ".toList ++ error.reason.toList)

/-- The lines of a text: each with its line end taken off. -/
def linesOf (text : ByteText) : List ByteText :=
  match (text.splitOn '\n').reverse with
  | [] :: rest => rest.reverse
  | lines => lines.reverse

end CopyOracle.Tool
