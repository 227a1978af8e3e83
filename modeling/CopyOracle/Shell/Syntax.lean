import CopyOracle.Text.Bytes

/-!
# Commands of the script language

A solver may be a script. Here are the commands of the script language and the words that they
are made of. A word is kept in pieces until it is expanded: text, parameters with an operator and
a word of their own, commands whose output is taken, and expressions. Quoted pieces are neither
split nor taken as patterns.
-/
namespace CopyOracle.Shell

/-- What is done with the value of a parameter. -/
inductive Operator where
  /-- Nothing. -/
  | value
  /-- Its length is taken. -/
  | length
  /-- A word stands in for it where it is missing. -/
  | default
  /-- A word stands in for it where it is not missing. -/
  | alternative
  /-- A word is assigned to it where it is missing. -/
  | assign
  /-- The script ends with a message where it is missing. -/
  | demand
  /-- The shortest or the longest front that fits a pattern is cut off. -/
  | cutFront (isLongest : Bool)
  /-- The shortest or the longest end that fits a pattern is cut off. -/
  | cutEnd (isLongest : Bool)
  /-- The operator cannot be understood. -/
  | bad
deriving DecidableEq, Repr

/-- How the file of a redirection is opened. -/
inductive Access where
  /-- To be read. -/
  | read
  /-- To be written anew. -/
  | write
  /-- To be written anew whatever the options say. -/
  | replace
  /-- To be written at its end. -/
  | append
  /-- To be read and written. -/
  | update
deriving DecidableEq, Repr

mutual

/-- A piece of a word. -/
inductive Piece where
  /-- Text that stands for itself. -/
  | text (isQuoted : Bool) (text : ByteText)
  /-- The value of a parameter, after an operator with a word; a parameter that is empty may count
  as missing. -/
  | parameter (isQuoted : Bool) (name : ByteText) (operator : Operator) (countsEmpty : Bool)
      (operand : List Piece)
  /-- What a command prints. -/
  | output (isQuoted : Bool) (body : Option Command)
  /-- The value of an arithmetic expression. -/
  | arithmetic (isQuoted : Bool) (expression : List Piece)

/-- Where a descriptor is led. -/
inductive Target where
  /-- To a file. -/
  | file (access : Access) (path : List Piece)
  /-- Where another descriptor leads, or nowhere. -/
  | same (descriptor : List Piece)
  /-- To a text in the script, by its number; the text is expanded or taken as it is. -/
  | here (number : Nat)

/-- A redirection of a descriptor. -/
inductive Redirection where
  /-- The descriptor, and where it leads. -/
  | lead (descriptor : Nat) (target : Target)

/-- A command. -/
inductive Command where
  /-- Assignments, or a program with its arguments, on a line of the script. -/
  | simple (line : Nat) (assignments words : List (List Piece))
      (redirections : List Redirection)
  /-- A command with redirections. -/
  | redirected (line : Nat) (body : Command) (redirections : List Redirection)
  /-- A command in a shell of its own. -/
  | subshell (line : Nat) (body : Command) (redirections : List Redirection)
  /-- A command that is not waited for. -/
  | background (line : Nat) (body : Command) (redirections : List Redirection)
  /-- Commands of which each reads what the one before prints. -/
  | pipeline (stages : List Command) (isBackground : Bool)
  /-- A command whose success and failure are exchanged. -/
  | negated (body : Command)
  /-- The second only if the first succeeds. -/
  | both (first second : Command)
  /-- The second only if the first fails. -/
  | either (first second : Command)
  /-- One after the other. -/
  | sequence (first second : Command)
  /-- A command if a condition succeeds, and perhaps another if it fails. -/
  | branch (condition body : Command) (otherwise : Option Command)
  /-- A body repeated as long as its condition succeeds, or fails. -/
  | repeated (whileFails : Bool) (condition body : Command)
  /-- A body for each field of some words. -/
  | each (line : Nat) (name : ByteText) (words : List (List Piece)) (body : Command)
  /-- The first branch with a pattern for the word. -/
  | choose (line : Nat) (word : List Piece) (branches : List (List (List Piece) × Option Command))
  /-- A command under a name. -/
  | define (line : Nat) (name : ByteText) (body : Command)

end

/-- A word: its pieces in order. -/
abbrev Word := List Piece

/-- The text of a word that is all unquoted text. -/
def plain? : Word → Option ByteText
  | [.text false text] => some text
  | _ => none

/-- The sign around a substituted command in the older style. -/
def grave : Char := Char.ofNat 96

/-- Whether a name can start so. -/
def startsName (c : Char) : Bool := c.isAlpha || c = '_'

/-- Whether a character can stand in a name. -/
def inName (c : Char) : Bool := c.isAlphanum || c = '_'

/-- Whether a text is a name. -/
def isName (text : ByteText) : Bool := text.head?.any startsName && text.all inName

/-- Whether a character is a parameter by itself. -/
def isSpecialParameter (c : Char) : Bool :=
  c.isDigit || c ∈ ['!', '#', '?', '-', '$', '@', '*']

/-- Whether a word assigns a value to a name. -/
def isAssignment : Word → Bool
  | .text false text :: _ =>
    let name := text.takeWhile inName
    name.head?.any startsName && (text.drop name.length).head? = some '='
  | _ => false

end CopyOracle.Shell
