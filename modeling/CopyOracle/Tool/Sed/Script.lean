import CopyOracle.Regex.Automaton
import CopyOracle.Text.Bytes

/-!
# Scripts for editing lines

A script is a row of commands. Each may have addresses, which say for which lines it is done.
-/
namespace CopyOracle.Tool.Sed

/-- Which line is meant. -/
inductive Address where
  /-- The line of a number. -/
  | line (number : Nat)
  /-- From a line on, one in so many lines. -/
  | every (first step : Nat)
  /-- The last line. -/
  | last
  /-- A line that an expression fits, or the last expression used. -/
  | fits (finder : Option Regex.Finder)

/-- Where a range of lines ends. -/
inductive RangeEnd where
  /-- At a line that is meant. -/
  | address (address : Address)
  /-- So many lines after its first one. -/
  | after (count : Nat)
  /-- At a line whose number is a multiple. -/
  | multiple (step : Nat)

/-- For which lines a command is done. -/
structure Selector where
  /-- The line, or the first one of a range. -/
  first : Option Address := none
  /-- The end of a range. -/
  last : Option RangeEnd := none
  /-- Whether the command is done for all other lines. -/
  isNegated : Bool := false

/-- How letters are changed. -/
inductive CaseChange where
  /-- All letters become capitals. -/
  | upper
  /-- All letters become small. -/
  | lower
  /-- The next letter becomes a capital. -/
  | upperOnce
  /-- The next letter becomes small. -/
  | lowerOnce
  /-- Letters stay from here on. -/
  | keep
deriving DecidableEq, Repr

/-- A piece of a replacement. -/
inductive Piece where
  /-- A text. -/
  | text (text : ByteText)
  /-- What was found for a group. -/
  | group (number : Nat)
  /-- A change of letters. -/
  | change (change : CaseChange)

/-- The greatest number of a group in the pieces of a replacement. -/
def groupsIn (pieces : List Piece) : Nat :=
  pieces.foldl (fun most piece => match piece with
    | .group number => max most number
    | _ => most) 0

/-- A substitution. -/
structure Substitution where
  /-- What is replaced; what was looked for last if there is none. -/
  finder : Option Regex.Finder
  /-- What it is replaced by. -/
  replacement : List Piece
  /-- Whether all finds are replaced. -/
  isGlobal : Bool := false
  /-- Which find is the first to be replaced. -/
  number : Nat := 1
  /-- Whether the line is printed if something was replaced. -/
  prints : Bool := false
  /-- The file to which the line is written if something was replaced. -/
  file : Option ByteText := none

/-- What a command does. -/
inductive Action where
  /-- It begins a block, which ends before a command. -/
  | block (stop : Nat)
  /-- Nothing. -/
  | nothing
  /-- It prints the line. -/
  | print
  /-- It prints the first part of the line. -/
  | printFirst
  /-- It drops the line. -/
  | delete
  /-- It drops the first part of the line. -/
  | deleteFirst
  /-- It goes on with the next line. -/
  | next
  /-- It adds the next line. -/
  | addNext
  /-- It keeps the line. -/
  | hold
  /-- It adds the line to what is kept. -/
  | holdMore
  /-- It takes what is kept as the line. -/
  | recall
  /-- It adds what is kept to the line. -/
  | recallMore
  /-- It exchanges the line with what is kept. -/
  | exchange
  /-- It empties the line. -/
  | clear
  /-- It ends the work with a status, printing the line or not. -/
  | quit (status : Nat) (prints : Bool)
  /-- It prints a text after the line. -/
  | append (text : ByteText)
  /-- It prints a text before the line. -/
  | insert (text : ByteText)
  /-- It prints a text instead of the line. -/
  | change (text : ByteText)
  /-- It prints the number of the line. -/
  | number
  /-- It prints the name of the file. -/
  | fileName
  /-- It prints the line with all its characters visible, in lines of some width. -/
  | list (width : Option Nat)
  /-- It prints a file after the line. -/
  | readFile (path : ByteText)
  /-- It prints the next line of a file after the line. -/
  | readLine (path : ByteText)
  /-- It writes the line, or its first part, to a file. -/
  | writeFile (path : ByteText) (isFirst : Bool)
  /-- It replaces what is found. -/
  | substitute (substitution : Substitution)
  /-- It replaces characters. -/
  | exchangeLetters (pairs : List (Char × Char))
  /-- It goes on at a label, or at the end. -/
  | branch (label : ByteText)
  /-- It goes on at a label if something was replaced. -/
  | branchIf (label : ByteText)
  /-- It goes on at a label if nothing was replaced. -/
  | branchUnless (label : ByteText)

/-- A command of a script. -/
structure Command where
  /-- For which lines it is done. -/
  selector : Selector
  /-- What it does. -/
  action : Action

/-- A script that was read. -/
structure Script where
  /-- The commands. -/
  commands : Array Command := #[]
  /-- The labels, each with the command after it. -/
  labels : List (ByteText × Nat) := []
  /-- Whether lines are printed only when a command says so. -/
  isSilent : Bool := false

/-- Why a script cannot be read. -/
inductive Fault where
  /-- A command is not known. -/
  | unknownCommand (command : Char)
  /-- A command is missing. -/
  | noCommand
  /-- There is something after a command. -/
  | extraCharacters
  /-- A comma does not lead to an address. -/
  | strayComma
  /-- The first address depends on one before it. -/
  | strayStep
  /-- There is no line zero. -/
  | lineZero
  /-- An exclamation mark is there twice. -/
  | secondMark
  /-- A block is not closed. -/
  | openBlock
  /-- A brace closes no block. -/
  | strayClose
  /-- A closing brace has an address. -/
  | closeAddress
  /-- A label has an address. -/
  | labelAddress
  /-- A comment has an address. -/
  | commentAddress
  /-- A command has two addresses that takes one. -/
  | oneAddress
  /-- A label has no name. -/
  | noLabel
  /-- A text is missing. -/
  | noText
  /-- The name of a file is missing. -/
  | noFile
  /-- An expression in an address has no end. -/
  | openAddress
  /-- A substitution has no end. -/
  | openSubstitution
  /-- An exchange of letters has no end. -/
  | openExchange
  /-- The two sides of an exchange of letters are not of the same length. -/
  | unequalExchange
  /-- A property of a substitution is not known. -/
  | unknownProperty
  /-- A property of a substitution is there twice. -/
  | secondProperty (name : String)
  /-- A substitution begins at find zero. -/
  | numberZero
  /-- A replacement refers to a group that is not there. -/
  | noGroup (number : Nat)
  /-- An empty expression has properties. -/
  | emptyWithProperties
  /-- There is no expression that was used last. -/
  | noPrevious
  /-- A newer version is asked for. -/
  | newerVersion
  /-- An expression cannot be read. -/
  | expression (wording : String)
deriving DecidableEq, Repr

/-- A word between a grave accent and an apostrophe. -/
def named (word : String) : String := String.ofList (Char.ofNat 96 :: word.toList ++ ['\''])

/-- What is wrong with a script. -/
def Fault.message : Fault → String
  | .unknownCommand command => "unknown command: " ++ named command.toString
  | .noCommand => "missing command"
  | .extraCharacters => "extra characters after command"
  | .strayComma => "unexpected " ++ named ","
  | .strayStep => "invalid usage of +N or ~N as first address"
  | .lineZero => "invalid usage of line address 0"
  | .secondMark => "multiple " ++ named "!" ++ "s"
  | .openBlock => "unmatched " ++ named "\x7b"
  | .strayClose => "unexpected " ++ named "\x7d"
  | .closeAddress => "\x7d doesn't want any addresses"
  | .labelAddress => ": doesn't want any addresses"
  | .commentAddress => "comments don't accept any addresses"
  | .oneAddress => "command only uses one address"
  | .noLabel => "\":\" lacks a label"
  | .noText => "expected \\ after " ++ named "a" ++ ", " ++ named "c" ++ " or " ++ named "i"
  | .noFile => "missing filename in r/R/w/W commands"
  | .openAddress => "unterminated address regex"
  | .openSubstitution => "unterminated " ++ named "s" ++ " command"
  | .openExchange => "unterminated " ++ named "y" ++ " command"
  | .unequalExchange => "strings for " ++ named "y" ++ " command are different lengths"
  | .unknownProperty => "unknown option to " ++ named "s"
  | .secondProperty name => "multiple " ++ name ++ " options to " ++ named "s" ++ " command"
  | .numberZero => "number option to " ++ named "s" ++ " command may not be zero"
  | .noGroup number =>
    "invalid reference \\" ++ toString number ++ " on " ++ named "s" ++ " command's RHS"
  | .emptyWithProperties => "cannot specify modifiers on empty regexp"
  | .noPrevious => "no previous regular expression"
  | .newerVersion => "expected newer version of sed"
  | .expression wording => wording

end CopyOracle.Tool.Sed
