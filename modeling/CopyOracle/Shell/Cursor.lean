import CopyOracle.Shell.Syntax

/-!
# Reading a script

A script is read from its front, character by character and token by token. A text that stands
after a line is owed from the operator that asks for it to the end of the line. An alias puts
other text in front of what is left.
-/
namespace CopyOracle.Shell

/-- Why a script cannot be read. -/
structure ReadFault where
  /-- The line. -/
  line : Nat
  /-- What is wrong. -/
  wording : String
deriving DecidableEq, Repr

/-- The words of the language. -/
inductive Keyword where
  /-- `!` -/
  | negation
  /-- `case` -/
  | choice
  /-- `do` -/
  | loopBody
  /-- `done` -/
  | loopEnd
  /-- `elif` -/
  | elseIf
  /-- `else` -/
  | otherwise
  /-- `esac` -/
  | choiceEnd
  /-- `fi` -/
  | branchEnd
  /-- `for` -/
  | each
  /-- `if` -/
  | branch
  /-- `in` -/
  | among
  /-- `then` -/
  | branchBody
  /-- `until` -/
  | untilLoop
  /-- `while` -/
  | whileLoop
  /-- The opening brace. -/
  | groupStart
  /-- The closing brace. -/
  | groupEnd
deriving DecidableEq, Repr

namespace Keyword

/-- All words of the language, as they are written. -/
def table : List (Keyword × String) :=
  [(.negation, "!"), (.choice, "case"), (.loopBody, "do"), (.loopEnd, "done"), (.elseIf, "elif"),
    (.otherwise, "else"), (.choiceEnd, "esac"), (.branchEnd, "fi"), (.each, "for"),
    (.branch, "if"), (.among, "in"), (.branchBody, "then"), (.untilLoop, "until"),
    (.whileLoop, "while"), (.groupStart, "\x7b"), (.groupEnd, "\x7d")]

/-- How a word of the language is written. -/
def text (keyword : Keyword) : String := (table.lookup keyword).getD ""

/-- The word of the language that is written so. -/
def ofText? (text : ByteText) : Option Keyword :=
  (table.find? fun (_, written) => written.toList = text).map Prod.fst

/-- Whether a word of the language ends a list of commands. -/
def endsList (keyword : Keyword) : Bool :=
  keyword ∈ [.loopBody, .loopEnd, .elseIf, .otherwise, .choiceEnd, .branchEnd, .branchBody, .groupEnd]

end Keyword

/-- The beginning of a redirection. -/
inductive Arrow where
  /-- To a file. -/
  | file (access : Access)
  /-- To where another descriptor leads. -/
  | same
  /-- To a text in the script, perhaps without the tabs in front of its lines. -/
  | here (stripsTabs : Bool)
deriving DecidableEq, Repr

/-- A token of a script. -/
inductive Token where
  /-- The end of the script. -/
  | endOfFile
  /-- The end of a line. -/
  | newline
  /-- One of the signs. -/
  | sign (text : String)
  /-- A redirection of a descriptor. -/
  | redirection (descriptor : Nat) (arrow : Arrow)
  /-- A word. -/
  | word (word : Word)
  /-- A word of the language. -/
  | keyword (keyword : Keyword)

namespace Token

/-- What a token is called. -/
def describe : Token → String
  | .endOfFile => "end of file"
  | .newline => "newline"
  | .sign text => s!"\"{text}\""
  | .redirection _ _ => "redirection"
  | .word _ => "word"
  | .keyword found => s!"\"{found.text}\""

/-- Whether a token is some sign. -/
def isSign (text : String) : Token → Bool
  | .sign other => other = text
  | _ => false

/-- Whether a token is some word of the language. -/
def isKeyword (keyword : Keyword) : Token → Bool
  | .keyword other => other = keyword
  | _ => false

/-- Whether a token ends a list of commands. -/
def endsList : Token → Bool
  | .endOfFile => true
  | .sign text => text = ")" || text = ";;"
  | .keyword found => found.endsList
  | _ => false

end Token

/-- A text that is owed to a redirection. -/
structure OwedText where
  /-- The number of the text. -/
  number : Nat := 0
  /-- The line at which it ends. -/
  mark : ByteText
  /-- Whether it is taken as it is. -/
  isLiteral : Bool
  /-- Whether the tabs in front of its lines go. -/
  stripsTabs : Bool := false

/-- Where a reader stands in a script. -/
structure Cursor where
  /-- The text that is not read yet. -/
  rest : ByteText
  /-- The number of the line. -/
  line : Nat := 1
  /-- A token that was read and put back. -/
  held : Option Token := none
  /-- The texts that are owed. -/
  owed : List OwedText := []
  /-- Whether a text that is owed is being read. -/
  isInText : Bool := false
  /-- The texts in the script, by their numbers. -/
  texts : List (Nat × Word) := []
  /-- The number of the next text. -/
  nextText : Nat := 0
  /-- The aliases. -/
  aliases : List (ByteText × ByteText) := []
  /-- The aliases in whose text the reader stands, each with the length of what follows. -/
  inUse : List (ByteText × Nat) := []
  /-- Whether the next word may be an alias because the text of one ended with a blank. -/
  wantsAlias : Bool := false

/-- Reading a script from where the reader stands. -/
abbrev Reading := StateT Cursor (Except ReadFault)

namespace Reading

/-- A number of rounds that no script of reasonable length exceeds. -/
def limit : Nat := 100000000

/-- Refuses the script. -/
def fail {α : Type} (wording : String) : Reading α := do throw ⟨(← get).line, wording⟩

/-- Leaves the text of the aliases that have been read. -/
def leaveAliases : Reading Unit := do
  let cursor ← get
  unless cursor.inUse.isEmpty do
    let length := cursor.rest.length
    let (ended, others) := cursor.inUse.partition fun (_, later) => length ≤ later
    let endsBlank := ended.any fun (name, _) =>
      match (cursor.aliases.lookup name).bind List.getLast? with
      | some c => c = ' ' || c = '\t'
      | none => false
    set { cursor with inUse := others, wantsAlias := cursor.wantsAlias || endsBlank }

/-- The text without the line ends that a backslash joins, and how many there were. -/
def joinLines : ByteText → Nat → ByteText × Nat
  | '\\' :: '\n' :: rest, count => joinLines rest (count + 1)
  | text, count => (text, count)

/-- The next character, where a backslash does not join lines. -/
def rawChar? : Reading (Option Char) := do
  let cursor ← get
  match cursor.rest with
  | [] => return none
  | c :: rest =>
    set { cursor with rest := rest }
    return some c

/-- The next character; lines that a backslash joins are one. -/
def char? : Reading (Option Char) := do
  let cursor ← get
  match cursor.rest with
  | '\\' :: '\n' :: _ =>
    let (rest, count) := joinLines cursor.rest 0
    set { cursor with rest := rest, line := cursor.line + count }
    rawChar?
  | _ => rawChar?

/-- Puts a character back. -/
def putBack (c : Char) : Reading Unit :=
  modify fun cursor => { cursor with rest := c :: cursor.rest }

/-- Passes the next character if it is the expected one. -/
def passChar (expected : Char) : Reading Bool := do
  match ← char? with
  | some c =>
    if c = expected then return true
    putBack c
    return false
  | none => return false

/-- Notes the end of a line. -/
def countLine : Reading Unit := modify fun cursor => { cursor with line := cursor.line + 1 }

/-- Puts a token back. -/
def hold (token : Token) : Reading Unit := modify fun cursor => { cursor with held := some token }

/-- Refuses a token. -/
def unexpected {α : Type} (token : Token) : Reading α := fail s!"{token.describe} unexpected"

/-- Refuses a token in the place of another. -/
def unexpectedFor {α : Type} (expected token : Token) : Reading α :=
  fail s!"{token.describe} unexpected (expecting {expected.describe})"

end Reading

end CopyOracle.Shell
