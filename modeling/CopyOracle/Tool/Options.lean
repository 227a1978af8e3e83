import CopyOracle.Tool.Basic

/-!
# Options of tools

Options stand anywhere among the arguments of a tool, up to two dashes. One has a letter, and may
have a name as well; some take an argument. A name may be shortened as long as it is clear.
-/
namespace CopyOracle.Tool

open Host

/-- Whether an option takes an argument. -/
inductive Taking where
  /-- It takes none. -/
  | nothing
  /-- It takes one. -/
  | argument
  /-- It takes one that is joined to it, or none. -/
  | joined
deriving DecidableEq, Repr

/-- The options that a tool accepts. -/
structure OptionTable where
  /-- The letters. -/
  letters : List (Char × Taking) := []
  /-- The names, each with a letter that stands for it. -/
  names : List (String × Taking × Char) := []
  /-- Whether options end with the first operand. -/
  isStrict : Bool := false

namespace OptionTable

/-- The table of letters, those with a colon after them taking an argument. -/
def lettersOf : ByteText → List (Char × Taking)
  | [] => []
  | c :: ':' :: ':' :: rest => (c, .joined) :: lettersOf rest
  | c :: ':' :: rest => (c, .argument) :: lettersOf rest
  | c :: rest => (c, .nothing) :: lettersOf rest

/-- The table of letters and names. -/
def of (letters : String) (names : List (String × Taking × Char) := [])
    (isStrict : Bool := false) : OptionTable :=
  ⟨lettersOf letters.toList, names, isStrict⟩

end OptionTable

/-- What a tool was asked for. -/
structure Asked where
  /-- The options with their arguments, in order. -/
  options : List (Char × ByteText) := []
  /-- The operands. -/
  operands : List ByteText := []

namespace Asked

/-- Whether an option is there. -/
def has (asked : Asked) (letter : Char) : Bool := asked.options.any fun (other, _) => other = letter

/-- The argument of an option, the last one if there are several. -/
def argument? (asked : Asked) (letter : Char) : Option ByteText :=
  ((asked.options.filter fun (other, _) => other = letter).getLast?).map Prod.snd

/-- The last one of some options. -/
def lastOf (asked : Asked) (letters : List Char) : Option Char :=
  ((asked.options.filter fun (other, _) => letters.contains other).getLast?).map Prod.fst

end Asked

/-- Why options cannot be read. -/
inductive OptionFault where
  /-- There is no such letter. -/
  | unknownLetter (letter : Char)
  /-- The argument of a letter is missing. -/
  | noArgument (letter : Char)
  /-- There is no such name. -/
  | unknownName (word : ByteText)
  /-- Several names begin so. -/
  | ambiguous (word : ByteText) (names : List String)
  /-- The argument of a name is missing. -/
  | noNameArgument (name : String)
  /-- A name that takes no argument has one. -/
  | surplus (name : String)
deriving DecidableEq, Repr

/-- What is wrong with options. -/
def OptionFault.message : OptionFault → ByteText
  | .unknownLetter letter => "invalid option -- '".toList ++ [letter, '\'']
  | .noArgument letter => "option requires an argument -- '".toList ++ [letter, '\'']
  | .unknownName word => "unrecognized option '".toList ++ word ++ ['\'']
  | .ambiguous word names =>
    "option '".toList ++ word ++ "' is ambiguous; possibilities:".toList ++
      names.flatMap fun name => " '--".toList ++ name.toList ++ ['\'']
  | .noNameArgument name => s!"option '--{name}' requires an argument".toList
  | .surplus name => s!"option '--{name}' doesn't allow an argument".toList

/-- The letters of one word, with the arguments after it. -/
def readLetters (table : OptionTable) : ByteText → List ByteText →
    Except OptionFault (List (Char × ByteText) × List ByteText)
  | [], rest => .ok ([], rest)
  | letter :: letters, rest => do
    match table.letters.lookup letter with
    | none => throw (.unknownLetter letter)
    | some .nothing =>
      let (options, rest) ← readLetters table letters rest
      return ((letter, []) :: options, rest)
    | some .joined => return ([(letter, letters)], rest)
    | some .argument =>
      match letters, rest with
      | [], [] => throw (.noArgument letter)
      | [], argument :: rest => return ([(letter, argument)], rest)
      | argument, rest => return ([(letter, argument)], rest)

/-- The option of a name, with the arguments after it. -/
def readName (table : OptionTable) (word : ByteText) (rest : List ByteText) :
    Except OptionFault ((Char × ByteText) × List ByteText) := do
  let name := (word.drop 2).takeWhile (· ≠ '=')
  let joined := (word.drop 2).drop name.length
  let matching := table.names.filter fun (known, _) => name.isPrefixOf known.toList
  let chosen := match matching.find? fun (known, _) => known.toList = name with
    | some exact => [exact]
    | none => matching
  match chosen with
  | [] => throw (.unknownName ("--".toList ++ name))
  | (known, taking, letter) :: others =>
    if others.any fun (_, _, other) => other ≠ letter then
      throw (.ambiguous ("--".toList ++ name) (chosen.map Prod.fst))
    match taking, joined with
    | .nothing, [] => return ((letter, []), rest)
    | .nothing, _ => throw (.surplus known)
    | _, _ :: value => return ((letter, value), rest)
    | .joined, [] => return ((letter, []), rest)
    | .argument, [] =>
      match rest with
      | value :: rest => return ((letter, value), rest)
      | [] => throw (.noNameArgument known)

/-- Reads arguments as options and operands. -/
def readOptions (table : OptionTable) : (fuel : Nat) → List ByteText → Asked →
    Except OptionFault Asked
  | 0, _, asked => .ok asked
  | _ + 1, [], asked => .ok asked
  | fuel + 1, word :: rest, asked =>
    match word with
    | ['-', '-'] => .ok { asked with operands := asked.operands ++ rest }
    | '-' :: '-' :: _ => do
      let (option, rest) ← readName table word rest
      readOptions table fuel rest { asked with options := asked.options ++ [option] }
    | '-' :: letter :: letters => do
      let (options, rest) ← readLetters table (letter :: letters) rest
      readOptions table fuel rest { asked with options := asked.options ++ options }
    | _ =>
      if table.isStrict then .ok { asked with operands := asked.operands ++ word :: rest }
      else readOptions table fuel rest { asked with operands := asked.operands ++ [word] }

/-- Refers to the help of a tool and ends it. -/
def referToHelp {α : Type} (status : Nat) : Work α := do
  let _ ← call (.write 2 ("Try '".toList ++ (← get).name ++
    " --help' for more information.\n".toList))
  quit status

/-- Complains about the use of a tool and ends it. -/
def misuse {α : Type} (status : Nat) (text : ByteText) : Work α := do
  flush
  complain text
  referToHelp status

/-- The options and operands among the arguments of a tool; a fault ends it with a status. -/
def askedFor (table : OptionTable) (arguments : List ByteText) (status : Nat := 1) :
    Work Asked := do
  match readOptions table (arguments.length + 1) arguments {} with
  | .ok asked => return asked
  | .error fault => misuse status fault.message

/-- Refuses to work without an operand. -/
def missingOperand {α : Type} : Work α := misuse 1 "missing operand".toList

end CopyOracle.Tool
