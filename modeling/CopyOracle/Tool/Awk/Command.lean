import CopyOracle.Tool.Awk.Running

/-!
# The tool that works on records

The arguments hold a program, or files with its parts, and after it the files to work on. Variables
may be given values before the program starts.
-/
namespace CopyOracle.Tool.Awk

open Host

/-- What the tool was asked for. -/
structure Request where
  /-- The files with the program, the last one first. -/
  files : List ByteText := []
  /-- The separator of fields. -/
  separator : Option ByteText := none
  /-- The variables with their values, the last one first. -/
  given : List (String × ByteText) := []
  /-- The arguments that are left. -/
  rest : List ByteText := []

/-- Why arguments cannot be read. -/
inductive RequestFault where
  /-- The argument of an option is missing. -/
  | noArgument (letter : Char)
  /-- An option is none. -/
  | unknown (word : ByteText)
  /-- A variable is not given a value. -/
  | noAssignment (word : ByteText)
deriving DecidableEq, Repr

/-- What is wrong with arguments. -/
def RequestFault.message : RequestFault → ByteText
  | .noArgument letter => "option -".toList ++ letter :: " lacks argument".toList
  | .unknown word => "not an option: ".toList ++ word
  | .noAssignment word => "improper assignment: -v ".toList ++ word

/-- A request with one more option. -/
def Request.add (request : Request) (letter : Char) (word : ByteText) :
    Except RequestFault Request :=
  match letter with
  | 'f' => .ok { request with files := word :: request.files }
  | 'F' => .ok { request with separator := some (Token.resolve (word.length + 1) word) }
  | _ =>
    match assignment? word with
    | some given => .ok { request with given := given :: request.given }
    | none => .error (.noAssignment word)

/-- What arguments ask for. -/
def Request.read (request : Request) : List ByteText → Except RequestFault Request
  | [] => .ok request
  | ['-', '-'] :: rest => .ok { request with rest }
  | ('-' :: letter :: joined) :: rest =>
    if letter ∈ ['f', 'F', 'v'] then
      match joined, rest with
      | [], word :: rest => do (← request.add letter word).read rest
      | [], [] => .error (.noArgument letter)
      | word, rest => do (← request.add letter word).read rest
    else .error (.unknown ('-' :: letter :: joined))
  | rest => .ok { request with rest }

/-- How the tool is used. -/
def usage : List String :=
  ["Usage: mawk [Options] [Program] [file ...]", "", "Program:",
    "    The -f option value is the name of a file containing program text.",
    "    If no -f option is given, a \"--\" ends option processing; the following",
    "    parameters are the program text.", "", "Options:",
    "    -f program-file  Program  text is read from file instead of from the",
    "                     command-line.  Multiple -f options are accepted.",
    "    -F value         sets the field separator, FS, to value.",
    "    -v var=value     assigns value to program variable var.",
    "    --               unambiguous end of options.", "",
    "    Implementation-specific options are prefixed with \"-W\".  They can be",
    "    abbreviated:", "",
    "    -W version       show version information and exit.",
    "    -W compat        pre-POSIX 2001.",
    "    -W dump          show assembler-like listing of program and exit.",
    "    -W help          show this message and exit.",
    "    -W interactive   set unbuffered output, line-buffered input.",
    "    -W exec file     use file as program as well as last option.",
    "    -W posix         stricter POSIX checking.",
    "    -W random=number set initial random seed.",
    "    -W sprintf=number adjust size of sprintf buffer.",
    "    -W usage         show this message and exit."]

/-- Shows how the tool is used and ends it. -/
def showUsage {α : Type} : Work α := do
  let lines := usage.flatMap fun line => line.toList ++ ['\n']
  let _ ← call (.write 2 lines)
  quit 0

/-- The text of a file with a part of a program. -/
def partIn (path : ByteText) : Work ByteText := do
  match ← openOperand path with
  | .ok descriptor =>
    let text ← all path descriptor
    closeOperand descriptor
    return text
  | .error error =>
    fail 2 ("cannot open \"".toList ++ path ++ "\" (".toList ++ error.reason.toList ++ [')'])

/-- A table with values by their subscripts. -/
def tableOf (entries : List (Subscript × ByteText)) : Table :=
  entries.foldl (fun table (subscript, word) => table.put subscript (.ofInput word))
    { isUsed := true }

/-- The state in which a program starts. -/
def start (request : Request) (name : ByteText) (environment operands : List ByteText) : State :=
  let words := name :: operands
  let fixed : List (String × Value) :=
    [("FS", .text [' ']), ("OFS", .text [' ']), ("ORS", .text ['\n']), ("RS", .text ['\n']),
      ("SUBSEP", .text [Char.ofNat 28]), ("CONVFMT", .text "%.6g".toList),
      ("OFMT", .text "%.6g".toList), ("NR", .number 0.0), ("FNR", .number 0.0),
      ("ARGC", .number (Float.ofNat words.length))]
  let separator := request.separator.toList.map fun text => ("FS", Value.text text)
  let given := request.given.reverse.map fun (name, word) => (name, Value.ofInput word)
  let surroundings := environment.filterMap fun entry =>
    let name := entry.takeWhile (· ≠ '=')
    match entry.drop name.length with
    | _ :: word => some (Subscript.text name, word)
    | [] => none
  { globals := Std.HashMap.ofList (fixed ++ separator ++ given)
    tables := #[tableOf surroundings,
      tableOf (words.zipIdx.map fun (word, index) => (.whole index, word))]
    tableOf := Std.HashMap.ofList [("ENVIRON", 0), ("ARGV", 1)] }

/-- Complains that a program cannot be read and ends the tool. -/
def refuseProgram {α : Type} (files : List ByteText) (line : Nat) (fault : Fault) : Work α := do
  let file := match files.getLast? with
    | some path => path ++ ": ".toList
    | none => []
  let place := file ++ "line ".toList ++ Numeral.digits line ++ ": ".toList
  match fault with
  | .badCharacter _ => complain (file ++ Numeral.digits line ++ ": ".toList ++ fault.message)
  | .extraBrace =>
    complain (place ++ fault.message)
    complain (place ++ (Fault.syntaxError "end of line".toList).message)
  | _ => complain (place ++ fault.message)
  quit 2

end CopyOracle.Tool.Awk

namespace CopyOracle.Tool

open Host Awk

/-- Works on records by a program. -/
def awk : Main := program fun arguments => do
  match Request.read {} arguments with
  | .error fault => fail 2 fault.message
  | .ok request =>
    let (text, operands) ← match request.files, request.rest with
      | [], [] => showUsage
      | [], text :: operands => pure (text, operands)
      | files, operands => do
        let parts ← files.reverse.mapM partIn
        pure (['\n'].intercalate parts, operands)
    match Awk.read text with
    | .error (line, fault) => refuseProgram request.files line fault
    | .ok code =>
      let desk ← get
      let (outcome, _) ← (Awk.run code).run.run
        (Awk.start request desk.name desk.environment operands)
      match outcome with
      | .ok status => leave status
      | .error _ => leave 0

end CopyOracle.Tool
