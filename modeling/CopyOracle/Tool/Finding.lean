import CopyOracle.Shell.Pattern
import CopyOracle.Tool.Arguments
import CopyOracle.Tool.Files

/-!
# Finding files

A directory is walked with all that is in it, and a condition is tried on every path. A condition
may also act: print the path, run a command on it, or take the file away.
-/
namespace CopyOracle.Tool

open Host

/-- How a number is compared with one that is asked for. -/
inductive Comparing where
  /-- It is less. -/
  | less
  /-- It is the same. -/
  | same
  /-- It is more. -/
  | more
deriving DecidableEq, Repr

/-- Whether a number compares so with another one. -/
def Comparing.holds (comparing : Comparing) (number other : Nat) : Bool :=
  match comparing with
  | .less => number < other
  | .same => number = other
  | .more => other < number

/-- A condition on a path, which may act. -/
inductive Finding where
  /-- It always holds, or never. -/
  | always (answer : Bool)
  /-- The last name fits a pattern, perhaps whatever the case of letters. -/
  | name (pattern : Shell.Pattern) (ignoresCase : Bool)
  /-- The whole path fits a pattern. -/
  | path (pattern : Shell.Pattern) (ignoresCase : Bool)
  /-- The file is of one of some kinds. -/
  | kind (letters : List Char)
  /-- The file or directory holds nothing. -/
  | isEmpty
  /-- The size, in units of so many bytes, compares with a number. -/
  | size (comparing : Comparing) (number unit : Nat)
  /-- The permissions compare with some bits: they are the same, hold all of them, or hold one of
  them. -/
  | permissions (comparing : Comparing) (bits : Nat)
  /-- The file may be run. -/
  | isExecutable
  /-- The path is printed with a text after it. -/
  | print (ending : ByteText)
  /-- The path is printed in a format. -/
  | printed (format : ByteText)
  /-- A command is run for the path, and succeeds. -/
  | run (words : List ByteText)
  /-- A command is run for many paths at the end. -/
  | gather (index : Nat) (words : List ByteText)
  /-- The file is taken away. -/
  | delete
  /-- What is in the directory is passed over. -/
  | prune
  /-- Nothing more is looked for. -/
  | quit
  /-- A condition does not hold. -/
  | not (condition : Finding)
  /-- Both conditions hold; the second one is tried only after the first. -/
  | both (first second : Finding)
  /-- One of two conditions holds; the second one is tried only if the first one does not. -/
  | either (first second : Finding)
  /-- The second condition holds, whatever comes of the first. -/
  | sequence (first second : Finding)

namespace Finding

/-- Whether a condition prints or does something else than to test. -/
def acts : Finding → Bool
  | .print _ | .printed _ | .run _ | .gather _ _ | .delete => true
  | .not condition => condition.acts
  | .both first second | .either first second | .sequence first second =>
    first.acts || second.acts
  | _ => false

/-- Whether a condition takes files away. -/
def deletes : Finding → Bool
  | .delete => true
  | .not condition => condition.deletes
  | .both first second | .either first second | .sequence first second =>
    first.deletes || second.deletes
  | _ => false

end Finding

/-- How a directory is walked. -/
structure Walk where
  /-- From which depth on conditions are tried. -/
  least : Nat := 0
  /-- Up to which depth directories are entered. -/
  most : Option Nat := none
  /-- Whether a directory comes after what is in it. -/
  isInsideFirst : Bool := false
  /-- How many commands are run at the end. -/
  gathered : Nat := 0

/-- Why conditions cannot be read. -/
inductive FindingFault where
  /-- There is no such condition. -/
  | unknown (word : ByteText)
  /-- The argument of a condition is missing. -/
  | noArgument (word : ByteText)
  /-- A word stands where it may not. -/
  | misplacedPath (word : ByteText)
  /-- The conditions do not fit together. -/
  | malformed (wording : String)
  /-- An argument is not understood. -/
  | badArgument (word : ByteText) (wording : String)
deriving DecidableEq, Repr

/-- What is wrong with conditions. -/
def FindingFault.message : FindingFault → ByteText
  | .unknown word => "unknown predicate ".toList ++ Char.ofNat 96 :: word ++ ['\'']
  | .noArgument word => "missing argument to ".toList ++ Char.ofNat 96 :: word ++ ['\'']
  | .misplacedPath word =>
    "paths must precede expression: ".toList ++ Char.ofNat 96 :: word ++ ['\'']
  | .malformed wording => wording.toList
  | .badArgument word wording => wording.toList ++ word

/-- The pattern of a word without quotes. -/
def patternOf (word : ByteText) : Shell.Pattern := Shell.Pattern.ofWord (word.map (⟨·, true⟩))

/-- A word with its small letters. -/
def inSmall (word : ByteText) : ByteText := word.map Char.toLower

/-- The size that a word asks for. -/
def sizeAsked? (word : ByteText) : Option Finding := do
  let (comparing, rest) := match word with
    | '+' :: rest => (Comparing.more, rest)
    | '-' :: rest => (.less, rest)
    | rest => (.same, rest)
  let digits := rest.takeWhile Char.isDigit
  let unit ← match rest.drop digits.length with
    | [] | ['b'] => some 512
    | ['c'] => some 1
    | ['w'] => some 2
    | ['k'] => some 1024
    | ['M'] => some 1048576
    | ['G'] => some 1073741824
    | _ => none
  return .size comparing (← Numeral.value? digits) unit

/-- The permissions that a word asks for. -/
def permissionsAsked? (word : ByteText) : Option Finding := do
  let (comparing, digits) := match word with
    | '-' :: rest => (Comparing.more, rest)
    | '/' :: rest => (.less, rest)
    | rest => (.same, rest)
  if digits.isEmpty || !digits.all fun c => '0' ≤ c && c ≤ '7' then none
  else return .permissions comparing (digits.foldl (fun bits c => bits * 8 + (c.toNat - 48)) 0)

/-- The kinds of files that a word names, separated by commas. -/
def kindsOf? (word : ByteText) : Option (List Char) :=
  (word.splitOn ',').mapM fun part => match part with
    | [c] => if c ∈ ['f', 'd', 'l', 'b', 'c', 'p', 's'] then some c else none
    | _ => none

/-- What stands in parentheses and after them, and the words after that. -/
abbrev FindingReader :=
  List ByteText → Walk → Except FindingFault (Finding × List ByteText × Walk)

/-- The words of a command up to a semicolon, or up to braces and a plus sign; whether paths are
gathered for it; and the words after it. -/
def commandWords : List ByteText → (before : List ByteText) →
    Option (List ByteText × Bool × List ByteText)
  | [], _ => none
  | [';'] :: rest, before => some (before.reverse, false, rest)
  | word :: rest, before =>
    if word = ['+'] && before.head? = some ['\x7b', '\x7d'] then
      some (before.tail.reverse, true, rest)
    else commandWords rest (word :: before)

/-- Reads one condition. -/
def primary (inner : FindingReader) : FindingReader := fun words walk => do
  match words with
  | [] => throw (.malformed "expected an expression")
  | word :: rest =>
    let plain (condition : Finding) := return (condition, rest, walk)
    let argument : Except FindingFault (ByteText × List ByteText) :=
      match rest with
      | [] => throw (.noArgument word)
      | value :: rest => return (value, rest)
    let depth : Except FindingFault (Nat × List ByteText) := do
      let (value, rest) ← argument
      match Numeral.value? value with
      | some number => return (number, rest)
      | none => throw (.malformed s!"Expected a positive decimal integer argument to {ByteText.asString word}, but got {ByteText.asString (quoted value)}")
    match String.ofList word with
    | "(" =>
      let (condition, rest, walk) ← inner rest walk
      match rest with
      | [')'] :: rest => return (condition, rest, walk)
      | _ => throw (.malformed "invalid expression; I was expecting to find a ')' somewhere but did not see one.")
    | ")" => throw (.malformed "you have too many ')'")
    | "-true" => plain (.always true)
    | "-false" => plain (.always false)
    | "-name" =>
      let (value, rest) ← argument
      return (.name (patternOf value) false, rest, walk)
    | "-iname" =>
      let (value, rest) ← argument
      return (.name (patternOf (inSmall value)) true, rest, walk)
    | "-path" | "-wholename" =>
      let (value, rest) ← argument
      return (.path (patternOf value) false, rest, walk)
    | "-ipath" =>
      let (value, rest) ← argument
      return (.path (patternOf (inSmall value)) true, rest, walk)
    | "-type" | "-xtype" =>
      let (value, rest) ← argument
      match kindsOf? value with
      | some letters => return (.kind letters, rest, walk)
      | none => throw (.badArgument value s!"Unknown argument to {ByteText.asString word}: ")
    | "-empty" => plain .isEmpty
    | "-size" =>
      let (value, rest) ← argument
      match sizeAsked? value with
      | some condition => return (condition, rest, walk)
      | none => throw (.badArgument (value ++ ['\'']) "invalid -size type \x60")
    | "-executable" => plain .isExecutable
    | "-readable" | "-writable" => plain (.always true)
    | "-newer" | "-anewer" | "-cnewer" =>
      let (_, rest) ← argument
      return (.always false, rest, walk)
    | "-mtime" | "-mmin" | "-atime" | "-amin" | "-ctime" | "-cmin" =>
      let (value, rest) ← argument
      return (.always (value.head? ≠ some '+'), rest, walk)
    | "-perm" =>
      let (value, rest) ← argument
      match permissionsAsked? value with
      | some condition => return (condition, rest, walk)
      | none => throw (.badArgument (quoted value) "invalid mode ")
    | "-user" | "-group" =>
      let (_, rest) ← argument
      return (.always true, rest, walk)
    | "-print" => plain (.print ['\n'])
    | "-print0" => plain (.print [Char.ofNat 0])
    | "-printf" =>
      let (value, rest) ← argument
      return (.printed value, rest, walk)
    | "-exec" | "-execdir" =>
      match commandWords rest [] with
      | none | some ([], _, _) => throw (.noArgument word)
      | some (command, isGathered, rest) =>
        if isGathered then
          return (.gather walk.gathered command, rest, { walk with gathered := walk.gathered + 1 })
        else return (.run command, rest, walk)
    | "-delete" => return (.delete, rest, { walk with isInsideFirst := true })
    | "-depth" | "-d" => return (.always true, rest, { walk with isInsideFirst := true })
    | "-prune" => plain .prune
    | "-quit" => plain .quit
    | "-maxdepth" =>
      let (number, rest) ← depth
      return (.always true, rest, { walk with most := some number })
    | "-mindepth" =>
      let (number, rest) ← depth
      return (.always true, rest, { walk with least := number })
    | "-xdev" | "-mount" | "-noleaf" | "-follow" => plain (.always true)
    | _ =>
      if word.head? = some '-' then throw (.unknown word) else throw (.misplacedPath word)

/-- Reads a condition or what it is not. -/
def negation (inner : FindingReader) : (fuel : Nat) → FindingReader
  | 0 => fun _ _ => throw (.malformed "invalid expression")
  | fuel + 1 => fun words walk => do
    match words with
    | ['!'] :: rest | ['-', 'n', 'o', 't'] :: rest =>
      let (condition, rest, walk) ← negation inner fuel rest walk
      return (.not condition, rest, walk)
    | _ => primary inner words walk

/-- Reads conditions that all have to hold. -/
def conjunction (inner : FindingReader) : (fuel : Nat) → FindingReader
  | 0 => fun _ _ => throw (.malformed "invalid expression")
  | fuel + 1 => fun words walk => do
    let (first, rest, walk) ← negation inner (words.length + 1) words walk
    let goOn (rest : List ByteText) := do
      let (second, rest, walk) ← conjunction inner fuel rest walk
      return (.both first second, rest, walk)
    match rest with
    | ['-', 'a'] :: rest | ['-', 'a', 'n', 'd'] :: rest => goOn rest
    | [] | ['-', 'o'] :: _ | ['-', 'o', 'r'] :: _ | [','] :: _ | [')'] :: _ =>
      return (first, rest, walk)
    | _ => goOn rest

/-- Reads conditions of which one has to hold. -/
def disjunction (inner : FindingReader) : (fuel : Nat) → FindingReader
  | 0 => fun _ _ => throw (.malformed "invalid expression")
  | fuel + 1 => fun words walk => do
    let (first, rest, walk) ← conjunction inner (words.length + 1) words walk
    match rest with
    | ['-', 'o'] :: rest | ['-', 'o', 'r'] :: rest =>
      let (second, rest, walk) ← disjunction inner fuel rest walk
      return (.either first second, rest, walk)
    | _ => return (first, rest, walk)

/-- Reads conditions with all that is in parentheses, so deep at most. -/
def conditions : (depth : Nat) → FindingReader
  | 0 => fun _ _ => throw (.malformed "invalid expression")
  | depth + 1 => fun words walk => do
    let (first, rest, walk) ← disjunction (conditions depth) (words.length + 1) words walk
    match rest with
    | [','] :: rest =>
      let (second, rest, walk) ← conditions depth rest walk
      return (.sequence first second, rest, walk)
    | _ => return (first, rest, walk)

/-- Reads all conditions. One that does nothing prints the paths for which it holds. -/
def readConditions (words : List ByteText) : Except FindingFault (Finding × Walk) := do
  if words.isEmpty then return (.print ['\n'], {})
  let (condition, rest, walk) ← conditions (words.length + 1) words {}
  match rest with
  | [] => return (if condition.acts then condition else .both condition (.print ['\n']), walk)
  | _ => throw (.malformed "you have too many ')'")

/-- A path that is looked at. -/
structure Found where
  /-- The path. -/
  path : ByteText
  /-- Where the walk to it started. -/
  start : ByteText
  /-- How deep it is below the start. -/
  depth : Nat
  /-- What stands there. -/
  entry : FileEntry

/-- What a walk has come to. -/
structure Course where
  /-- The paths that were gathered for commands, the last one first. -/
  gathered : List (Nat × List ByteText × ByteText) := []
  /-- Whether what is in the directory is passed over. -/
  isPruned : Bool := false
  /-- Whether nothing more is looked for. -/
  isOver : Bool := false

/-- Walking with what it has come to. -/
abbrev Walking := StateT Course Work

/-- The bits of the permissions of a file. -/
def permissionsOf : FileEntry → Nat
  | .file _ false => 0o644
  | .device _ => 0o666
  | _ => 0o755

/-- The path of a file in the format of a letter. -/
def Found.part (found : Found) (letter : Char) : ByteText :=
  match letter with
  | 'p' => found.path
  | 'f' => baseOf found.path
  | 'h' => directoryOf found.path
  | 'P' =>
    let rest := found.path.drop found.start.length
    if rest.head? = some '/' then rest.tail else rest
  | 'H' => found.start
  | 'd' => Numeral.digits found.depth
  | 's' => Numeral.digits (Listing.sizeOf found.entry)
  | 'm' => Nat.toDigits 8 (permissionsOf found.entry)
  | 'y' => match found.entry with
    | .directory => ['d']
    | .device _ => ['c']
    | _ => ['f']
  | 'u' | 'g' => "root".toList
  | 'U' | 'G' => ['0']
  | 'l' => []
  | '%' => ['%']
  | other => ['%', other]

/-- A file in a format. -/
def Found.formatted (found : Found) : ByteText → ByteText
  | '%' :: letter :: rest => found.part letter ++ found.formatted rest
  | '\\' :: letter :: rest =>
    (match letter with
    | 'n' => ['\n']
    | 't' => ['\t']
    | '0' => [Char.ofNat 0]
    | '\\' => ['\\']
    | 'r' => ['\r']
    | 'a' => [Char.ofNat 7]
    | other => ['\\', other]) ++ found.formatted rest
  | c :: rest => c :: found.formatted rest
  | [] => []

/-- Whether the directory or file at a path is empty. -/
def holdsNothing (found : Found) : Work Bool := do
  match found.entry with
  | .file content _ => return content.size = 0
  | .directory =>
    match (← call .files).list (ByteText.asString found.path) with
    | .ok names => return names.isEmpty
    | .error _ => return false
  | _ => return false

/-- Takes away a file. -/
def deleteFound (found : Found) : Work Bool := do
  if found.path = ['.'] then return true
  let path := ByteText.asString found.path
  let answer ← call (.change fun files =>
    if found.entry = .directory then files.removeDirectory path else files.removeFile path)
  match answer with
  | .ok _ => return true
  | .error error =>
    fault 1 ("cannot delete ".toList ++ quoted found.path ++ ": ".toList ++ error.reason.toList)
    return false

/-- Runs a command and tells whether it succeeds. -/
def succeeds (words : List ByteText) : Work Bool := do
  let desk ← get
  let body : Program Nat := do
    let error ← become words desk.environment
    let _ ← Program.ask (.write 2 (desk.name ++ ": ".toList ++ quoted (words.headD []) ++
      ": ".toList ++ error.reason.toList ++ ['\n']))
    return 1
  return (← runChild body) = .exited 0

/-- Tries a condition on a path. -/
def tried (found : Found) : Finding → Walking Bool
  | .always answer => return answer
  | .name pattern ignoresCase =>
    let name := if (withoutSlashes found.path).isEmpty then ['/'] else baseOf found.path
    return pattern.fits (if ignoresCase then inSmall name else name)
  | .path pattern ignoresCase =>
    return pattern.fits (if ignoresCase then inSmall found.path else found.path)
  | .kind letters => return letters.any (found.part 'y').contains
  | .isEmpty => holdsNothing found
  | .size comparing number unit =>
    return comparing.holds ((Listing.sizeOf found.entry + unit - 1) / unit) number
  | .permissions comparing bits =>
    let own := permissionsOf found.entry
    return match comparing with
    | .same => own = bits
    | .more => own &&& bits = bits
    | .less => bits = 0 || own &&& bits ≠ 0
  | .isExecutable => return match found.entry with
    | .file _ isExecutable => isExecutable
    | .device _ => false
    | _ => true
  | .print ending => do
    put (found.path ++ ending)
    return true
  | .printed format => do
    put (found.formatted format)
    return true
  | .run words =>
    succeeds (words.map fun word => substituted ['\x7b', '\x7d'] found.path (word.length + 1) word)
  | .gather index words => do
    modify fun course => { course with gathered := (index, words, found.path) :: course.gathered }
    return true
  | .delete => deleteFound found
  | .prune => do
    modify fun course => { course with isPruned := true }
    return true
  | .quit => do
    modify fun course => { course with isOver := true }
    return true
  | .not condition => return !(← tried found condition)
  | .both first second => do
    if ← tried found first then
      if (← get).isOver then return true else tried found second
    else return false
  | .either first second => do
    if ← tried found first then return true
    else if (← get).isOver then return false
    else tried found second
  | .sequence first second => do
    let _ ← tried found first
    if (← get).isOver then return true else tried found second

/-- Walks what stands at a path, and what is in it. -/
def walkFrom (walk : Walk) (condition : Finding) (start : ByteText) : (fuel : Nat) →
    (depth : Nat) → ByteText → Walking Unit
  | 0, _, _ => return ()
  | fuel + 1, depth, path => do
    if (← get).isOver then return ()
    match ← (entryAt path : Work (Except FileError FileEntry)) with
    | .error error =>
      fault 1 (quoted path ++ ": ".toList ++ error.reason.toList)
    | .ok entry =>
      let found : Found := { path, start, depth, entry }
      let look : Walking Unit := do
        if walk.least ≤ depth then
          let _ ← tried found condition
      let enter : Walking Unit := do
        if entry = .directory && !walk.most.any (· ≤ depth) then
          match (← (call .files : Work FileTree)).sortedNames (ByteText.asString path) with
          | .error _ => return ()
          | .ok names =>
            names.forM fun name =>
              walkFrom walk condition start fuel (depth + 1) (below path (ByteText.ofString name))
      if walk.isInsideFirst then
        enter
        unless (← get).isOver do look
      else
        modify fun course => { course with isPruned := false }
        look
        unless (← get).isPruned || (← get).isOver do enter
        modify fun course => { course with isPruned := false }

/-- Runs the commands for which paths were gathered. -/
def runGathered (course : Course) (count : Nat) : Work Unit := do
  for index in List.range count do
    let paths := (course.gathered.filter fun (other, _, _) => other = index).reverse
    match paths with
    | [] => pure ()
    | (_, words, _) :: _ =>
      unless ← succeeds (words ++ paths.map fun (_, _, path) => path) do
        modify fun desk => { desk with status := 1 }

/-- Finds files. -/
def find : Main := program fun arguments => do
  let options := arguments.takeWhile fun word =>
    word ∈ ["-H".toList, "-L".toList, "-P".toList]
  let rest := arguments.drop options.length
  let isPath (word : ByteText) : Bool :=
    word.head? ≠ some '-' && word ≠ ['!'] && word ≠ ['('] && word ≠ [')'] && word ≠ [',']
  let paths := rest.takeWhile isPath
  match readConditions (rest.drop paths.length) with
  | .error fault =>
    complain fault.message
    if let .misplacedPath word := fault then
      let former := (rest.takeWhile (· ≠ word)).reverse.find? fun word => word.head? = some '-'
      let files ← call .files
      if let (some former, true) :=
          (former, (files.standing? (ByteText.asString word)).isSome) then
        complain ("possible unquoted pattern after predicate ".toList ++ Char.ofNat 96 :: former ++
          "'?".toList)
    quit 1
  | .ok (condition, walk) =>
    let starts := if paths.isEmpty then [['.']] else paths
    let (_, course) ← (starts.forM fun path =>
      walkFrom walk condition path 1000 0 path : Walking Unit).run {}
    flush
    runGathered course walk.gathered

end CopyOracle.Tool
