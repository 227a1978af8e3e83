import CopyOracle.Regex.Automaton
import CopyOracle.Regex.Reader
import CopyOracle.Tool.Options

/-!
# Printing lines that fit patterns

Lines are looked through for patterns: regular expressions of either notation, or texts. The lines
that fit are printed, counted or only noticed, with their numbers, their files and the lines
around them.
-/
namespace CopyOracle.Tool.Grep

open Host

/-- What is looked for, and what is printed of it. -/
structure Settings where
  /-- What is looked for. -/
  finders : List Regex.Finder
  /-- Whether lines are taken that do not fit. -/
  isInverted : Bool := false
  /-- Whether only whole words fit. -/
  isWords : Bool := false
  /-- Whether only whole lines fit. -/
  isLines : Bool := false
  /-- Whether lines are only counted. -/
  counts : Bool := false
  /-- Whether only the names of files that have such lines are printed. -/
  listsFiles : Bool := false
  /-- Whether only the names of files without such lines are printed. -/
  listsOthers : Bool := false
  /-- Whether nothing is printed. -/
  isQuiet : Bool := false
  /-- Whether files that cannot be read are passed over in silence. -/
  isSilent : Bool := false
  /-- Whether lines are numbered. -/
  numbers : Bool := false
  /-- Whether the places of lines in bytes are printed. -/
  offsets : Bool := false
  /-- Whether only what fits is printed of a line. -/
  onlyMatches : Bool := false
  /-- Whether the names of files are printed. -/
  showsNames : Bool := false
  /-- Whether bytes that are no text are taken as text. -/
  isText : Bool := false
  /-- How many lines are taken at most. -/
  most : Option Nat := none
  /-- How many lines before one that fits are printed. -/
  before : Nat := 0
  /-- How many lines after one that fits are printed. -/
  after : Nat := 0
  /-- Whether lines around are asked for. -/
  hasContext : Bool := false

/-- Whether a find in a line is a whole word. -/
def isWord (text : Array Char) (found : Regex.Found) : Bool :=
  !(0 < found.start && (text[found.start - 1]?).any CharSet.isWordChar) &&
    !(text[found.stop]?).any CharSet.isWordChar

/-- What one finder finds in a line from a place on. -/
def findOne (settings : Settings) (finder : Regex.Finder) (text : Array Char) :
    (fuel : Nat) → (position : Nat) → Option Regex.Found
  | 0, _ => none
  | fuel + 1, position =>
    match finder.search text position with
    | none => none
    | some found =>
      if settings.isLines && !(found.start = 0 && found.stop = text.size) then none
      else if settings.isWords && !settings.isLines && !isWord text found then
        findOne settings finder text fuel (found.start + 1)
      else some found

/-- The better of two finds: the one that begins first, or the longer one. -/
def better (left right : Option Regex.Found) : Option Regex.Found :=
  match left, right with
  | none, other | other, none => other
  | some left, some right =>
    if right.start < left.start || (right.start = left.start && left.stop < right.stop) then
      some right
    else some left

/-- What is found in a line from a place on. -/
def find (settings : Settings) (text : Array Char) (position : Nat) : Option Regex.Found :=
  settings.finders.foldl (fun best finder =>
    better best (findOne settings finder text (text.size + 2) position)) none

/-- All that is found in a line and is not empty. -/
def findAll (settings : Settings) (text : Array Char) : (fuel : Nat) → (position : Nat) →
    List (Nat × Nat)
  | 0, _ => []
  | fuel + 1, position =>
    match find settings text position with
    | none => []
    | some found =>
      if found.stop = found.start then findAll settings text fuel (found.start + 1)
      else (found.start, found.stop) :: findAll settings text fuel found.stop

/-- What is known of a file while it is looked through. -/
structure Progress where
  /-- The number of the line. -/
  number : Nat := 0
  /-- The place of the line in bytes. -/
  offset : Nat := 0
  /-- How many lines were taken. -/
  taken : Nat := 0
  /-- The lines before that were not printed, the last one first, with numbers and places. -/
  earlier : List (Nat × Nat × ByteText) := []
  /-- How many lines after the last one taken are still to be printed. -/
  due : Nat := 0
  /-- The number of the last line printed. -/
  lastPrinted : Option Nat := none

/-- What stands in front of a line. -/
def lead (settings : Settings) (name : ByteText) (mark : Char) (number offset : Nat) : ByteText :=
  (if settings.showsNames then name ++ [mark] else []) ++
    (if settings.numbers then Numeral.digits number ++ [mark] else []) ++
    (if settings.offsets then Numeral.digits offset ++ [mark] else [])

/-- Prints a line. -/
def printLine (settings : Settings) (name : ByteText) (mark : Char) (number offset : Nat)
    (line : ByteText) : Work Unit :=
  putLine (lead settings name mark number offset ++ line)

/-- Prints the lines before one that fits, after a sign if others were left out. -/
def printEarlier (settings : Settings) (name : ByteText) (progress : Progress) : Work Unit := do
  let earlier := (progress.earlier.take settings.before).reverse
  let first := match earlier with
    | (number, _) :: _ => number
    | [] => progress.number
  if settings.hasContext then
    if progress.lastPrinted.any fun last => last + 1 < first then putLine ['-', '-']
  unless settings.onlyMatches do
    for (number, offset, line) in earlier do printLine settings name '-' number offset line

/-- Looks through the lines of a file, and gives how many were taken. -/
def look (settings : Settings) (name : ByteText) : (fuel : Nat) → Source → Progress →
    Work (Progress × Source)
  | 0, source, progress => return (progress, source)
  | fuel + 1, source, progress => do
    let isFull := settings.most.any (· ≤ progress.taken)
    if isFull && progress.due = 0 then return (progress, source)
    match ← nextLine name source with
    | (none, source) => return (progress, source)
    | (some (line, _), source) =>
      let progress := { progress with number := progress.number + 1 }
      let next (progress : Progress) : Progress :=
        { progress with offset := progress.offset + line.length + 1 }
      let text := line.toArray
      let fits := (find settings text 0).isSome != settings.isInverted
      if fits && !isFull then
        let taken := { progress with taken := progress.taken + 1 }
        if settings.isQuiet || settings.listsFiles || settings.listsOthers then
          return (taken, source)
        if settings.counts then look settings name fuel source (next taken)
        else
          printEarlier settings name progress
          if settings.onlyMatches then
            unless settings.isInverted do
              for (start, stop) in findAll settings text (text.size + 2) 0 do
                printLine settings name ':' progress.number (progress.offset + start)
                  (text.extract start stop).toList
          else printLine settings name ':' progress.number progress.offset line
          look settings name fuel source (next
            { taken with
              earlier := [], due := settings.after, lastPrinted := some progress.number })
      else if 0 < progress.due && !settings.counts then
        unless settings.onlyMatches do
          printLine settings name '-' progress.number progress.offset line
        look settings name fuel source (next
          { progress with due := progress.due - 1, lastPrinted := some progress.number })
      else
        let earlier := if settings.before = 0 then []
          else ((progress.number, progress.offset, line) :: progress.earlier).take settings.before
        look settings name fuel source (next { progress with earlier })

/-- Looks through a file and reports what is asked for; says whether lines were taken. -/
def file (settings : Settings) (name : ByteText) (descriptor : Nat) : Work Bool := do
  let first ← more name descriptor
  let isBinary := first.contains (Char.ofNat 0) && !settings.isText
  let source : Source := { descriptor, ahead := first, isOver := first.isEmpty }
  let used := if isBinary then { settings with counts := settings.counts || !settings.isQuiet }
    else settings
  let (progress, source) ← look used name limit source {}
  call (.giveBack descriptor source.ahead.length)
  let isTaken := 0 < progress.taken
  if settings.isQuiet then
    if isTaken then leave 0
  else if settings.listsFiles then
    if isTaken then putLine name
  else if settings.listsOthers then
    unless isTaken do putLine name
  else if settings.counts then
    putLine ((if settings.showsNames then name ++ [':'] else []) ++ Numeral.digits progress.taken)
  else if isBinary && isTaken then
    putLine ((← nameStart) ++ name ++ ": binary file matches".toList)
  return isTaken

/-- The files below a directory, by their paths. -/
def filesBelow (files : FileTree) : (depth : Nat) → (path : ByteText) → List ByteText
  | 0, path => [path]
  | depth + 1, path =>
    match files.list (ByteText.asString path) with
    | .ok names =>
      names.flatMap fun name =>
        let start := if path.getLast? = some '/' then path else path ++ ['/']
        filesBelow files depth (start ++ ByteText.ofString name)
    | .error _ => [path]

/-- The notation of an expression. -/
inductive Manner where
  /-- Basic expressions. -/
  | basic
  /-- Extended expressions. -/
  | extended
  /-- Texts. -/
  | fixed
deriving DecidableEq, Repr

/-- A pattern, ready to be looked for. -/
def prepare (manner : Manner) (ignoresCase : Bool) (pattern : ByteText) : Work Regex.Finder := do
  match manner with
  | .fixed => return Regex.finder (Regex.ofText pattern) ignoresCase
  | _ =>
    match Regex.readWithLoose { isExtended := manner = .extended } pattern with
    | .ok (regex, loose) =>
      for sign in loose do
        complain ("warning: ".toList ++ sign :: " at start of expression".toList)
      return Regex.finder regex ignoresCase
    | .error fault => fail 2 fault.message.toList

/-- The options. -/
def options : OptionTable :=
  .of "EFGPe:f:iyvwxclLnoqshHm:A:B:C:bzarRUT" [("extended-regexp", .nothing, 'E'),
    ("fixed-strings", .nothing, 'F'), ("basic-regexp", .nothing, 'G'), ("regexp", .argument, 'e'),
    ("file", .argument, 'f'), ("ignore-case", .nothing, 'i'), ("invert-match", .nothing, 'v'),
    ("word-regexp", .nothing, 'w'), ("line-regexp", .nothing, 'x'), ("count", .nothing, 'c'),
    ("files-with-matches", .nothing, 'l'), ("files-without-match", .nothing, 'L'),
    ("line-number", .nothing, 'n'), ("only-matching", .nothing, 'o'), ("quiet", .nothing, 'q'),
    ("silent", .nothing, 'q'), ("no-messages", .nothing, 's'), ("no-filename", .nothing, 'h'),
    ("with-filename", .nothing, 'H'), ("max-count", .argument, 'm'),
    ("after-context", .argument, 'A'), ("before-context", .argument, 'B'),
    ("context", .argument, 'C'), ("byte-offset", .nothing, 'b'), ("text", .nothing, 'a'),
    ("recursive", .nothing, 'r'), ("color", .joined, 'U'), ("colour", .joined, 'U'),
    ("line-buffered", .nothing, 'U')]

/-- The number that is the argument of an option. -/
def numberOf (asked : Asked) (letter : Char) (wording : String) : Work (Option Nat) := do
  match asked.argument? letter with
  | none => return none
  | some word =>
    match Numeral.value? word with
    | some number => return some number
    | none => fail 2 (word ++ ": ".toList ++ wording.toList)

/-- Old numbers of lines around, digits after a dash, as options. -/
def modernised (arguments : List ByteText) : List ByteText :=
  arguments.map fun word =>
    match word with
    | '-' :: digits@(c :: _) => if c.isDigit && digits.all Char.isDigit then '-' :: 'C' :: digits
        else word
    | _ => word

/-- Prints the lines of files that fit patterns. -/
def work (standard : Manner) (arguments : List ByteText) : Work Unit := do
  let asked ← askedFor options (modernised arguments) 2
  let manner := match asked.lastOf ['E', 'F', 'G', 'P'] with
    | some 'F' => .fixed
    | some 'G' => .basic
    | some _ => .extended
    | none => standard
  let written := asked.options.filterMap fun (letter, word) =>
    if letter = 'e' then some word else none
  let inFiles ← (asked.options.filter fun (letter, _) => letter = 'f').mapM fun (_, path) => do
    match ← openOperand path with
    | .ok descriptor => return linesOf (← all path descriptor)
    | .error error => fail 2 (path ++ ": ".toList ++ error.reason.toList)
  let isNamed := asked.has 'e' || asked.has 'f'
  let (patterns, operands) ← match isNamed, asked.operands with
    | true, operands => pure (written ++ inFiles.flatten, operands)
    | false, pattern :: operands => pure ([pattern], operands)
    | false, [] => do
      let name := (← get).name
      let _ ← call (.write 2 ("Usage: ".toList ++ name ++
        " [OPTION]... PATTERNS [FILE]...\n".toList))
      referToHelp 2
  let finders ← (patterns.flatMap fun pattern => pattern.splitOn '\n').mapM
    (prepare manner (asked.has 'i' || asked.has 'y'))
  let around ← numberOf asked 'C' "invalid context length argument"
  let before ← numberOf asked 'B' "invalid context length argument"
  let after ← numberOf asked 'A' "invalid context length argument"
  let most ← numberOf asked 'm' "invalid max count"
  let isRecursive := asked.has 'r' || asked.has 'R'
  let files ← call .files
  let isImplied := isRecursive && operands.isEmpty
  let paths := if operands.isEmpty then [if isRecursive then ['.'] else ['-']] else operands
  let expanded := if isRecursive then paths.flatMap fun path =>
      if files.isDirectory (ByteText.asString path) then
        (filesBelow files 100 path).map fun found => if isImplied then found.drop 2 else found
      else [path]
    else paths
  let severalNames := 1 < paths.length ||
    (isRecursive && paths.any fun path => files.isDirectory (ByteText.asString path))
  let settings : Settings :=
    { finders, most
      isInverted := asked.has 'v', isWords := asked.has 'w', isLines := asked.has 'x'
      counts := asked.has 'c', listsFiles := asked.has 'l', listsOthers := asked.has 'L'
      isQuiet := asked.has 'q', isSilent := asked.has 's', numbers := asked.has 'n'
      offsets := asked.has 'b', onlyMatches := asked.has 'o', isText := asked.has 'a'
      showsNames := match asked.lastOf ['h', 'H'] with
        | some 'h' => false
        | some _ => true
        | none => severalNames
      before := (before.or around).getD 0, after := (after.or around).getD 0
      hasContext := (before.or around).any (0 < ·) || (after.or around).any (0 < ·) }
  let refuse (path : ByteText) (error : FileError) : Work Unit := do
    unless settings.isSilent do complain (path ++ ": ".toList ++ error.reason.toList)
    modify fun desk => { desk with status := 2 }
  let isTaken ← expanded.foldlM (fun taken path => do
    match ← openOperand path with
    | .error error =>
      refuse path error
      return taken
    | .ok descriptor =>
      let found ← if (← call (.inspect descriptor)) = some .directory then do
          refuse path .isDirectory
          pure false
        else file settings (if path = ['-'] then "(standard input)".toList else path) descriptor
      closeOperand descriptor
      return taken || found) false
  unless isTaken do
    modify fun desk => { desk with status := max desk.status 1 }

end CopyOracle.Tool.Grep

namespace CopyOracle.Tool

open Host

/-- Prints the lines that fit basic expressions. -/
def grep : Main := program (Grep.work .basic)

/-- Prints the lines that fit extended expressions. -/
def egrep : Main := program (Grep.work .extended)

/-- Prints the lines that hold texts. -/
def fgrep : Main := program (Grep.work .fixed)

end CopyOracle.Tool
