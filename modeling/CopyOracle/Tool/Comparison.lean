import CopyOracle.Text.Difference
import CopyOracle.Tool.Directories
import CopyOracle.Tool.Words

/-!
# Comparing files

Files are compared byte by byte up to the first difference, or line by line: what would have to be
changed in the first one to make it the second one, with or without the lines around.
-/
namespace CopyOracle.Tool

open Host

/-- Refers to the help of a tool under its name and ends it. -/
def referTo {α : Type} : Work α := do
  complain ("Try '".toList ++ (← get).name ++ " --help' for more information.".toList)
  quit 2

/-- The options and operands of a tool that compares files. -/
def comparisonAsked (table : OptionTable) (arguments : List ByteText) : Work Asked := do
  match readOptions table (arguments.length + 1) arguments {} with
  | .ok asked => return asked
  | .error fault =>
    complain fault.message
    referTo

/-- The bytes of an operand; the tool ends if it cannot be read. -/
def contentOf (path : ByteText) : Work ByteText := do
  let refuse {α : Type} (error : FileError) : Work α :=
    fail 2 (path ++ ": ".toList ++ error.reason.toList)
  match ← openOperand path with
  | .error error => refuse error
  | .ok descriptor =>
    match ← call (.inspect descriptor) with
    | some .directory => refuse .isDirectory
    | _ =>
      let text ← all path descriptor
      closeOperand descriptor
      return text

/-- The place of the first difference of two texts, and how many line ends are before it; none if
one of them goes on where the other one ends, or if they are the same. -/
def firstDifference : (place lines : Nat) → ByteText → ByteText → Option (Nat × Nat) × Nat
  | place, lines, c :: left, d :: right =>
    if c = d then firstDifference (place + 1) (if c = '\n' then lines + 1 else lines) left right
    else (some (place, lines), lines)
  | _, lines, _, _ => (none, lines)

/-- All places at which two texts differ, with the bytes there. -/
def differences : (place : Nat) → ByteText → ByteText → List (Nat × Char × Char)
  | place, c :: left, d :: right =>
    (if c = d then [] else [(place, c, d)]) ++ differences (place + 1) left right
  | _, _, _ => []

/-- Compares two files byte by byte. -/
def cmp : Main := program fun arguments => do
  let asked ← comparisonAsked (OptionTable.of "bi:ln:sv" [("print-bytes", .nothing, 'b'),
    ("ignore-initial", .argument, 'i'), ("verbose", .nothing, 'l'), ("bytes", .argument, 'n'),
    ("quiet", .nothing, 's'), ("silent", .nothing, 's')]) arguments
  let (first, second, skips) ← match asked.operands with
    | [] =>
      complain "missing operand after 'cmp'".toList
      referTo
    | [path] => pure (path, ['-'], [])
    | first :: second :: rest => pure (first, second, rest)
  for word in skips.take 2 do
    if (Numeral.value? word).isNone then
      complain ("invalid --ignore-initial value '".toList ++ word ++ ['\''])
      referTo
  if let _ :: _ :: extra :: _ := skips then
    complain ("extra operand '".toList ++ extra ++ ['\''])
    referTo
  let number (word : ByteText) : Nat := (Numeral.value? word).getD 0
  let both := (asked.argument? 'i').map fun word => (word.splitOn ':').map number
  let skipFirst := (skips.head?.map number).getD ((both.bind List.head?).getD 0)
  let skipSecond := (skips.tail.head?.map number).getD ((both.bind List.getLast?).getD 0)
  let cut (text : ByteText) (skipped : Nat) : ByteText :=
    let rest := text.drop skipped
    match asked.argument? 'n' with
    | some word => rest.take (number word)
    | none => rest
  if first = second && skipFirst = skipSecond then
    let _ ← contentOf first
    return ()
  let left := cut (← contentOf first) skipFirst
  let right := cut (← contentOf second) skipSecond
  if left = right then return ()
  modify fun desk => { desk with status := 1 }
  if asked.has 's' then return ()
  let found := firstDifference 0 0 left right
  if asked.has 'l' then
    let all := differences 1 left right
    let width := (Numeral.digits (min left.length right.length)).length
    for (place, c, d) in all do
      let octal (c : Char) : ByteText :=
        let digits := Nat.toDigits 8 c.toNat
        List.replicate (3 - digits.length) ' ' ++ digits
      let digits := Numeral.digits place
      putLine (List.replicate (width - digits.length) ' ' ++ digits ++ ' ' :: octal c ++
        ' ' :: octal d)
  else if let (some (place, lines), _) := found then
    putLine (first ++ ' ' :: second ++ s!" differ: char {place + 1}, line {lines + 1}".toList)
    return ()
  if left.length = right.length || !(asked.has 'l' || found.1.isNone) then return ()
  let (name, shorter) := if left.length < right.length then (first, left) else (second, right)
  flush
  if shorter.isEmpty then complain ("EOF on ".toList ++ name ++ " which is empty".toList)
  else if asked.has 'l' then
    complain ("EOF on ".toList ++ name ++ s!" after byte {shorter.length}".toList)
  else
    let isWhole := shorter.getLast? = some '\n'
    let lines := (shorter.filter (· = '\n')).length
    complain ("EOF on ".toList ++ name ++ s!" after byte {shorter.length}, ".toList ++
      (if isWhole then s!"line {lines}" else s!"in line {lines + 1}").toList)

/-- How files are compared line by line, and how the changes are shown. -/
structure DiffStyle where
  /-- How many lines around changes are shown, if any are. -/
  context : Option Nat := none
  /-- Whether it is only told that files differ. -/
  isBrief : Bool := false
  /-- Whether it is told that files are the same. -/
  tellsSame : Bool := false
  /-- Whether directories in directories are compared. -/
  isDeep : Bool := false
  /-- Whether a file that is missing is taken as empty. -/
  addsFiles : Bool := false
  /-- Whether the case of letters counts for nothing. -/
  ignoresCase : Bool := false
  /-- Whether blanks count for nothing. -/
  ignoresBlanks : Bool := false
  /-- Whether the number of blanks counts for nothing. -/
  ignoresBlankCount : Bool := false
  /-- What the files are called. -/
  labels : List ByteText := []
  /-- The options as they were given. -/
  given : List ByteText := []

/-- A line, and whether a line end follows it. -/
abbrev FileLine := ByteText × Bool

/-- The lines of a text. -/
def fileLines (text : ByteText) : List FileLine :=
  match (text.splitOn '\n').reverse with
  | [] => []
  | last :: rest =>
    (rest.reverse.map fun line => (line, true)) ++ if last.isEmpty then [] else [(last, false)]

/-- A text in which each stretch of blanks is one, and none is at the end. -/
def withSingleBlanks (text : ByteText) : ByteText :=
  let isGap (c : Char) : Bool := c = ' ' || (9 ≤ c.toNat && c.toNat ≤ 13)
  let merged := (text.foldl (fun (found : ByteText) c =>
    if isGap c then (if found.head? = some ' ' then found else ' ' :: found) else c :: found) [])
  (merged.dropWhile (· = ' ')).reverse

namespace DiffStyle

/-- What of a line counts in the comparison. -/
def key (style : DiffStyle) (line : FileLine) : FileLine :=
  let isGap (c : Char) : Bool := c = ' ' || (9 ≤ c.toNat && c.toNat ≤ 13)
  let (text, isWhole) := line
  let text := if style.ignoresBlanks then text.filter fun c => !isGap c
    else if style.ignoresBlankCount then withSingleBlanks text else text
  (if style.ignoresCase then text.map Char.toLower else text,
    isWhole || style.ignoresBlanks || style.ignoresBlankCount)

/-- A line as it is shown with a mark in front. -/
def shownLine (mark : ByteText) (line : FileLine) : ByteText :=
  mark ++ line.1 ++ '\n' ::
    if line.2 then [] else "\\ No newline at end of file\n".toList

/-- The places of some lines, as the changes are headed. -/
def plainRange (start count : Nat) : ByteText :=
  if count = 0 then Numeral.digits start
  else if count = 1 then Numeral.digits (start + 1)
  else Numeral.digits (start + 1) ++ ',' :: Numeral.digits (start + count)

/-- A change without the lines around it. -/
def plainChange (left right : Array FileLine) (change : Difference.Change) : ByteText :=
  let letter := if change.leftCount = 0 then 'a' else if change.rightCount = 0 then 'd' else 'c'
  let shown (lines : Array FileLine) (mark : String) (start count : Nat) : ByteText :=
    (lines.extract start (start + count)).toList.flatMap (shownLine mark.toList)
  plainRange change.leftStart change.leftCount ++ letter ::
    plainRange change.rightStart change.rightCount ++ '\n' ::
    shown left "< " change.leftStart change.leftCount ++
    (if letter = 'c' then "---\n".toList else []) ++
    shown right "> " change.rightStart change.rightCount

/-- Changes in groups: those with few lines between them stand together. -/
def grouped (context : Nat) : List Difference.Change → List (List Difference.Change)
  | [] => []
  | change :: rest =>
    match rest, grouped context rest with
    | next :: _, group :: groups =>
      if next.leftStart - (change.leftStart + change.leftCount) ≤ 2 * context then
        (change :: group) :: groups
      else [change] :: group :: groups
    | _, groups => [change] :: groups

/-- The places of some lines, as a group of changes is headed. -/
def groupRange (start count : Nat) : ByteText :=
  if count = 0 then Numeral.digits start ++ ",0".toList
  else if count = 1 then Numeral.digits (start + 1)
  else Numeral.digits (start + 1) ++ ',' :: Numeral.digits count

/-- The lines of a group of changes, from a place in the first row up to another one. -/
def groupLines (left right : Array FileLine) (last : Nat) : (place : Nat) →
    List Difference.Change → ByteText
  | place, [] => (left.extract place last).toList.flatMap (shownLine [' '])
  | place, change :: rest =>
    (left.extract place change.leftStart).toList.flatMap (shownLine [' ']) ++
      (left.extract change.leftStart (change.leftStart + change.leftCount)).toList.flatMap
        (shownLine ['-']) ++
      (right.extract change.rightStart (change.rightStart + change.rightCount)).toList.flatMap
        (shownLine ['+']) ++
      groupLines left right last (change.leftStart + change.leftCount) rest

/-- A group of changes with the lines around it. -/
def groupText (left right : Array FileLine) (context : Nat) (group : List Difference.Change) :
    ByteText :=
  match group, group.getLast? with
  | first :: _, some final =>
    let before := min context first.leftStart
    let leftEnd := final.leftStart + final.leftCount
    let rightEnd := final.rightStart + final.rightCount
    let after := min context (left.size - leftEnd)
    let start := first.leftStart - before
    "@@ -".toList ++ groupRange start (leftEnd + after - start) ++ " +".toList ++
      groupRange (first.rightStart - before) (rightEnd + after - (first.rightStart - before)) ++
      " @@\n".toList ++ groupLines left right (leftEnd + after) start group
  | _, _ => []

/-- The name of a file over its changes, with the time of its last change if it has no label. -/
def title (style : DiffStyle) (index : Nat) (path : ByteText) : ByteText :=
  match style.labels[index]? with
  | some label => label
  | none => path ++ "\t1970-01-01 00:00:00.000000000 +0000".toList

/-- Compares two texts under their names and shows the changes. -/
def texts (style : DiffStyle) (heading first second : ByteText) (left right : ByteText) :
    Work Unit := do
  let leftLines := fileLines left
  let rightLines := fileLines right
  let changes := if left = right then [] else
    Difference.changes style.key (style.context.getD 0) leftLines rightLines
  let name (index : Nat) (path : ByteText) : ByteText := style.labels[index]?.getD path
  if changes.isEmpty then
    if style.tellsSame then
      putLine ("Files ".toList ++ name 0 first ++ " and ".toList ++ name 1 second ++
        " are identical".toList)
  else
    modify fun desk => { desk with status := max desk.status 1 }
    let isBinary := left.contains (Char.ofNat 0) || right.contains (Char.ofNat 0)
    if style.isBrief then
      putLine ("Files ".toList ++ name 0 first ++ " and ".toList ++ name 1 second ++
        " differ".toList)
    else if isBinary then
      put heading
      putLine ("Binary files ".toList ++ name 0 first ++ " and ".toList ++ name 1 second ++
        " differ".toList)
    else
      put heading
      let leftLines := leftLines.toArray
      let rightLines := rightLines.toArray
      match style.context with
      | none => put (changes.flatMap (plainChange leftLines rightLines))
      | some context =>
        putLine ("--- ".toList ++ style.title 0 first)
        putLine ("+++ ".toList ++ style.title 1 second)
        put ((grouped context changes).flatMap (groupText leftLines rightLines context))

/-- The bytes of a file that is compared; none with a complaint if it cannot be read. -/
def content? (style : DiffStyle) (path : ByteText) : Work (Option ByteText) := do
  match ← openOperand path with
  | .ok descriptor =>
    let text ← all path descriptor
    closeOperand descriptor
    return some text
  | .error error =>
    if style.addsFiles && error = .notFound then return some []
    fault 2 (path ++ ": ".toList ++ error.reason.toList)
    return none

/-- Compares two files. -/
def files (style : DiffStyle) (heading first second : ByteText) : Work Unit := do
  let left ← style.content? first
  let right ← style.content? second
  match left, right with
  | some left, some right => style.texts heading first second left right
  | _, _ => return ()

/-- What is said over the changes of files in directories. -/
def heading (style : DiffStyle) (first second : ByteText) : ByteText :=
  [' '].intercalate ("diff".toList :: style.given ++ [first, second]) ++ ['\n']

/-- Compares the files in two directories. -/
def directories (style : DiffStyle) : (depth : Nat) → (first second : ByteText) → Work Unit
  | 0, _, _ => return ()
  | depth + 1, first, second => do
    let files ← call .files
    let namesIn (path : ByteText) : List String :=
      ((files.sortedNames (ByteText.asString path)).toOption).getD []
    let left := namesIn first
    let right := namesIn second
    let all := (left ++ right.filter fun name => !left.contains name).mergeSort
      fun one other => !(other < one)
    all.forM fun name => do
      let leftPath := below first (ByteText.ofString name)
      let rightPath := below second (ByteText.ofString name)
      let only (directory : ByteText) : Work Unit := do
        modify fun desk => { desk with status := max desk.status 1 }
        putLine ("Only in ".toList ++ directory ++ ": ".toList ++ ByteText.ofString name)
      if !right.contains name && !style.addsFiles then only first
      else if !left.contains name && !style.addsFiles then only second
      else
        match ← isDirectoryAt leftPath, ← isDirectoryAt rightPath with
        | true, true =>
          if style.isDeep then style.directories depth leftPath rightPath
          else putLine ("Common subdirectories: ".toList ++ leftPath ++ " and ".toList ++ rightPath)
        | false, false => style.files (style.heading leftPath rightPath) leftPath rightPath
        | isLeft, _ => do
          modify fun desk => { desk with status := max desk.status 1 }
          let kind (isDirectory : Bool) : String :=
            if isDirectory then "directory" else "regular file"
          putLine ("File ".toList ++ leftPath ++ s!" is a {kind isLeft} while file ".toList ++
            rightPath ++ s!" is a {kind (!isLeft)}".toList)

/-- Compares what stands at two paths. -/
def paths (style : DiffStyle) (first second : ByteText) : Work Unit := do
  match ← isDirectoryAt first, ← isDirectoryAt second with
  | true, true => style.directories 100 first second
  | true, false =>
    if second = ['-'] then fail 2 "cannot compare '-' to a directory".toList
    style.files [] (below first (baseOf second)) second
  | false, true =>
    if first = ['-'] then fail 2 "cannot compare '-' to a directory".toList
    style.files [] first (below second (baseOf first))
  | false, false => style.files [] first second

end DiffStyle

/-- The options of the tool that compares files line by line. -/
def diffOptions : OptionTable :=
  OptionTable.of "qsruU:iwbBaNL:" [("brief", .nothing, 'q'), ("report-identical-files", .nothing, 's'),
    ("recursive", .nothing, 'r'), ("unified", .joined, 'u'), ("ignore-case", .nothing, 'i'),
    ("ignore-all-space", .nothing, 'w'), ("ignore-space-change", .nothing, 'b'),
    ("ignore-blank-lines", .nothing, 'B'), ("text", .nothing, 'a'), ("new-file", .nothing, 'N'),
    ("label", .argument, 'L'), ("normal", .nothing, 'o')]

/-- Compares two files line by line. -/
def diff : Main := program fun arguments => do
  let asked ← comparisonAsked diffOptions arguments
  let context := match asked.lastOf ['u', 'U'] with
    | none => none
    | some letter => some (((asked.argument? letter).bind Numeral.value?).getD 3)
  let style : DiffStyle :=
    { context, isBrief := asked.has 'q', tellsSame := asked.has 's', isDeep := asked.has 'r'
      addsFiles := asked.has 'N', ignoresCase := asked.has 'i', ignoresBlanks := asked.has 'w'
      ignoresBlankCount := asked.has 'b'
      labels := asked.options.filterMap fun (letter, word) => if letter = 'L' then some word else none
      given := arguments.filter fun word => word.head? = some '-' && word ≠ ['-'] }
  match asked.operands with
  | [first, second] => style.paths first second
  | [] =>
    complain ("missing operand after '".toList ++ (← get).name ++ ['\''])
    referTo
  | [path] =>
    complain ("missing operand after '".toList ++ path ++ ['\''])
    referTo
  | _ :: _ :: extra :: _ =>
    complain ("extra operand '".toList ++ extra ++ ['\''])
    referTo

end CopyOracle.Tool
