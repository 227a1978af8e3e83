import CopyOracle.Tool.Options

/-!
# Columns

Parts of lines are cut out, the lines of several files are put side by side, long lines are broken,
and tabs are turned into blanks.
-/
namespace CopyOracle.Tool

open Host

namespace Columns

/-- Places from one to another, or to the end. -/
structure Span where
  /-- The first place. -/
  first : Nat
  /-- The last place. -/
  last : Option Nat

/-- Whether a place is in one of some spans. -/
def holds (spans : List Span) (place : Nat) : Bool :=
  spans.any fun span => span.first ≤ place && span.last.all (place ≤ ·)

/-- What places are counted in. -/
inductive Unit where
  /-- Bytes. -/
  | bytes
  /-- Characters. -/
  | characters
  /-- Fields. -/
  | fields
deriving DecidableEq, Repr

/-- Why a list of places cannot be read. -/
inductive Fault where
  /-- A place is zero. -/
  | zero
  /-- A span has neither a first nor a last place. -/
  | endless
  /-- A span goes down. -/
  | decreasing
  /-- A place is no number. -/
  | invalid (word : ByteText)
  /-- A span has more than two ends. -/
  | invalidRange
deriving DecidableEq, Repr

/-- What is wrong with a list of places. -/
def Fault.message (unit : Unit) : Fault → ByteText
  | .zero => (if unit = .fields then "fields are numbered from 1"
      else "byte/character positions are numbered from 1").toList
  | .endless => "invalid range with no endpoint: -".toList
  | .decreasing => "invalid decreasing range".toList
  | .invalid word => (if unit = .fields then "invalid field value "
      else "invalid byte/character position ").toList ++ quoted word
  | .invalidRange => (if unit = .fields then "invalid field range"
      else "invalid byte or character range").toList

/-- A place. -/
def placeOf (word : ByteText) : Except Fault Nat :=
  match Numeral.value? word with
  | some 0 => .error .zero
  | some place => .ok place
  | none => .error (.invalid (word.dropWhile Char.isDigit))

/-- A span. -/
def Span.read (word : ByteText) : Except Fault Span := do
  match word.splitOn '-' with
  | [[]] => throw .zero
  | [only] =>
    let place ← placeOf only
    return ⟨place, some place⟩
  | [[], []] => throw .endless
  | [[], last] => return ⟨1, some (← placeOf last)⟩
  | [first, []] => return ⟨← placeOf first, none⟩
  | [first, last] =>
    let first ← placeOf first
    let last ← placeOf last
    if last < first then throw .decreasing
    return ⟨first, some last⟩
  | _ => throw .invalidRange

/-- A list of places. -/
def readSpans (word : ByteText) : Except Fault (List Span) :=
  (word.splitOnP fun c => c = ',' || c = ' ').mapM Span.read

/-- The items at the places of some spans. -/
def chosen {α : Type} (spans : List Span) (isOthers : Bool) (items : List α) : List α :=
  ((items.zipIdx 1).filter fun (_, place) => holds spans place != isOthers).map Prod.fst

/-- The runs of chosen items that stand side by side, parted by something. -/
def chosenApart (spans : List Span) (isOthers : Bool) (between line : ByteText) : ByteText :=
  let kept := (line.zipIdx 1).filter fun (_, place) => holds spans place != isOthers
  (kept.zipIdx).flatMap fun ((c, place), index) =>
    let startsRun := index ≠ 0 && match kept[index - 1]? with
      | some (_, before) => before + 1 ≠ place ||
        (!isOthers && spans.any fun span => span.first = place && !holds (spans.filter fun other =>
          other.first ≠ place) place)
      | none => false
    if startsRun then between ++ [c] else [c]

/-- The characters that a list of separators stands for, where none stands for no separator. -/
def separatorsOf : (fuel : Nat) → ByteText → List (Option Char)
  | 0, _ | _, [] => []
  | fuel + 1, '\\' :: c :: rest =>
    let found := match c with
      | '0' => none
      | 'n' => some '\n'
      | 't' => some '\t'
      | 'b' => some (Char.ofNat 8)
      | 'f' => some (Char.ofNat 12)
      | 'r' => some '\r'
      | 'v' => some (Char.ofNat 11)
      | c => some c
    found :: separatorsOf fuel rest
  | fuel + 1, c :: rest => some c :: separatorsOf fuel rest

/-- Texts with separators between them, one after the other and again from the first one. -/
def joined (separators : Array (Option Char)) : (index : Nat) → List ByteText → ByteText
  | _, [] => []
  | _, [last] => last
  | index, first :: rest =>
    first ++ (separators[index % separators.size]?.bind id).toList ++
      joined separators (index + 1) rest

/-- The rows of several columns, as long as one of them goes on. -/
def rowsOf : (fuel : Nat) → List (List ByteText) → List (List ByteText)
  | 0, _ => []
  | fuel + 1, columns =>
    if columns.all List.isEmpty then []
    else columns.map (fun column => column.headD []) :: rowsOf fuel (columns.map List.tail)

/-- Where a line goes on after a character at some column. -/
def columnAfter (countsBytes : Bool) (column : Nat) (c : Char) : Nat :=
  if countsBytes then column + 1
  else if c.toNat = 8 then column - 1
  else if c = '\r' then 0
  else if c = '\t' then column + 8 - column % 8
  else column + 1

/-- How many columns a text takes. -/
def widthOf (countsBytes : Bool) (text : ByteText) : Nat :=
  text.foldl (columnAfter countsBytes) 0

/-- A line broken into pieces of at most some width, at blanks if that is asked for. The piece so
far comes with its last character first. -/
def broken (countsBytes atBlanks : Bool) (width : Nat) : (fuel : Nat) → (column : Nat) →
    (reversed : ByteText) → ByteText → ByteText
  | 0, _, reversed, rest => reversed.reverse ++ rest
  | _, _, reversed, [] => reversed.reverse
  | fuel + 1, column, reversed, c :: rest =>
    let next := columnAfter countsBytes column c
    if next ≤ width || reversed.isEmpty then
      broken countsBytes atBlanks width fuel next (c :: reversed) rest
    else
      let word := reversed.takeWhile fun c => c ≠ ' ' && c ≠ '\t'
      if atBlanks && word.length < reversed.length then
        (reversed.drop word.length).reverse ++ '\n' ::
          broken countsBytes atBlanks width fuel (widthOf countsBytes word.reverse) word (c :: rest)
      else
        reversed.reverse ++ '\n' ::
          broken countsBytes atBlanks width fuel 0 [] (c :: rest)

/-- The next stop for tabs after a column. -/
def stopAfter (stops : List Nat) (column : Nat) : Nat :=
  match stops with
  | [every] => column + every - column % every
  | stops => (stops.find? (column < ·)).getD (column + 1)

/-- A line with its tabs turned into blanks. -/
def expanded (stops : List Nat) (onlyFirst : Bool) : (column : Nat) → (isInFront : Bool) →
    ByteText → ByteText
  | _, _, [] => []
  | column, isInFront, c :: rest =>
    if c = '\t' && (isInFront || !onlyFirst) then
      let next := stopAfter stops column
      List.replicate (next - column) ' ' ++ expanded stops onlyFirst next isInFront rest
    else
      let next := if c.toNat = 8 then column - 1 else column + 1
      c :: expanded stops onlyFirst next (isInFront && (c = ' ' || c = '\t')) rest

/-- A line with its runs of blanks turned into tabs. The blanks before the rest are counted, and
the column at which they begin. -/
def unexpanded (every : Nat) (onlyFirst : Bool) : (column blanks : Nat) → (isInFront : Bool) →
    ByteText → ByteText
  | _, blanks, _, [] => List.replicate blanks ' '
  | column, blanks, isInFront, c :: rest =>
    let next := column + 1
    if (c = ' ') && (isInFront || !onlyFirst) then
      if next % every = 0 then
        (if blanks = 0 && !(isInFront || rest.head? = some ' ' || rest.head? = some '\t') then [' ']
          else ['\t']) ++ unexpanded every onlyFirst next 0 isInFront rest
      else unexpanded every onlyFirst next (blanks + 1) isInFront rest
    else if c = '\t' && (isInFront || !onlyFirst) then
      '\t' :: unexpanded every onlyFirst (column + every - column % every) 0 isInFront rest
    else List.replicate blanks ' ' ++ c :: unexpanded every onlyFirst next 0 false rest

/-- The stops for tabs that a word lists. -/
def stopsOf (word : ByteText) : Work (List Nat) := do
  (word.splitOnP fun c => c = ',' || c = ' ').mapM fun part => do
    match Numeral.value? part with
    | some 0 => fail 1 "tab size cannot be 0".toList
    | some value => return value
    | none =>
      fail 1 ("tab size contains invalid character(s): ".toList ++
        quoted (part.dropWhile Char.isDigit))

end Columns

open Columns

/-- Prints parts of lines. -/
def cut : Main := program fun arguments => do
  let asked ← askedFor (.of "b:c:d:f:nsz" [("bytes", .argument, 'b'),
    ("characters", .argument, 'c'), ("fields", .argument, 'f'), ("delimiter", .argument, 'd'),
    ("only-delimited", .nothing, 's'), ("complement", .nothing, 'C'),
    ("output-delimiter", .argument, 'o'), ("zero-terminated", .nothing, 'z')]) arguments
  let lists := asked.options.filter fun (letter, _) => letter ∈ ['b', 'c', 'f']
  if 1 < lists.length then misuse 1 "only one list may be specified".toList
  let separator ← match asked.argument? 'd' with
    | none => pure '\t'
    | some [] => pure (Char.ofNat 0)
    | some [c] => pure c
    | some _ => misuse 1 "the delimiter must be a single character".toList
  match lists with
  | [] => misuse 1 "you must specify a list of bytes, characters, or fields".toList
  | (letter, word) :: _ =>
    let unit : Columns.Unit := if letter = 'f' then .fields else if letter = 'b' then .bytes
      else .characters
    if unit ≠ .fields then
      if (asked.argument? 'd').isSome then
        misuse 1 "an input delimiter may be specified only when operating on fields".toList
      if asked.has 's' then
        misuse 1 ("suppressing non-delimited lines makes sense\n\t".toList ++
          "only when operating on fields".toList)
    let spans ← match readSpans word with
      | .ok spans => pure spans
      | .error fault => misuse 1 (fault.message unit)
    let isOthers := asked.has 'C'
    let ending := if asked.has 'z' then Char.ofNat 0 else '\n'
    let between := asked.argument? 'o'
    let lineOf (line : ByteText) : Option ByteText :=
      if unit = .fields then
        match line.splitOn separator with
        | [only] => if asked.has 's' then none else some only
        | fields => some ((between.getD [separator]).intercalate (chosen spans isOthers fields))
      else match between with
        | none => some (chosen spans isOthers line)
        | some between => some (chosenApart spans isOthers between line)
    forOperands asked.operands refusedPlainly fun path descriptor => do
      let text ← all (operandName path) descriptor
      let lines := match (text.splitOn ending).reverse with
        | [] :: rest => rest.reverse
        | lines => lines.reverse
      for line in lines do
        if let some line := lineOf line then put (line ++ [ending])

/-- Prints the lines of files side by side. -/
def paste : Main := program fun arguments => do
  let asked ← askedFor (.of "d:sz" [("delimiters", .argument, 'd'), ("serial", .nothing, 's'),
    ("zero-terminated", .nothing, 'z')]) arguments
  let word := (asked.argument? 'd').getD ['\t']
  let separators := if word.isEmpty then #[none] else (separatorsOf (word.length + 1) word).toArray
  let paths := if asked.operands.isEmpty then [['-']] else asked.operands
  let isFromInput (path : ByteText) : Bool := path = ['-']
  let count := (paths.filter isFromInput).length
  let input ← if count = 0 then pure [] else do pure (linesOf (← all ['-'] 0))
  let columns ← paths.zipIdx.mapM fun (path, index) => do
    if isFromInput path then
      if asked.has 's' then
        return some (if (paths.take index).any isFromInput then [] else input)
      let before := ((paths.take index).filter isFromInput).length
      return some ((input.zipIdx.filter fun (_, place) => place % count = before).map Prod.fst)
    match ← openOperand path with
    | .ok descriptor =>
      let text ← all (operandName path) descriptor
      closeOperand descriptor
      return some (linesOf text)
    | .error error =>
      refusedPlainly path error
      unless asked.has 's' do leave 1
      return none
  let columns := columns.filterMap id
  let rows := if asked.has 's' then columns
    else rowsOf (columns.foldl (fun size column => max size column.length) 0 + 1) columns
  for row in rows do putLine (joined separators 0 row)

/-- Breaks long lines. -/
def fold : Main := program fun arguments => do
  let plain := match arguments with
    | ('-' :: c :: digits) :: rest =>
      if c.isDigit then ('-' :: 'w' :: c :: digits) :: rest else arguments
    | _ => arguments
  let asked ← askedFor (.of "bsw:" [("bytes", .nothing, 'b'), ("spaces", .nothing, 's'),
    ("width", .argument, 'w')]) plain
  let width ← match asked.argument? 'w' with
    | none => pure 80
    | some word =>
      match Numeral.value? word with
      | none => fail 1 ("invalid number of columns: ".toList ++ quoted word)
      | some 0 =>
        fail 1 ("invalid number of columns: ".toList ++ quoted word ++
          ": Numerical result out of range".toList)
      | some width => pure width
  forOperands asked.operands refusedPlainly fun path descriptor => do
    let text ← all (operandName path) descriptor
    let lines := (text.splitOn '\n').map fun line =>
      broken (asked.has 'b') (asked.has 's') width (2 * line.length + 2) 0 [] line
    put (['\n'].intercalate lines)

/-- Turns tabs into blanks. -/
def expand : Main := program fun arguments => do
  let asked ← askedFor (.of "it:" [("initial", .nothing, 'i'), ("tabs", .argument, 't')]) arguments
  let stops ← match asked.argument? 't' with
    | none => pure [8]
    | some word => stopsOf word
  forOperands asked.operands refusedPlainly fun path descriptor => do
    let text ← all (operandName path) descriptor
    put (['\n'].intercalate ((text.splitOn '\n').map (expanded stops (asked.has 'i') 0 true)))

/-- Turns blanks into tabs. -/
def unexpand : Main := program fun arguments => do
  let asked ← askedFor (.of "at:" [("all", .nothing, 'a'), ("tabs", .argument, 't'),
    ("first-only", .nothing, 'f')]) arguments
  let stops ← match asked.argument? 't' with
    | none => pure [8]
    | some word => stopsOf word
  let onlyFirst := asked.has 'f' || !(asked.has 'a' || asked.has 't')
  forOperands asked.operands refusedPlainly fun path descriptor => do
    let text ← all (operandName path) descriptor
    put (['\n'].intercalate ((text.splitOn '\n').map
      (unexpanded (stops.headD 8) onlyFirst 0 0 true)))

end CopyOracle.Tool
