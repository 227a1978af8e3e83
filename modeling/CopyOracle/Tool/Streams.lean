import CopyOracle.Tool.Options

/-!
# Tools that pass their input on

Tools that print their input as a whole, its front or its end, in another order, or into files as
well.
-/
namespace CopyOracle.Tool

open Host

/-- Passes the bytes of a descriptor on, as they come. -/
def pass (name : ByteText) (descriptor : Nat) : (fuel : Nat) → Work Unit
  | 0 => return ()
  | fuel + 1 => do
    match ← more name descriptor with
    | [] => return ()
    | text =>
      match ← call (.write 1 text) with
      | .ok _ => pass name descriptor fuel
      | .error error => fail 1 ("write error: ".toList ++ error.reason.toList)

/-- How a line is shown. -/
structure Showing where
  /-- Whether lines are numbered. -/
  numbers : Bool := false
  /-- Whether lines that are not blank are numbered. -/
  numbersFull : Bool := false
  /-- Whether blank lines after a blank line are left out. -/
  squeezes : Bool := false
  /-- Whether ends of lines are shown. -/
  showsEnds : Bool := false
  /-- Whether tabs are shown. -/
  showsTabs : Bool := false
  /-- Whether characters without a shape are shown. -/
  showsHidden : Bool := false

namespace Showing

/-- A character that has no shape, shown with signs that have one. -/
def hidden (code : Nat) : ByteText :=
  if code < 32 then ['^', Char.ofNat (code + 64)]
  else if code < 127 then [Char.ofNat code]
  else if code = 127 then ['^', '?']
  else 'M' :: '-' :: (if code < 160 then ['^', Char.ofNat (code - 64)]
    else if code < 255 then [Char.ofNat (code - 128)] else ['^', '?'])

/-- A character of a line as it is shown. -/
def glyph (showing : Showing) (c : Char) : ByteText :=
  if c = '\t' then if showing.showsTabs then ['^', 'I'] else [c]
  else if showing.showsHidden then hidden c.toNat else [c]

/-- A line as it is shown, with its number. -/
def line (showing : Showing) (number : Option Nat) (text : ByteText) (isWhole : Bool) :
    ByteText :=
  let shown := if showing.showsTabs || showing.showsHidden then text.flatMap showing.glyph
    else text
  let start := match number with
    | some number =>
      let digits := Numeral.digits number
      List.replicate (6 - digits.length) ' ' ++ digits ++ ['\t']
    | none => []
  start ++ shown ++
    if isWhole then if showing.showsEnds then ['$', '\n'] else ['\n'] else []

end Showing

/-- Shows the lines of a stream, after so many numbered ones, and after a blank one or not. -/
def showLines (showing : Showing) (name : ByteText) : (fuel : Nat) → Source → (count : Nat) →
    (wasBlank : Bool) → Work (Nat × Bool)
  | 0, _, count, wasBlank => return (count, wasBlank)
  | fuel + 1, source, count, wasBlank => do
    match ← nextLine name source with
    | (none, _) => return (count, wasBlank)
    | (some (text, isWhole), source) =>
      let isBlank := text.isEmpty && isWhole
      if showing.squeezes && isBlank && wasBlank then
        showLines showing name fuel source count true
      else
        let isNumbered := showing.numbers || (showing.numbersFull && !isBlank)
        let count := if isNumbered then count + 1 else count
        put (showing.line (if isNumbered then some count else none) text isWhole)
        showLines showing name fuel source count isBlank

/-- Prints files one after the other. -/
def cat : Main := program fun arguments => do
  let asked ← askedFor (OptionTable.of "benstuvAET" [("number-nonblank", .nothing, 'b'),
    ("number", .nothing, 'n'), ("show-all", .nothing, 'A'), ("show-ends", .nothing, 'E'),
    ("show-nonprinting", .nothing, 'v'), ("show-tabs", .nothing, 'T'),
    ("squeeze-blank", .nothing, 's')]) arguments
  let showing : Showing :=
    { numbers := asked.has 'n' && !asked.has 'b', numbersFull := asked.has 'b'
      squeezes := asked.has 's'
      showsEnds := asked.has 'E' || asked.has 'e' || asked.has 'A'
      showsTabs := asked.has 'T' || asked.has 't' || asked.has 'A'
      showsHidden := asked.has 'v' || asked.has 'e' || asked.has 't' || asked.has 'A' }
  let isPlain := asked.options.all fun (letter, _) => letter = 'u'
  let paths := if asked.operands.isEmpty then [['-']] else asked.operands
  let _ ← paths.foldlM (fun (count, wasBlank) path => do
    match ← openOperand path with
    | .error error =>
      refusedPlainly path error
      return (count, wasBlank)
    | .ok descriptor =>
      let state ← if isPlain then do
          pass (operandName path) descriptor limit
          pure (count, wasBlank)
        else showLines showing (operandName path) limit { descriptor } count wasBlank
      closeOperand descriptor
      return state) (0, false)

/-- The number of a word with a unit of size after it, if it is one. -/
def sized? (word : ByteText) : Option Nat :=
  let digits := word.takeWhile Char.isDigit
  let unit := match String.ofList (word.drop digits.length) with
    | "" => some 1
    | "b" => some 512
    | "kB" => some 1000
    | "k" | "K" | "KiB" => some 1024
    | "MB" => some 1000000
    | "M" | "m" | "MiB" => some 1048576
    | "GB" => some 1000000000
    | "G" | "GiB" => some 1073741824
    | _ => none
  if digits.isEmpty then none
  else unit.map fun unit => Nat.ofDigitChars 10 digits 0 * unit

/-- The line over the content of a file among several. -/
def banner (isFirst : Bool) (path : ByteText) : ByteText :=
  let name := if path = ['-'] then "standard input".toList else path
  (if isFirst then [] else ['\n']) ++ "==> ".toList ++ name ++ " <==\n".toList

/-- An old form of the first argument, digits with letters after them, as options. -/
def modernised (arguments : List ByteText) : List ByteText :=
  match arguments with
  | ('-' :: c :: word) :: rest =>
    if c.isDigit then
      let digits := (c :: word).takeWhile Char.isDigit
      let letters := (c :: word).drop digits.length
      let count := if letters.contains 'c' then '-' :: 'c' :: digits else '-' :: 'n' :: digits
      let others := letters.filter fun c => c ∈ ['q', 'v', 'z', 'f']
      count :: (others.map fun c => ['-', c]) ++ rest
    else arguments
  | _ => arguments

/-- Passes the first lines of a stream on. What was read beyond them is given back. -/
def passLines (name : ByteText) (source : Source) : (fuel count : Nat) → Work Source
  | 0, _ => return source
  | _, 0 => return source
  | fuel + 1, count + 1 => do
    match ← nextLine name source with
    | (none, source) => return source
    | (some (line, isWhole), source) =>
      put (if isWhole then line ++ ['\n'] else line)
      passLines name source fuel count

/-- Passes the first bytes of a descriptor on. -/
def passBytes (name : ByteText) (descriptor : Nat) : (fuel count : Nat) → Work Unit
  | 0, _ | _, 0 => return ()
  | fuel + 1, count => do
    match ← call (.read descriptor (min count readAtOnce)) with
    | .ok [] => return ()
    | .ok text =>
      put text
      passBytes name descriptor fuel (count - text.length)
    | .error error => fault 1 ("error reading ".toList ++ name ++ ": ".toList ++ error.reason.toList)

/-- A text without its last lines. -/
def withoutLastLines (count : Nat) (text : ByteText) : ByteText :=
  let lines := text.splitOn '\n'
  let whole := match lines.reverse with
    | [] :: rest => (rest.reverse.map (· ++ ['\n']))
    | last :: rest => rest.reverse.map (· ++ ['\n']) ++ [last]
    | [] => []
  (whole.take (whole.length - count)).flatten

/-- Prints the fronts of files. -/
def head : Main := program fun arguments => do
  let asked ← askedFor (OptionTable.of "c:n:qvz" [("bytes", .argument, 'c'),
    ("lines", .argument, 'n'), ("quiet", .nothing, 'q'), ("silent", .nothing, 'q'),
    ("verbose", .nothing, 'v'), ("zero-terminated", .nothing, 'z')]) (modernised arguments)
  let counted := (asked.options.filter fun (letter, _) => letter = 'c' || letter = 'n').getLast?
  let (isBytes, word) := match counted with
    | some (letter, word) => (letter == 'c', word)
    | none => (false, "10".toList)
  let isFromEnd := word.head? == some '-'
  let digits := if isFromEnd || word.head? = some '+' then word.tail else word
  let count ← match sized? digits with
    | some count => pure count
    | none => fail 1 ((if isBytes then "invalid number of bytes: " else
        "invalid number of lines: ").toList ++ quoted digits)
  let paths := if asked.operands.isEmpty then [['-']] else asked.operands
  let hasBanners := !asked.has 'q' && (asked.has 'v' || 1 < paths.length)
  let _ ← paths.foldlM (fun isFirst path => do
    match ← openOperand path with
    | .error error =>
      fault 1 ("cannot open ".toList ++ quoted path ++ " for reading: ".toList ++
        error.reason.toList)
      return isFirst
    | .ok descriptor =>
      if hasBanners then put (banner isFirst path)
      let name := quoted path
      if isFromEnd then
        let text ← all ("error reading ".toList ++ name) descriptor
        put (if isBytes then text.take (text.length - count) else withoutLastLines count text)
      else if isBytes then passBytes name descriptor limit count
      else
        let source ← passLines ("error reading ".toList ++ name) { descriptor } limit count
        call (.giveBack descriptor source.ahead.length)
      closeOperand descriptor
      return false) true

/-- The last lines of a text. -/
def lastLines (count : Nat) (text : ByteText) : ByteText :=
  let front := withoutLastLines count text
  text.drop front.length

/-- The text from a line on. -/
def fromLine (number : Nat) (text : ByteText) : ByteText :=
  let rec skip : Nat → ByteText → ByteText
    | 0, text => text
    | count + 1, text =>
      match text.dropWhile (· ≠ '\n') with
      | _ :: rest => skip count rest
      | [] => []
  skip (number - 1) text

/-- Waits for ever. -/
def waitForEver : (fuel : Nat) → Work Unit
  | 0 => return ()
  | fuel + 1 => do
    call (.sleep 1000000000)
    waitForEver fuel

/-- Prints the ends of files. -/
def tail : Main := program fun arguments => do
  let plain := match arguments with
    | ('+' :: c :: word) :: rest =>
      if c.isDigit then ['-', 'n'] :: ('+' :: c :: word) :: rest else arguments
    | _ => modernised arguments
  let asked ← askedFor (OptionTable.of "c:n:fFqvz" [("bytes", .argument, 'c'),
    ("lines", .argument, 'n'), ("follow", .joined, 'f'), ("quiet", .nothing, 'q'),
    ("silent", .nothing, 'q'), ("verbose", .nothing, 'v'),
    ("zero-terminated", .nothing, 'z')]) plain
  let counted := (asked.options.filter fun (letter, _) => letter = 'c' || letter = 'n').getLast?
  let (isBytes, word) := match counted with
    | some (letter, word) => (letter == 'c', word)
    | none => (false, "10".toList)
  let isFromStart := word.head? == some '+'
  let digits := if isFromStart || word.head? = some '-' then word.tail else word
  let count ← match sized? digits with
    | some count => pure count
    | none => fail 1 ((if isBytes then "invalid number of bytes: " else
        "invalid number of lines: ").toList ++ quoted word)
  let paths := if asked.operands.isEmpty then [['-']] else asked.operands
  let hasBanners := !asked.has 'q' && (asked.has 'v' || 1 < paths.length)
  let _ ← paths.foldlM (fun isFirst path => do
    match ← openOperand path with
    | .error error =>
      fault 1 ("cannot open ".toList ++ quoted path ++ " for reading: ".toList ++
        error.reason.toList)
      return isFirst
    | .ok descriptor =>
      if hasBanners then put (banner isFirst path)
      let text ← all ("error reading ".toList ++ quoted path) descriptor
      put (match isBytes, isFromStart with
        | true, true => text.drop (count - 1)
        | true, false => text.drop (text.length - count)
        | false, true => fromLine count text
        | false, false => lastLines count text)
      closeOperand descriptor
      return false) true
  if asked.has 'f' || asked.has 'F' then
    flush
    waitForEver limit

/-- Prints its input and writes it to files as well. -/
def tee : Main := program fun arguments => do
  let asked ← askedFor (OptionTable.of "aip" [("append", .nothing, 'a'),
    ("ignore-interrupts", .nothing, 'i')]) arguments
  let mode : OpenMode := if asked.has 'a' then .append else .write
  let targets ← asked.operands.mapM fun path => do
    match ← call (.openFile path mode) with
    | .ok descriptor => return some descriptor
    | .error error =>
      refusedPlainly path error
      return none
  copyTo (1 :: targets.filterMap fun target => target) limit
where
  /-- Writes the input to descriptors as it comes. -/
  copyTo (targets : List Nat) : (fuel : Nat) → Work Unit
    | 0 => return ()
    | fuel + 1 => do
      match ← more "read error".toList 0 with
      | [] => return ()
      | text =>
        for target in targets do
          match ← call (.write target text) with
          | .ok _ => pure ()
          | .error error => fault 1 ("standard output: ".toList ++ error.reason.toList)
        copyTo targets fuel

/-- Prints the lines of files from the last one to the first. -/
def tac : Main := program fun arguments => do
  let asked ← askedFor (OptionTable.of "brs:") arguments
  forOperands asked.operands (fun path error =>
    fault 1 ("failed to open ".toList ++ quoted path ++ " for reading: ".toList ++
      error.reason.toList)) fun path descriptor => do
    let text ← all (quoted path ++ ": read error".toList) descriptor
    let pieces := text.splitOn '\n'
    let records := match pieces.reverse with
      | last :: rest =>
        (if last.isEmpty then [] else [last]) ++ rest.map (· ++ ['\n'])
      | [] => []
    put records.flatten

/-- Prints lines with their characters reversed. -/
def rev : Main := program fun arguments => do
  let asked ← askedFor (OptionTable.of "") arguments
  forOperands asked.operands (fun path error =>
    fault 1 ("cannot open ".toList ++ path ++ ": ".toList ++ error.reason.toList))
    fun path descriptor => do
      let text ← all path descriptor
      let lines := text.splitOn '\n'
      put (['\n'].intercalate (lines.map List.reverse))

end CopyOracle.Tool
