import CopyOracle.Tool.Children

/-!
# Arguments from the input

The items of the input become arguments of commands: as many as fit, so many items or lines at a
time, or one line at a time in the place of a mark. Quotes and backslashes join what blanks would
separate.
-/
namespace CopyOracle.Tool

open Host

/-- How the input is divided. -/
inductive Division where
  /-- At blanks and line ends, where they are not quoted. -/
  | blanks
  /-- At line ends, where they are not quoted. -/
  | lines
  /-- At a character. -/
  | at (separator : Char)
deriving DecidableEq, Repr

/-- An item, and whether a line ends with it. -/
abbrev Item := ByteText × Bool

/-- Why the input cannot be divided. -/
inductive DivisionFault where
  /-- A quote is not closed. -/
  | openQuote (mark : Char)
  /-- Nothing follows a backslash. -/
  | openBackslash
deriving DecidableEq, Repr

/-- What is wrong with the input. -/
def DivisionFault.message : DivisionFault → ByteText
  | .openQuote mark =>
    ("unmatched " ++ (if mark = '"' then "double" else "single") ++
      " quote; by default quotes are special to xargs unless you use the -0 option").toList
  | .openBackslash => "unterminated quoted string".toList

/-- The items of a text before the first fault. The item that is being read is given, with the
blanks that it may go on with, and the quote that is open. -/
def itemsOf (endsAtBlank : Bool) : ByteText → (begun : Option ByteText) → (quote : Option Char) →
    List Item × Option DivisionFault
  | [], begun, none => (begun.toList.map fun item => (item.reverse, true), none)
  | [], _, some mark => ([], some (.openQuote mark))
  | c :: rest, begun, some mark =>
    if c = mark then itemsOf endsAtBlank rest (some (begun.getD [])) none
    else if c = '\n' then ([], some (.openQuote mark))
    else itemsOf endsAtBlank rest (some (c :: begun.getD [])) (some mark)
  | c :: rest, begun, none =>
    let close (isLineEnd : Bool) : List Item × Option DivisionFault :=
      let (items, fault) := itemsOf endsAtBlank rest none none
      match begun with
      | some item => ((item.reverse, isLineEnd) :: items, fault)
      | none => (items, fault)
    if c = '\n' then close true
    else if c = ' ' || c = '\t' then
      if endsAtBlank then close false
      else match begun with
      | none => itemsOf endsAtBlank rest none none
      | some item => itemsOf endsAtBlank rest (some (c :: item)) none
    else if c = '\'' || c = '"' then itemsOf endsAtBlank rest (some (begun.getD [])) (some c)
    else if c = '\\' then
      match rest with
      | [] => ([], some .openBackslash)
      | d :: rest => itemsOf endsAtBlank rest (some (d :: begun.getD [])) none
    else itemsOf endsAtBlank rest (some (c :: begun.getD [])) none

/-- The items of a text that are separated by a character. -/
def itemsAt (separator : Char) (text : ByteText) : List Item :=
  let parts := text.splitOn separator
  let parts := if parts.getLast? = some [] then parts.dropLast else parts
  parts.map fun part => (part, true)

/-- The items of a text. -/
def Division.items (division : Division) (text : ByteText) : List Item × Option DivisionFault :=
  match division with
  | .blanks => itemsOf true text none none
  | .lines => itemsOf false text none none
  | .at separator => (itemsAt separator text, none)

/-- Which items go into a command. -/
inductive Grouping where
  /-- As many as fit. -/
  | fitting
  /-- So many items at most. -/
  | items (most : Nat)
  /-- Those of so many lines at most. -/
  | lines (most : Nat)
  /-- One, in place of a mark. -/
  | marked (mark : ByteText)
deriving DecidableEq, Repr

/-- A way to make commands of items. -/
structure Composition where
  /-- The first words of a command. -/
  start : List ByteText
  /-- Which items go into a command. -/
  grouping : Grouping := .fitting
  /-- How many bytes a command has at most. -/
  mostBytes : Nat := 131072

/-- A text with another one in place of each mark in it. -/
def substituted (mark item : ByteText) : (fuel : Nat) → ByteText → ByteText
  | 0, text => text
  | _ + 1, [] => []
  | fuel + 1, c :: rest =>
    if !mark.isEmpty && mark.isPrefixOf (c :: rest) then
      item ++ substituted mark item fuel ((c :: rest).drop mark.length)
    else c :: substituted mark item fuel rest

namespace Composition

/-- Whether a command with so many items on so many whole lines takes no more. -/
def isFull (composition : Composition) (count lines : Nat) : Bool :=
  match composition.grouping with
  | .items most => most ≤ count
  | .lines most => most ≤ lines
  | .fitting | .marked _ => false

/-- Divides items into those of one command and those that are left. -/
def share (composition : Composition) : (count lines bytes : Nat) → List Item →
    List ByteText × List Item
  | _, _, _, [] => ([], [])
  | count, lines, bytes, (item, isLineEnd) :: rest =>
    let size := bytes + item.length + 1
    if composition.isFull count lines || (composition.mostBytes < size && 0 < count) then
      ([], (item, isLineEnd) :: rest)
    else
      let (taken, left) := composition.share (count + 1) (if isLineEnd then lines + 1 else lines)
        size rest
      (item :: taken, left)

/-- The commands for items. -/
def commands (composition : Composition) : (fuel : Nat) → List Item → List (List ByteText)
  | 0, _ => []
  | _ + 1, [] => []
  | fuel + 1, (item, isLineEnd) :: rest =>
    match composition.grouping with
    | .marked mark =>
      let replaced (word : ByteText) : ByteText := substituted mark item (word.length + 1) word
      (composition.start.take 1 ++ (composition.start.drop 1).map replaced) ::
        composition.commands fuel rest
    | _ =>
      let bytes := (composition.start.map fun word => word.length + 1).sum
      let (taken, left) := composition.share 0 0 bytes ((item, isLineEnd) :: rest)
      (composition.start ++ taken) :: composition.commands fuel left

/-- The commands for items that something unreadable follows: those that are complete before it. -/
def completeCommands (composition : Composition) (items : List Item) : List (List ByteText) :=
  match composition.grouping with
  | .marked _ => composition.commands (items.length + 1) items
  | _ => (composition.commands (items.length + 2) (items ++ [([], false)])).dropLast

end Composition

/-- A word as it is shown in a command. -/
def shownWord (word : ByteText) : ByteText := quotedIfNeeded word

/-- Runs a command that reads nothing, and gives the status that follows from its end; none if
no other command is to be run. -/
def runCommand (shows : Bool) (words : List ByteText) : Work (Option Nat × Nat) := do
  if shows then
    let _ ← call (.write 2 ([' '].intercalate (words.map shownWord) ++ ['\n']))
  let desk ← get
  let name := words.headD []
  let body : Program Nat := do
    let _ ← Program.ask (.close 0)
    let _ ← Program.ask (.openFile "/dev/null".toList .read)
    let error ← become words desk.environment
    let _ ← Program.ask (.write 2 (desk.name ++ ": ".toList ++ name ++ ": ".toList ++
      error.reason.toList ++ ['\n']))
    return statusOfRefusal error
  match ← runChild body with
  | .exited 0 => return (some 0, 0)
  | .exited 126 => return (none, 126)
  | .exited 127 => return (none, 127)
  | .exited 255 =>
    complain (name ++ ": exited with status 255; aborting".toList)
    return (none, 124)
  | .exited _ => return (some 123, 123)
  | .killed signal =>
    complain (name ++ s!": terminated by signal {signal}".toList)
    return (none, 125)

/-- Runs commands one after the other, up to one after which no other is to be run. -/
def runCommands (shows : Bool) : List (List ByteText) → Work Unit
  | [] => return ()
  | words :: rest => do
    match ← runCommand shows words with
    | (none, status) => modify fun desk => { desk with status }
    | (some status, _) =>
      if status ≠ 0 then modify fun desk => { desk with status }
      runCommands shows rest

/-- The options of the tool that makes commands of its input. -/
def xargsOptions : OptionTable :=
  OptionTable.of "0a:d:E:e::i::I:L:l::n:oP:prs:tx" [("null", .nothing, '0'),
    ("arg-file", .argument, 'a'), ("delimiter", .argument, 'd'), ("eof", .joined, 'e'),
    ("replace", .joined, 'i'), ("max-lines", .joined, 'l'), ("max-args", .argument, 'n'),
    ("max-procs", .argument, 'P'), ("no-run-if-empty", .nothing, 'r'),
    ("max-chars", .argument, 's'), ("verbose", .nothing, 't'), ("exit", .nothing, 'x'),
    ("interactive", .nothing, 'p'), ("open-tty", .nothing, 'o')] true

/-- The number that is given with an option. -/
def countOf (letter : Char) (word : ByteText) (least : Nat) : Work Nat := do
  match Numeral.value? word with
  | some number =>
    if number < least then
      misuse 1 ("value ".toList ++ word ++ " for -".toList ++ [letter] ++
        s!" option should be >= {least}".toList)
    else return number
  | none =>
    misuse 1 ("invalid number \"".toList ++ word ++ "\" for -".toList ++ [letter] ++
      " option".toList)

/-- The character that separates items, as it is written. -/
def separatorOf (word : ByteText) : Work Char := do
  match word with
  | [c] => return c
  | ['\\', 'n'] => return '\n'
  | ['\\', 't'] => return '\t'
  | ['\\', '0'] => return Char.ofNat 0
  | ['\\', '\\'] => return '\\'
  | ['\\', 'r'] => return '\r'
  | ['\\', 'a'] => return Char.ofNat 7
  | ['\\', 'b'] => return Char.ofNat 8
  | ['\\', 'f'] => return Char.ofNat 12
  | ['\\', 'v'] => return Char.ofNat 11
  | _ => fail 1 ("Invalid input delimiter specification ".toList ++ word ++
      ": the delimiter must be either a single character or an escape sequence starting with \\.".toList)

/-- Warns that an option takes the place of another one. -/
def warnOfChange (former later : String) : Work Unit :=
  complain (s!"warning: options --{former} and {later} are mutually exclusive, " ++
    s!"ignoring previous --{former} value").toList

/-- The grouping after one more option: a later one takes the place of one of another kind. -/
def regrouped (grouping : Grouping) (letter : Char) (word : ByteText) : Work Grouping := do
  let next ← match letter with
    | 'n' => pure (Grouping.items (← countOf 'n' word 1))
    | 'L' => pure (.lines (← countOf 'L' word 1))
    | 'l' => pure (.lines (← if word.isEmpty then pure 1 else countOf 'l' word 1))
    | 'I' => pure (.marked word)
    | 'i' => pure (.marked (if word.isEmpty then ['\x7b', '\x7d'] else word))
    | _ => return grouping
  let name := match letter with
    | 'n' => "--max-args/-n"
    | 'L' => "-L"
    | 'l' => "--max-lines/-l"
    | _ => "--replace/-I/-i"
  match grouping, next with
  | .marked _, .items 1 => return grouping
  | .marked _, .items _ | .marked _, .lines _ => warnOfChange "replace" name
  | .items _, .lines _ | .items _, .marked _ => warnOfChange "max-args" name
  | .lines _, .items _ | .lines _, .marked _ => warnOfChange "max-lines" name
  | _, _ => pure ()
  return next

/-- The grouping that options ask for. -/
def groupingOf : List (Char × ByteText) → Grouping → Work Grouping
  | [], grouping => return grouping
  | (letter, word) :: rest, grouping => do groupingOf rest (← regrouped grouping letter word)

/-- How options ask for the input to be divided. -/
def divisionOf (asked : Asked) (grouping : Grouping) : Work Division := do
  match asked.lastOf ['0', 'd'], grouping with
  | some '0', _ => return .at (Char.ofNat 0)
  | some _, _ => return .at (← separatorOf ((asked.argument? 'd').getD []))
  | none, .marked _ => return .lines
  | none, _ => return .blanks

/-- Makes commands of the items of the input and runs them. -/
def xargs : Main := program fun arguments => do
  let asked ← askedFor xargsOptions arguments
  let grouping ← groupingOf asked.options .fitting
  let mostBytes ← (asked.argument? 's').mapM fun word => countOf 's' word 1
  let _ ← (asked.argument? 'P').mapM fun word => countOf 'P' word 0
  let division ← divisionOf asked grouping
  let descriptor ← match asked.argument? 'a' with
    | none => pure 0
    | some path =>
      match ← call (.openFile path .read) with
      | .ok descriptor => pure descriptor
      | .error error =>
        fail 1 ("Cannot open input file ".toList ++ quoted path ++ ": ".toList ++
          error.reason.toList)
  let text ← all "stdin".toList descriptor
  let (items, fault) := division.items text
  let items := match (asked.argument? 'E').orElse fun _ => asked.argument? 'e' with
    | some last => if last.isEmpty then items else items.takeWhile fun (item, _) => item ≠ last
    | none => items
  let start := if asked.operands.isEmpty then ["echo".toList] else asked.operands
  let composition : Composition := { start, grouping, mostBytes := mostBytes.getD 131072 }
  match fault with
  | some fault =>
    runCommands (asked.has 't') (composition.completeCommands items)
    fail 1 fault.message
  | none =>
    let commands := composition.commands (items.length + 1) items
    let isOnce := commands.isEmpty && !asked.has 'r' && division ≠ .lines
    runCommands (asked.has 't') (if isOnce then [start] else commands)

end CopyOracle.Tool
