import CopyOracle.Tool.Files
import CopyOracle.Tool.Sed.Script

/-!
# Editing lines by a script

The commands of a script are done for one line after the other. Beside the line there is a text
that is kept. What is printed after a line waits until the script is through with it.
-/
namespace CopyOracle.Tool.Sed

open Host

/-- A line, and whether a line end follows it. -/
structure EditedLine where
  /-- The text. -/
  text : ByteText := []
  /-- Whether a line end follows. -/
  hasEnd : Bool := true

/-- What is printed after a line. -/
inductive Waiting where
  /-- A text. -/
  | text (text : ByteText)
  /-- A file. -/
  | file (path : ByteText)

/-- What an edit was asked for. -/
structure Settings where
  /-- The script. -/
  script : Script
  /-- Whether lines are printed only when a command says so. -/
  isSilent : Bool := false
  /-- Whether each file is edited for itself. -/
  isSeparate : Bool := false
  /-- Whether files are replaced by what is printed, and what the old file is named then. -/
  replaces : Option ByteText := none
  /-- What ends a line. -/
  ending : Char := '\n'
  /-- The width in which lines are listed. -/
  width : Nat := 70

/-- The state of an edit. -/
structure Editing where
  /-- The line. -/
  line : EditedLine := {}
  /-- What is kept. -/
  held : EditedLine := {}
  /-- The number of the line. -/
  number : Nat := 0
  /-- The files to come. -/
  paths : List ByteText
  /-- The file that is read. -/
  source : Option Source := none
  /-- The name of that file. -/
  name : ByteText := ['-']
  /-- The next line, if it was read. -/
  pending : Option EditedLine := none
  /-- The expression that was used last. -/
  lastFinder : Option Regex.Finder := none
  /-- Whether something was replaced since the line was read. -/
  hasReplaced : Bool := false
  /-- For each command with a range whether it is within the range, up to a number of a line. -/
  within : Array (Option (Option Nat))
  /-- What is printed after the line, the last piece first. -/
  waiting : List Waiting := []
  /-- The files that are written, with their descriptors. -/
  outputs : List (ByteText × Nat) := []
  /-- The outputs whose last line lacks its end. -/
  unfinished : List ByteText := []
  /-- The files that are read line by line. -/
  readers : List (ByteText × Source) := []
  /-- What replaces the file that is read, in pieces, the last one first. -/
  pieces : List ByteText := []

/-- A part of an edit. -/
abbrev Edit := StateT Editing Work

/-- What stands for the printed output, which has no path. -/
def mainOutput : ByteText := []

/-- Writes bytes to an output. -/
def writeRaw (settings : Settings) (output text : ByteText) (isMain : Bool) : Edit Unit := do
  if isMain && settings.replaces.isSome then
    modify fun editing => { editing with pieces := text :: editing.pieces }
  else if output = mainOutput || output = "/dev/stdout".toList then put text
  else if output = "/dev/stderr".toList then
    let _ ← call (.write 2 text)
  else match (← get).outputs.lookup output with
  | some descriptor =>
    let _ ← call (.write descriptor text)
  | none => return ()

/-- Writes to an output, after the end of the last line there if it lacks one. -/
def writeTo (settings : Settings) (output text : ByteText) (isMain : Bool := true) : Edit Unit := do
  let editing ← get
  if editing.unfinished.contains output then
    set { editing with unfinished := editing.unfinished.erase output }
    writeRaw settings output (settings.ending :: text) isMain
  else writeRaw settings output text isMain

/-- Writes a line to an output. -/
def writeLine (settings : Settings) (output : ByteText) (line : EditedLine)
    (isMain : Bool := true) : Edit Unit := do
  if line.hasEnd then writeTo settings output (line.text ++ [settings.ending]) isMain
  else
    writeTo settings output line.text isMain
    modify fun editing => { editing with unfinished := output :: editing.unfinished }

/-- Prints the end of the last line if it lacks one. -/
def printMissingEnd (settings : Settings) : Edit Unit := writeTo settings mainOutput []

/-- Prints what waits for the end of the line. -/
def printWaiting (settings : Settings) : Edit Unit := do
  let waiting := (← get).waiting.reverse
  modify fun editing => { editing with waiting := [] }
  for one in waiting do
    match one with
    | .text text => writeTo settings mainOutput text
    | .file path =>
      printMissingEnd settings
      if path = "/dev/stdin".toList then
        writeTo settings mainOutput (← all path 0)
      else match ← call (.openFile path .read) with
      | .error _ => pure ()
      | .ok descriptor =>
        if (← call (.inspect descriptor)) ≠ some .directory then
          writeTo settings mainOutput (← all path descriptor)
        let _ ← call (.close descriptor)

/-- Replaces the file that was read by what was printed. -/
def finishFile (settings : Settings) : Edit Unit := do
  let editing ← get
  if let some source := editing.source then closeOperand source.descriptor
  if let some suffix := settings.replaces then
    if editing.source.isSome then
      let path := editing.name
      unless suffix.isEmpty do
        let kept := if suffix.contains '*' then suffix.flatMap fun c =>
            if c = '*' then baseOf path else [c]
          else baseOf path ++ suffix
        let target := if kept.contains '/' || !path.contains '/' then kept
          else below (directoryOf path) kept
        let _ ← call (.change fun files =>
          files.rename (ByteText.asString path) (ByteText.asString target))
      match ← call (.openFile path .write) with
      | .ok descriptor =>
        let _ ← call (.write descriptor editing.pieces.reverse.flatten)
        let _ ← call (.close descriptor)
      | .error _ => pure ()
  modify fun editing => { editing with source := none, pieces := [] }

/-- Exchanges ends of lines with zero bytes. -/
def exchangeEnds (c : Char) : Char :=
  if c = '\n' then Char.ofNat 0 else if c = Char.ofNat 0 then '\n' else c

/-- Opens the next file that can be opened; says whether there is one. -/
def openNext (settings : Settings) : List ByteText → Edit Bool
  | [] => do
    modify fun editing => { editing with paths := [] }
    return false
  | path :: rest => do
    let isReplaced := settings.replaces.isSome && path ≠ ['-']
    match ← openOperand path with
    | .error error =>
      fault 2 ("can't read ".toList ++ path ++ ": ".toList ++ error.reason.toList)
      openNext settings rest
    | .ok descriptor =>
      if (← call (.inspect descriptor)) = some .directory then
        closeOperand descriptor
        if isReplaced then
          fault 4 ("couldn't edit ".toList ++ path ++ ": not a regular file".toList)
        else fail 4 ("read error on ".toList ++ path ++ ": Is a directory".toList)
        openNext settings rest
      else
        let source : Source ← if settings.ending = '\n' then pure { descriptor } else do
          let text ← all path descriptor
          pure { descriptor, ahead := text.map exchangeEnds, isOver := true }
        modify fun editing =>
          { editing with
            paths := rest, source := some source, name := path
            number := if settings.isSeparate then 0 else editing.number
            within := if settings.isSeparate then editing.within.map fun _ => none
              else editing.within }
        return true

/-- Reads the next line of the file that is open. -/
def readHere (settings : Settings) : Edit (Option EditedLine) := do
  let editing ← get
  match editing.source with
  | none => return none
  | some source =>
    let (found, source) ← nextLine editing.name source
    modify fun editing => { editing with source := some source }
    return found.map fun (text, hasEnd) =>
      ⟨if settings.ending = '\n' then text else text.map exchangeEnds, hasEnd⟩

/-- Reads the next line of all files. -/
def readAny (settings : Settings) : (fuel : Nat) → Edit (Option EditedLine)
  | 0 => return none
  | fuel + 1 => do
    match ← readHere settings with
    | some line => return some line
    | none =>
      finishFile settings
      if ← openNext settings (← get).paths then readAny settings fuel else return none

/-- The next line. -/
def nextInput (settings : Settings) : Edit (Option EditedLine) := do
  let editing ← get
  match editing.pending with
  | some line =>
    set { editing with pending := none }
    return some line
  | none => readAny settings (editing.paths.length + 2)

/-- Whether there is no line after this one. -/
def isLast (settings : Settings) : Edit Bool := do
  let editing ← get
  if editing.pending.isSome then return false
  let next ← if settings.isSeparate then readHere settings
    else readAny settings (editing.paths.length + 2)
  modify fun editing => { editing with pending := next }
  return next.isNone

/-- Whether all input was read. -/
def isOver (settings : Settings) : Edit Bool := do
  if ← isLast settings then
    if settings.isSeparate then
      return (← get).paths.isEmpty
    else return true
  else return false

/-- Takes the next line, added to the one before if that is asked for; says whether there is
one. -/
def advance (settings : Settings) (isAdded : Bool) : Edit Bool := do
  printWaiting settings
  match ← nextInput settings with
  | none => return false
  | some line =>
    modify fun editing =>
      { editing with
        line := if isAdded then ⟨editing.line.text ++ settings.ending :: line.text, line.hasEnd⟩
          else line
        number := editing.number + 1, hasReplaced := false }
    return true

/-- Ends the edit because of a fault that shows only now. -/
def failNow {α : Type} (fault : Fault) : Edit α :=
  fail 1 ("-e expression #1, char 0: ".toList ++ fault.message.toList)

/-- The expression that is meant, where none stands for the last one used. -/
def finderFor (finder : Option Regex.Finder) : Edit Regex.Finder := do
  match finder.or (← get).lastFinder with
  | some finder =>
    modify fun editing => { editing with lastFinder := some finder }
    return finder
  | none => failNow .noPrevious

/-- Whether the line is meant by an address. -/
def isMeant (settings : Settings) (address : Address) : Edit Bool := do
  let editing ← get
  match address with
  | .line number => return number = editing.number
  | .every first step => return first ≤ editing.number && (editing.number - first) % step = 0
  | .last => isLast settings
  | .fits finder =>
    let finder ← finderFor finder
    return (finder.search editing.line.text.toArray).isSome

/-- Whether a command is within its range from now on. -/
def setWithin (index : Nat) (state : Option (Option Nat)) : Edit Unit :=
  modify fun editing => { editing with within := editing.within.set! index state }

/-- Whether a command begins its range with the line; the range ends with it or later. -/
def beginRange (settings : Settings) (index : Nat) (first : Address) (last : RangeEnd) :
    Edit Bool := do
  if !(← isMeant settings first) then return false
  let number := (← get).number
  match last with
  | .address (.line stop) => if number < stop then setWithin index (some (some stop))
  | .after count => if 0 < count then setWithin index (some (some (number + count)))
  | .multiple step =>
    if step ≠ 0 then
      setWithin index (some (some ((number / step + 1) * step)))
  | .address _ => setWithin index (some none)
  return true

/-- Whether a command is done for the line. -/
def isSelected (settings : Settings) (index : Nat) (selector : Selector) : Edit Bool := do
  let isFound ← match selector.first, selector.last with
    | none, _ => pure true
    | some address, none => isMeant settings address
    | some first, some last =>
      match ((← get).within[index]?).join, last with
      | none, last => beginRange settings index first last
      | some (some stop), _ => do
        let number := (← get).number
        if stop ≤ number then setWithin index none
        pure (number ≤ stop)
      | some none, .address address => do
        if ← isMeant settings address then setWithin index none
        pure true
      | some none, _ => pure true
  return isFound != selector.isNegated

/-- How letters are changed at a place of a replacement. -/
structure Casing where
  /-- How all letters are changed. -/
  all : CaseChange := .keep
  /-- How the next letter is changed. -/
  once : CaseChange := .keep

/-- A text with its letters changed. -/
def Casing.apply (casing : Casing) (text : ByteText) : ByteText :=
  let changed := match casing.all with
    | .upper => text.map Char.toUpper
    | .lower => text.map Char.toLower
    | _ => text
  match casing.once, changed with
  | .upperOnce, c :: rest => c.toUpper :: rest
  | .lowerOnce, c :: rest => c.toLower :: rest
  | _, _ => changed

/-- The text that replaces a find. -/
def replacementFor (pieces : List Piece) (text : Array Char) (found : Regex.Found) : ByteText :=
  let (reversed, _) := pieces.foldl (fun ((done, casing) : List ByteText × Casing) piece =>
    let add (piece : ByteText) : List ByteText × Casing :=
      if piece.isEmpty then (done, casing)
      else (casing.apply piece :: done, { casing with once := .keep })
    match piece with
    | .text piece => add piece
    | .group number =>
      match found.group? number with
      | some (start, stop) => add (text.extract start stop).toList
      | none => (done, casing)
    | .change .upperOnce => (done, { casing with once := .upperOnce })
    | .change .lowerOnce => (done, { casing with once := .lowerOnce })
    | .change change => (done, ⟨change, .keep⟩)) ([], {})
  reversed.reverse.flatten

/-- The text after a substitution from a place on, after some finds, in pieces with the last one
first; none if nothing is replaced. An empty find right after another find does not count. -/
def substituted (substitution : Substitution) (finder : Regex.Finder) (text : Array Char) :
    (fuel : Nat) → (start : Nat) → (stopped : Option Nat) → (count : Nat) →
    (pieces : List ByteText) → (isReplaced : Bool) → Option (List ByteText)
  | 0, _, _, _, pieces, isReplaced => if isReplaced then some pieces else none
  | fuel + 1, start, stopped, count, pieces, isReplaced =>
    let finish (_ : Unit) : Option (List ByteText) :=
      if isReplaced then some ((text.extract start text.size).toList :: pieces) else none
    if text.size < start then finish ()
    else match finder.search text start with
    | none => finish ()
    | some found =>
      let before := (text.extract start found.start).toList
      let next := (text.extract found.stop (found.stop + 1)).toList
      if found.stop = found.start && stopped = some found.start then
        substituted substitution finder text fuel (found.stop + 1) none count
          (next :: before :: pieces) isReplaced
      else
        let isEmpty := found.stop = found.start
        let count := count + 1
        let (later, end_) := if isEmpty then (next, found.stop + 1) else ([], found.stop)
        let stopped := if isEmpty then none else some found.stop
        if count < substitution.number then
          let same := (text.extract found.start found.stop).toList
          substituted substitution finder text fuel end_ stopped count
            (later :: same :: before :: pieces) isReplaced
        else
          let replaced := replacementFor substitution.replacement text found
          if substitution.isGlobal then
            substituted substitution finder text fuel end_ stopped count
              (later :: replaced :: before :: pieces) true
          else
            some ((text.extract found.stop text.size).toList :: replaced :: before :: pieces)

/-- Does a substitution. -/
def substitute (settings : Settings) (substitution : Substitution) : Edit Unit := do
  let finder ← finderFor substitution.finder
  let groups := groupsIn substitution.replacement
  if finder.groups < groups then failNow (.noGroup groups)
  let line := (← get).line
  let text := line.text.toArray
  match substituted substitution finder text (2 * text.size + 3) 0 none 0 [] false with
  | none => return ()
  | some pieces =>
    let line := { line with text := pieces.reverse.flatten }
    modify fun editing => { editing with line, hasReplaced := true }
    if substitution.prints then writeLine settings mainOutput line
    if let some path := substitution.file then writeLine settings path line false

/-- A character with its shape made visible. -/
def visible (c : Char) : ByteText :=
  match c with
  | '\\' => ['\\', '\\']
  | '\n' => ['\\', 'n']
  | '\t' => ['\\', 't']
  | '\r' => ['\\', 'r']
  | c =>
    if c.toNat = 7 then ['\\', 'a'] else if c.toNat = 8 then ['\\', 'b']
    else if c.toNat = 12 then ['\\', 'f'] else if c.toNat = 11 then ['\\', 'v']
    else if 32 ≤ c.toNat && c.toNat ≤ 126 then [c]
    else
      let digits := Nat.toDigits 8 c.toNat
      '\\' :: List.replicate (3 - digits.length) '0' ++ digits

/-- A line with all characters visible, broken at a width. -/
def listed (width : Nat) (text : ByteText) : ByteText :=
  let (pieces, _) := text.foldl (fun (pieces, column) c =>
    let shown := visible c
    if 0 < width && width - 1 < column + shown.length then
      (shown :: ['\\', '\n'] :: pieces, shown.length)
    else (shown :: pieces, column + shown.length)) (([] : List ByteText), 0)
  pieces.reverse.flatten ++ ['$', '\n']

/-- Reads the next line of a file that is read line by line. -/
def readLineOf (path : ByteText) : Edit Unit := do
  let source? ← match (← get).readers.lookup path with
    | some source => pure (some source)
    | none =>
      if path = "/dev/stdin".toList then pure (some ({ descriptor := 0 } : Source))
      else match ← call (.openFile path .read) with
      | .ok descriptor => pure (some { descriptor })
      | .error _ => pure none
  if let some source := source? then
    let (found, source) ← nextLine path source
    modify fun editing =>
      { editing with readers := (path, source) :: editing.readers.filter fun (other, _) =>
          other ≠ path }
    if let some (text, _) := found then
      modify fun editing => { editing with waiting := .text (text ++ ['\n']) :: editing.waiting }

/-- How the script goes on. -/
inductive Outcome where
  /-- At another command. -/
  | goTo (index : Nat)
  /-- With the next line, after this one was printed. -/
  | finish
  /-- With the next line. -/
  | drop
  /-- At the beginning, with what is left of the line. -/
  | again
  /-- Not at all: the line is printed, and there is none after it. -/
  | stop
  /-- Not at all: the work ends with a status. -/
  | quit (status : Nat) (prints : Bool)

/-- The first part of a text, up to its first line end, and what follows that. -/
def firstPart (text : ByteText) : ByteText × Option ByteText :=
  let front := text.takeWhile (· ≠ '\n')
  match text.drop front.length with
  | _ :: rest => (front, some rest)
  | [] => (front, none)

/-- Goes on at a label. -/
def jump (settings : Settings) (label : ByteText) : Outcome :=
  if label.isEmpty then .finish
  else .goTo ((settings.script.labels.lookup label).getD settings.script.commands.size)

/-- Changes the line. -/
def changeLine (change : EditedLine → EditedLine) : Edit Unit :=
  modify fun editing => { editing with line := change editing.line }

/-- Does what a command does. -/
def act (settings : Settings) (index : Nat) (command : Command) : Edit Outcome := do
  let next := Outcome.goTo (index + 1)
  let editing ← get
  let line := editing.line
  match command.action with
  | .block _ | .nothing => return next
  | .print =>
    writeLine settings mainOutput line
    return next
  | .printFirst =>
    let (first, rest) := firstPart line.text
    writeLine settings mainOutput ⟨first, rest.isSome || line.hasEnd⟩
    return next
  | .delete => return .drop
  | .deleteFirst =>
    match firstPart line.text with
    | (_, some rest) =>
      changeLine fun line => { line with text := rest }
      return .again
    | (_, none) => return .drop
  | .next =>
    if ← isOver settings then return .stop
    unless settings.isSilent do writeLine settings mainOutput line
    if ← advance settings false then return next else return .stop
  | .addNext =>
    if ← isOver settings then return .stop
    if ← advance settings true then return next else return .stop
  | .hold =>
    set { editing with held := line }
    return next
  | .holdMore =>
    set { editing with
      held := ⟨editing.held.text ++ settings.ending :: line.text, line.hasEnd⟩ }
    return next
  | .recall =>
    set { editing with line := editing.held }
    return next
  | .recallMore =>
    changeLine fun line =>
      ⟨line.text ++ settings.ending :: editing.held.text, editing.held.hasEnd⟩
    return next
  | .exchange =>
    set { editing with line := editing.held, held := line }
    return next
  | .clear =>
    changeLine fun line => { line with text := [] }
    return next
  | .quit status prints => return .quit status prints
  | .append text =>
    unless text.isEmpty do set { editing with waiting := .text text :: editing.waiting }
    return next
  | .insert text =>
    writeTo settings mainOutput text
    return next
  | .change text =>
    let isWithin := command.selector.last.isSome && (editing.within[index]?).join.isSome
    unless isWithin && !command.selector.isNegated do writeTo settings mainOutput text
    return .drop
  | .number =>
    writeTo settings mainOutput (Numeral.digits editing.number ++ ['\n'])
    return next
  | .fileName =>
    writeTo settings mainOutput (editing.name ++ ['\n'])
    return next
  | .list width =>
    writeTo settings mainOutput (listed (width.getD settings.width) line.text)
    return next
  | .readFile path =>
    set { editing with waiting := .file path :: editing.waiting }
    return next
  | .readLine path =>
    readLineOf path
    return next
  | .writeFile path isFirst =>
    if isFirst then writeLine settings path ⟨(firstPart line.text).1, true⟩ false
    else writeLine settings path line false
    return next
  | .substitute substitution =>
    substitute settings substitution
    return next
  | .exchangeLetters pairs =>
    changeLine fun line =>
      { line with text := line.text.map fun c => (pairs.reverse.lookup c).getD c }
    return next
  | .branch label => return jump settings label
  | .branchIf label =>
    if editing.hasReplaced then
      set { editing with hasReplaced := false }
      return jump settings label
    else return next
  | .branchUnless label =>
    if editing.hasReplaced then
      set { editing with hasReplaced := false }
      return next
    else return jump settings label

/-- Does the commands of the script from one on. -/
def perform (settings : Settings) : (fuel : Nat) → (index : Nat) → Edit Outcome
  | 0, _ => return .quit 0 false
  | fuel + 1, index => do
    match settings.script.commands[index]? with
    | none => return .finish
    | some command =>
      if index % 64 = 0 then call .work
      if ← isSelected settings index command.selector then
        match ← act settings index command with
        | .goTo next => perform settings fuel next
        | other => return other
      else
        match command.action with
        | .block stop => perform settings fuel stop
        | _ => perform settings fuel (index + 1)

/-- Gives back what was read of the input and not used. -/
def giveBackInput : Edit Unit := do
  let editing ← get
  match editing.source with
  | some source =>
    if source.descriptor = 0 then
      let pending := match editing.pending with
        | some line => line.text.length + if line.hasEnd then 1 else 0
        | none => 0
      call (.giveBack 0 (source.ahead.length + pending))
  | none => return ()

/-- Edits one line after the other; the first one may be what is left of the line before. -/
def edit (settings : Settings) : (fuel : Nat) → (hasLine : Bool) → Edit Nat
  | 0, _ => return 0
  | fuel + 1, hasLine => do
    let isThere ← if hasLine then pure true else advance settings false
    if !isThere then
      finishFile settings
      return 0
    match ← perform settings limit 0 with
    | .finish | .goTo _ =>
      unless settings.isSilent do writeLine settings mainOutput (← get).line
      edit settings fuel false
    | .drop => edit settings fuel false
    | .again =>
      printWaiting settings
      edit settings fuel true
    | .stop =>
      unless settings.isSilent do writeLine settings mainOutput (← get).line
      printWaiting settings
      finishFile settings
      return 0
    | .quit status prints =>
      if prints then
        unless settings.isSilent do writeLine settings mainOutput (← get).line
      if prints then printMissingEnd settings
      printWaiting settings
      giveBackInput
      finishFile settings
      return status

end CopyOracle.Tool.Sed
