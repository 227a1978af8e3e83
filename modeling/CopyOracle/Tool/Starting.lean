import CopyOracle.Tool.Children
import CopyOracle.Tool.Words

/-!
# Starting programs in other surroundings

A program can be started with other variables, in another directory, deaf to the end of a session,
in a group of its own, or with a limit to its time. A tool that only prepares the start becomes the
program; one that watches over the program starts it as a child.
-/
namespace CopyOracle.Tool

open Host

/-- The status with which a tool ends that was asked for something it cannot do. -/
def cannotStart : Nat := 125

/-- Becomes another program, or ends with what says that this is not possible. -/
def becomeOr (refused : FileError → Work Unit) (command environment : List ByteText) :
    Work Unit := do
  flush
  let error ← become command environment
  refused error
  modify fun desk => { desk with status := statusOfRefusal error }

/-- Complains that a program cannot be run. -/
def complainOfRun (command : List ByteText) (error : FileError) : Work Unit :=
  complain ("failed to run command ".toList ++ quoted (command.headD []) ++ ": ".toList ++
    error.reason.toList)

/-- Complains about a program under its name. -/
def complainOf (command : List ByteText) (error : FileError) : Work Unit :=
  complain (quoted (command.headD []) ++ ": ".toList ++ error.reason.toList)

/-- The name in front of the value of a variable. -/
def variableName (entry : ByteText) : ByteText := entry.takeWhile (· ≠ '=')

/-- Variables with one more, which takes the place of one of the same name. -/
def withVariable (environment : List ByteText) (entry : ByteText) : List ByteText :=
  if environment.any fun other => variableName other = variableName entry then
    environment.map fun other => if variableName other = variableName entry then entry else other
  else environment ++ [entry]

/-- The words of a text: blanks end them where they are not quoted. The word that is being read is
given, if there is one, and the quote that is open. -/
def splitWords : ByteText → (begun : Option ByteText) → (quote : Option Char) → List ByteText
  | [], begun, _ => begun.toList.map List.reverse
  | c :: rest, begun, quote =>
    let add (c : Char) (quote : Option Char) : List ByteText :=
      splitWords rest (some (c :: begun.getD [])) quote
    match quote with
    | some mark =>
      if c = mark then splitWords rest (some (begun.getD [])) none else add c quote
    | none =>
      if c = '\'' || c = '"' then splitWords rest (some (begun.getD [])) (some c)
      else if c.isWhitespace then begun.toList.map List.reverse ++ splitWords rest none none
      else add c none

/-- The options of the tool that changes variables. -/
def envOptions : OptionTable :=
  OptionTable.of "C:iu:v0S:" [("ignore-environment", .nothing, 'i'), ("null", .nothing, '0'),
    ("unset", .argument, 'u'), ("chdir", .argument, 'C'), ("debug", .nothing, 'v'),
    ("split-string", .argument, 'S'), ("default-signal", .joined, 'd'),
    ("ignore-signal", .joined, 'g'), ("block-signal", .joined, 'b')] true

/-- The arguments after the first one that is to be split was split. -/
def withSplitWords (arguments : List ByteText) : List ByteText :=
  match arguments with
  | ['-', 'S'] :: text :: rest => splitWords text none none ++ rest
  | ('-' :: 'S' :: text) :: rest => splitWords text none none ++ rest
  | _ => arguments

/-- Runs a program with other variables, or prints the variables. -/
def env : Main := program fun arguments => do
  let asked ← askedFor envOptions (withSplitWords arguments) cannotStart
  let (isBare, words) := match asked.operands with
    | ['-'] :: rest => (true, rest)
    | words => (asked.has 'i', words)
  let removed := asked.options.filterMap fun (letter, name) =>
    if letter = 'u' then some name else none
  for name in removed do
    if name.isEmpty || name.contains '=' then
      fail cannotStart ("cannot unset ".toList ++ quoted name ++ ": Invalid argument".toList)
  let standing := (← get).environment
  let start := if isBare then []
    else standing.filter fun entry => !removed.contains (variableName entry)
  let entries := words.takeWhile fun word => word.contains '='
  let environment := entries.foldl withVariable start
  let command := words.drop entries.length
  if command.isEmpty then
    if asked.has 'C' then
      misuse cannotStart "must specify command with --chdir (-C)".toList
    for entry in environment do put (entry ++ [if asked.has '0' then Char.ofNat 0 else '\n'])
  else
    if asked.has '0' then misuse cannotStart "cannot specify --null (-0) with command".toList
    match asked.argument? 'C' with
    | none => pure ()
    | some path =>
      let files ← call .files
      let refuse (error : FileError) : Work Unit :=
        fail cannotStart ("cannot change directory to ".toList ++ quoted path ++ ": ".toList ++
          error.reason.toList)
      match files.entry (ByteText.asString path), files.locate (ByteText.asString path) with
      | .ok .directory, .ok place => call (.enter place)
      | .ok _, _ => refuse .notDirectory
      | .error error, _ => refuse error
    becomeOr (complainOf command) command environment
    if (← get).status = 127 && (command.headD []).any Char.isWhitespace then
      complain "use -[v]S to pass options in shebang lines".toList

/-- Becomes the program that operands name, or complains that there are none. -/
def becomeOperands (asked : Asked) : Work Unit := do
  if asked.operands.isEmpty then misuse cannotStart "missing operand".toList
  becomeOr (complainOfRun asked.operands) asked.operands (← get).environment

/-- Runs a program that goes on when the session ends. -/
def nohup : Main := program fun arguments => do
  let asked ← askedFor (OptionTable.of "" [] true) arguments cannotStart
  call (.dispose 1 .ignored)
  becomeOperands asked

/-- Runs a program whose output is held back in another way. -/
def stdbuf : Main := program fun arguments => do
  let asked ← askedFor (OptionTable.of "i:o:e:" [("input", .argument, 'i'),
    ("output", .argument, 'o'), ("error", .argument, 'e')] true) arguments cannotStart
  if asked.operands.isEmpty then misuse cannotStart "missing operand".toList
  if asked.options.isEmpty then
    misuse cannotStart "you must specify a buffering mode option".toList
  becomeOperands asked

/-- Runs a program in a session of its own. -/
def setsid : Main := program fun arguments => do
  let asked ← askedFor (OptionTable.of "cfw" [("ctty", .nothing, 'c'), ("fork", .nothing, 'f'),
    ("wait", .nothing, 'w')] true) arguments
  if asked.operands.isEmpty then misuse 1 "no command specified".toList
  call .lead
  becomeOr (fun error => complain ("failed to execute ".toList ++ asked.operands.headD [] ++
    ": ".toList ++ error.reason.toList)) asked.operands (← get).environment

/-- The options of the tool that starts a program at another priority, where a number alone says
which. -/
def priorityAsked : (fuel : Nat) → List ByteText → Option ByteText → List ByteText × Option ByteText
  | 0, arguments, found => (arguments, found)
  | fuel + 1, arguments, found =>
    match arguments with
    | ('-' :: first :: digits) :: rest =>
      if first.isDigit || ((first = '-' || first = '+') && (digits.head?.any Char.isDigit)) then
        priorityAsked fuel rest (some (first :: digits))
      else (arguments, found)
    | _ => (arguments, found)

/-- Runs a program at another priority, or prints the priority. -/
def nice : Main := program fun arguments => do
  let (arguments, short) := priorityAsked (arguments.length + 1) arguments none
  let asked ← askedFor (OptionTable.of "n:" [("adjustment", .argument, 'n')] true) arguments
    cannotStart
  let adjustment := (asked.argument? 'n').orElse fun _ => short
  match adjustment with
  | none => pure ()
  | some word =>
    let digits := if word.head?.any (fun c => c = '-' || c = '+') then word.tail else word
    if digits.isEmpty || !digits.all Char.isDigit then
      fail cannotStart ("invalid adjustment ".toList ++ quoted word)
  if asked.operands.isEmpty then
    if adjustment.isSome then
      misuse cannotStart "a command must be given with an adjustment".toList
    putLine ['0']
  else becomeOr (complainOf asked.operands) asked.operands (← get).environment

/-- A limit to the time of a program. -/
structure Watch where
  /-- The program. -/
  process : Nat
  /-- What it is called. -/
  command : ByteText
  /-- The signal that is sent to it. -/
  signal : Nat
  /-- The time after which it is ended by force. -/
  patience : Option Nat := none
  /-- Whether only the program is sent signals, and not what it started. -/
  isAlone : Bool := false
  /-- Whether each signal is told. -/
  tells : Bool := false
  /-- Whether the time was up. -/
  isLate : Bool := false

namespace Watch

/-- Sends a signal to all that is watched. -/
def send (watch : Watch) (signal : Nat) : Work Unit := do
  let _ ← call (.signal watch.process signal)
  unless watch.isAlone do
    if !Signal.isForced signal then call (.dispose signal .ignored)
    let _ ← call (.signal 0 signal)

/-- Passes on a signal that came; that of an alarm stands for the one that was asked for. -/
def passOn (watch : Watch) (caught : Nat) : Work Watch := do
  let isLate := watch.isLate || caught = Signal.alarm
  let signal := if caught = Signal.alarm then watch.signal else caught
  let after : Watch := { watch with isLate }
  let after ← match watch.patience with
    | none => pure after
    | some time =>
      call (.alarm time)
      pure { after with signal := Signal.kill, patience := none }
  if watch.tells then
    complain ("sending signal ".toList ++ ((Signal.name? signal).getD (toString signal)).toList ++
      " to command ".toList ++ quoted watch.command)
  watch.send signal
  unless watch.isAlone || signal = Signal.kill || signal = Signal.continue_ do
    watch.send Signal.continue_
  return after

/-- Passes on the signals that came. -/
def passAll : List Nat → Watch → Work Watch
  | [], watch => return watch
  | signal :: rest, watch => do passAll rest (← watch.passOn signal)

/-- Waits for the end of the program. -/
def follow : (fuel : Nat) → Watch → Work (Watch × Ending)
  | 0, watch => return (watch, .exited 0)
  | fuel + 1, watch => do
    match ← call (.await (some watch.process) true true) with
    | .ended _ ending => return (watch, ending)
    | .childless => return (watch, .exited 127)
    | .running => follow fuel watch
    | .interrupted =>
      let caught ← call .caught
      follow fuel (← passAll caught watch)

end Watch

/-- The options of the tool that limits the time of a program. -/
def timeoutOptions : OptionTable :=
  OptionTable.of "fk:ps:v" [("foreground", .nothing, 'f'), ("kill-after", .argument, 'k'),
    ("preserve-status", .nothing, 'p'), ("signal", .argument, 's'), ("verbose", .nothing, 'v')] true

/-- The time that a word names, or the end of the tool. -/
def intervalOf (word : ByteText) : Work Nat := do
  match interval? word with
  | some time => return time
  | none => misuse cannotStart ("invalid time interval ".toList ++ quoted word)

/-- The signal that a word names, or the end of the tool. -/
def signalNamed (word : ByteText) : Work Nat := do
  match kill.signalOf word with
  | some signal => return signal
  | none => misuse cannotStart (quoted word ++ ": invalid signal".toList)

/-- Runs a program with a limit to its time. -/
def timeout : Main := program fun arguments => do
  let asked ← askedFor timeoutOptions arguments cannotStart
  let patience ← (asked.argument? 'k').mapM intervalOf
  let signal := (← (asked.argument? 's').mapM signalNamed).getD Signal.terminate
  match asked.operands with
  | [] | [_] => referToHelp cannotStart
  | word :: command =>
    let time ← intervalOf word
    unless asked.has 'f' do call .lead
    for number in [Signal.alarm, 2, 3, 1, Signal.terminate, signal] do
      if !Signal.isForced number then call (.dispose number .caught)
    let desk ← get
    let body : Program Nat := do
      let (status, _) ← (do
        becomeOr (complainOfRun command) command desk.environment
        return (← get).status : Work Nat).run desk
      return status
    let process ← start body
    call (.alarm time)
    let (watch, ending) ← Watch.follow limit
      { process, command := command.headD [], signal
        patience := patience.bind fun time => if time = 0 then none else some time
        isAlone := asked.has 'f', tells := asked.has 'v' }
    match ending with
    | .exited status =>
      let status := if watch.isLate && !asked.has 'p' then 124 else status
      modify fun desk => { desk with status }
    | .killed number =>
      if watch.isLate then
        let status := if asked.has 'p' || number = Signal.kill then 128 + number else 124
        modify fun desk => { desk with status }
      else
        if !Signal.isForced number then call (.dispose number .usual)
        let (own, _) ← call .identity
        let _ ← call (.signal own number)

end CopyOracle.Tool
