import CopyOracle.Shell.Condition
import CopyOracle.Shell.Printing
import CopyOracle.Tool.Options

/-!
# Tools that print words

Tools that print their arguments, numbers, parts of paths or what they know of their surroundings,
and tools that only succeed, fail or wait.
-/
namespace CopyOracle.Tool

open Host Shell

/-- Succeeds. -/
def true_ : Main := program fun _ => return ()

/-- Fails. -/
def false_ : Main := program fun _ => modify fun desk => { desk with status := 1 }

/-- The character of digits in base sixteen after a backslash, and what follows them. -/
def hexadecimalEscape? (rest : ByteText) : Option (Char × ByteText) :=
  let digits := (rest.take 2).takeWhile fun c => (Decimals.digitValue? c).isSome
  if digits.isEmpty then none
  else
    let value := digits.foldl (fun value c => value * 16 + (Decimals.digitValue? c).getD 0) 0
    some (Char.ofNat value, rest.drop digits.length)

/-- A text with its backslashes resolved, and whether it asks to print nothing more. -/
def resolveEchoed : (fuel : Nat) → ByteText → ByteText × Bool
  | 0, _ | _, [] => ([], false)
  | fuel + 1, '\\' :: rest =>
    let next (c : Char) (later : ByteText) : ByteText × Bool :=
      let (more, stops) := resolveEchoed fuel later
      (c :: more, stops)
    match rest with
    | 'c' :: _ => ([], true)
    | 'e' :: later => next (Char.ofNat 27) later
    | 'x' :: later =>
      match hexadecimalEscape? later with
      | some (c, later) => next c later
      | none => next '\\' rest
    | '0' :: later =>
      let digits := (later.take 3).takeWhile Escape.isOctal
      next (Escape.ofOctal digits) (later.drop digits.length)
    | _ =>
      let (c, later) := Escape.after rest
      next c later
  | fuel + 1, c :: rest =>
    let (more, stops) := resolveEchoed fuel rest
    (c :: more, stops)

/-- Prints words; backslashes are resolved if that is asked for. -/
def echo : Main := program fun arguments => do
  let isOption (word : ByteText) : Bool :=
    match word with
    | '-' :: letters@(_ :: _) => letters.all fun c => c ∈ ['n', 'e', 'E']
    | _ => false
  let letters := (arguments.takeWhile isOption).flatMap List.tail
  let text := [' '].intercalate (arguments.dropWhile isOption)
  let resolves := (letters.filter fun c => c ≠ 'n').getLast? = some 'e'
  let (text, stops) := if resolves then resolveEchoed (text.length + 1) text else (text, false)
  put text
  unless stops || letters.contains 'n' do put ['\n']

/-- Prints arguments by a format. -/
def printf : Main := program fun arguments => do
  match (if arguments.head? = some "--".toList then arguments.tail else arguments) with
  | [] => missingOperand
  | format :: arguments =>
    let printed := Printing.format format arguments
    put printed.output
    for complaint in printed.complaints.reverse do
      let word := complaint.takeWhile (· ≠ ':')
      let wording := match String.ofList (complaint.drop (word.length + 2)) with
        | "expected numeric value" => "expected a numeric value"
        | "not completely converted" => "value not completely converted"
        | other => other
      fault 1 (if printed.isFailed then complaint
        else quoted word ++ ": ".toList ++ wording.toList)

/-- Prints words again and again. -/
def yes : Main := program fun arguments => do
  let line := (if arguments.isEmpty then ['y'] else [' '].intercalate arguments) ++ ['\n']
  let block := (List.replicate (heldAtMost / line.length + 1) line).flatten
  again limit (put block)
where
  /-- Does something again and again. -/
  again : (fuel : Nat) → Work Unit → Work Unit
    | 0, _ => return ()
    | fuel + 1, work => do
      work
      again fuel work

/-- Answers a condition with a status. -/
def answer (words : List ByteText) : Work Unit := do
  match Condition.evaluate { files := ← call .files } (words.length + 1) words with
  | .ok answer => modify fun desk => { desk with status := if answer then 0 else 1 }
  | .error wording => fail 2 wording

/-- Answers a condition. -/
def test : Main := program answer

/-- Answers a condition in brackets. -/
def bracket : Main := program fun arguments => do
  if arguments.getLast? = some [']'] then answer arguments.dropLast
  else fail 2 "missing ']'".toList

/-- The nanoseconds that a word stands for: a number, with a unit if it is not seconds. -/
def interval? (word : ByteText) : Option Nat := do
  let (value, rest) ← Decimals.atFront? word
  let unit ← match rest with
    | [] | ['s'] => some 1
    | ['m'] => some 60
    | ['h'] => some 3600
    | ['d'] => some 86400
    | _ => none
  if value.isNaN || value < 0.0 then none
  else some (value * Float.ofNat unit * 1e9).toUInt64.toNat

/-- Waits. -/
def sleep : Main := program fun arguments => do
  let asked ← askedFor (OptionTable.of "") arguments
  if asked.operands.isEmpty then missingOperand
  let times ← asked.operands.mapM fun word => do
    match interval? word with
    | some time => return some time
    | none =>
      complain ("invalid time interval ".toList ++ quoted word)
      return none
  if times.any Option.isNone then referToHelp 1
  call (.sleep ((times.filterMap id).foldl (· + ·) 0))

/-- Prints the working directory. -/
def pwd : Main := program fun _ => do
  let files ← call .files
  putLine ('/' :: ['/'].intercalate (files.workingDirectory.map ByteText.ofString))

/-- A path without the slashes at its end. -/
def withoutSlashes (path : ByteText) : ByteText :=
  (path.reverse.dropWhile (· = '/')).reverse

/-- The last name of a path. -/
def baseOf (path : ByteText) : ByteText :=
  let short := withoutSlashes path
  if short.isEmpty then path.take 1 else (short.reverse.takeWhile (· ≠ '/')).reverse

/-- A name without an end, if more than that end is left. -/
def withoutSuffix (suffix name : ByteText) : ByteText :=
  if suffix.isSuffixOf name && suffix.length < name.length then
    name.take (name.length - suffix.length)
  else name

/-- Prints the last names of paths. -/
def basename : Main := program fun arguments => do
  let asked ← askedFor (OptionTable.of "as:z" [("multiple", .nothing, 'a'),
    ("suffix", .argument, 's'), ("zero", .nothing, 'z')] true) arguments
  let ending := if asked.has 'z' then [Char.ofNat 0] else ['\n']
  let suffix := (asked.argument? 's').getD []
  match asked.operands with
  | [] => missingOperand
  | paths =>
    if asked.has 'a' || asked.has 's' then
      for path in paths do put (withoutSuffix suffix (baseOf path) ++ ending)
    else match paths with
    | [path] => put (baseOf path ++ ending)
    | [path, suffix] => put (withoutSuffix suffix (baseOf path) ++ ending)
    | _ :: _ :: extra :: _ => misuse 1 ("extra operand ".toList ++ quoted extra)
    | [] => return ()

/-- The path above the last name. -/
def directoryOf (path : ByteText) : ByteText :=
  let short := withoutSlashes path
  if short.isEmpty then if path.isEmpty then ['.'] else ['/']
  else
    let above := short.take (short.length - (short.reverse.takeWhile (· ≠ '/')).length)
    if above.isEmpty then ['.']
    else
      let above := withoutSlashes above
      if above.isEmpty then ['/'] else above

/-- Prints the paths above the last names of paths. -/
def dirname : Main := program fun arguments => do
  let asked ← askedFor (OptionTable.of "z" [("zero", .nothing, 'z')]) arguments
  if asked.operands.isEmpty then missingOperand
  for path in asked.operands do
    put (directoryOf path ++ if asked.has 'z' then [Char.ofNat 0] else ['\n'])

/-- Prints the variables of the surroundings, or the values of some. -/
def printenv : Main := program fun arguments => do
  let environment := (← get).environment
  if arguments.isEmpty then environment.forM putLine
  else
    for name in arguments do
      match environment.find? fun entry => (name ++ ['=']).isPrefixOf entry with
      | some entry => putLine (entry.drop (name.length + 1))
      | none => modify fun desk => { desk with status := 1 }

/-- Prints the name of the user. -/
def whoami : Main := program fun _ => putLine "root".toList

/-- Prints who the user is. -/
def id : Main := program fun arguments => do
  let asked ← askedFor (OptionTable.of "ugnrGz") arguments
  let number := if asked.has 'n' then "root".toList else ['0']
  if asked.has 'u' || asked.has 'g' || asked.has 'G' then putLine number
  else putLine "uid=0(root) gid=0(root) groups=0(root)".toList

/-- Prints the name of the system. -/
def uname : Main := program fun arguments => do
  let asked ← askedFor (OptionTable.of "asnrvmpio") arguments
  let parts := [('s', "Linux"), ('n', "localhost"), ('r', "6.1.0"), ('v', "#1 SMP"),
    ('m', "x86_64"), ('o', "GNU/Linux")]
  let wanted := parts.filter fun (letter, _) =>
    asked.has 'a' || asked.has letter || (asked.options.isEmpty && letter = 's')
  putLine ([' '].intercalate (wanted.map fun (_, text) => text.toList))

/-- Sends signals to processes. -/
def kill : Main := program fun arguments => do
  let (signal, targets) : Option Nat × List ByteText := match arguments with
    | ['-', 's'] :: name :: rest => (signalOf name, rest)
    | ('-' :: name) :: rest => (signalOf name, rest)
    | _ => (some Signal.terminate, arguments)
  match signal with
  | none => fail 1 "unknown signal".toList
  | some signal =>
    for target in targets do
      match Numeral.value? target with
      | none => fault 1 ("failed to parse argument: ".toList ++ quoted target)
      | some number =>
        match ← call (.signal number signal) with
        | .ok _ => pure ()
        | .error error =>
          fault 1 ("sending signal to ".toList ++ target ++ " failed: ".toList ++
            error.reason.toList)
where
  /-- The signal of a number or a name. -/
  signalOf (word : ByteText) : Option Nat :=
    match Numeral.value? word with
    | some number => some number
    | none =>
      let name := String.ofList (word.map Char.toUpper)
      Signal.ofName? (if name.startsWith "SIG" then (name.drop 3).toString else name)

end CopyOracle.Tool
