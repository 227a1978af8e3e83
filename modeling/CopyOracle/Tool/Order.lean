import CopyOracle.Number.Decimals
import CopyOracle.Tool.Options

/-!
# Lines in order

Lines are put in order by keys, which are parts of them and are compared as texts, as numbers or in
other ways; lines that are equal to the line before are left out; and the lines of two files that
are in order are compared.
-/
namespace CopyOracle.Tool

open Host

namespace Order

/-- How keys are compared. -/
inductive Manner where
  /-- Byte by byte. -/
  | bytes
  /-- As decimal numbers. -/
  | numbers
  /-- As numbers in any form. -/
  | floats
  /-- As numbers with units of size. -/
  | sizes
  /-- As names of months. -/
  | months
  /-- As versions, where runs of digits are numbers. -/
  | versions
deriving DecidableEq, Repr

/-- The options of a key. -/
structure Style where
  /-- How it is compared. -/
  manner : Manner := .bytes
  /-- Whether blanks in front of its beginning are left out. -/
  skipsBefore : Bool := false
  /-- Whether blanks in front of its end are left out. -/
  skipsAfter : Bool := false
  /-- Whether small letters are like capitals. -/
  folds : Bool := false
  /-- Whether only letters, digits and blanks count. -/
  isDictionary : Bool := false
  /-- Whether only characters with a shape count. -/
  isPrinted : Bool := false
  /-- Whether the order is turned around. -/
  isReversed : Bool := false
deriving DecidableEq, Repr

/-- A style with one more option. -/
def Style.with? (style : Style) (letter : Char) (isBefore isAfter : Bool) : Option Style :=
  match letter with
  | 'b' =>
    some { style with
      skipsBefore := style.skipsBefore || isBefore, skipsAfter := style.skipsAfter || isAfter }
  | 'd' => some { style with isDictionary := true }
  | 'f' => some { style with folds := true }
  | 'g' => some { style with manner := .floats }
  | 'h' => some { style with manner := .sizes }
  | 'i' => some { style with isPrinted := true }
  | 'M' => some { style with manner := .months }
  | 'n' => some { style with manner := .numbers }
  | 'r' => some { style with isReversed := true }
  | 'V' => some { style with manner := .versions }
  | _ => none

/-- A part of lines by which they are ordered. -/
structure Key where
  /-- How many fields stand before it. -/
  field : Nat := 0
  /-- How many characters stand before it in its first field. -/
  place : Nat := 0
  /-- How many fields stand before its end, and how many characters of the next one belong to it,
  all of them if there is none. -/
  stop : Option (Nat × Nat) := none
  /-- Its options. -/
  style : Style := {}

/-- Why a key cannot be read. -/
inductive KeyFault where
  /-- A number is missing. -/
  | noNumber (place : String) (rest : ByteText)
  /-- A number is zero. -/
  | zero (what : String)
  /-- Something else follows. -/
  | stray
deriving DecidableEq, Repr

/-- What is wrong with a key. -/
def KeyFault.message (word : ByteText) : KeyFault → ByteText
  | .noNumber place rest =>
    (place ++ ": invalid count at start of ").toList ++ quoted rest
  | .zero what => (what ++ ": invalid field specification ").toList ++ quoted word
  | .stray => "stray character in field spec: invalid field specification ".toList ++ quoted word

/-- A number in a key, and what follows it. -/
def keyNumber (place : String) (word : ByteText) : Except KeyFault (Nat × ByteText) :=
  let digits := word.takeWhile Char.isDigit
  if digits.isEmpty then .error (.noNumber place word)
  else .ok (Nat.ofDigitChars 10 digits 0, word.drop digits.length)

/-- The options at the front of a text, and what follows them. -/
def keyStyle (isBefore : Bool) (style : Style) : ByteText → Style × ByteText
  | [] => (style, [])
  | letter :: rest =>
    match style.with? letter isBefore (!isBefore) with
    | some style => keyStyle isBefore style rest
    | none => (style, letter :: rest)

/-- Reads a key. -/
def Key.read (word : ByteText) : Except KeyFault Key := do
  let (field, rest) ← keyNumber "invalid number at field start" word
  if field = 0 then throw (.zero "field number is zero")
  let (place, rest) ← match rest with
    | '.' :: rest => keyNumber "invalid number after '.'" rest
    | rest => pure (1, rest)
  if place = 0 then throw (.zero "character offset is zero")
  let (style, rest) := keyStyle true {} rest
  match rest with
  | [] => return { field := field - 1, place := place - 1, style }
  | ',' :: rest =>
    let (last, rest) ← keyNumber "invalid number after ','" rest
    if last = 0 then throw (.zero "field number is zero")
    let (count, rest) ← match rest with
      | '.' :: rest => keyNumber "invalid number after '.'" rest
      | rest => pure (0, rest)
    let (style, rest) := keyStyle false style rest
    if !rest.isEmpty then throw .stray
    let stop := if count = 0 then (last, 0) else (last - 1, count)
    return { field := field - 1, place := place - 1, stop := some stop, style }
  | _ => throw .stray

/-- Whether a character parts fields by itself. -/
def isBlank (c : Char) : Bool := c = ' ' || c = '\t' || c = '\n'

/-- What follows so many fields, and whether a separator was passed after the last of them. -/
def afterFields (separator : Option Char) : (count : Nat) → (passesLast : Bool) → ByteText →
    ByteText
  | 0, _, text => text
  | _, _, [] => []
  | count + 1, passesLast, text =>
    match separator with
    | some separator =>
      let rest := text.dropWhile (· ≠ separator)
      let rest := if 0 < count || passesLast then rest.drop 1 else rest
      afterFields (some separator) count passesLast rest
    | none =>
      afterFields none count passesLast ((text.dropWhile isBlank).dropWhile fun c => !isBlank c)

/-- The part of a line that a key stands for. -/
def Key.part (key : Key) (separator : Option Char) (line : ByteText) : ByteText :=
  let start := afterFields separator key.field true line
  let start := if key.style.skipsBefore then start.dropWhile isBlank else start
  let start := start.drop key.place
  match key.stop with
  | none => start
  | some (fields, count) =>
    let stop := afterFields separator fields (0 < count) line
    let stop := if 0 < count && key.style.skipsAfter then stop.dropWhile isBlank else stop
    let stop := stop.drop count
    start.take (start.length - stop.length)

/-- The order of two texts byte by byte. -/
def ofBytes : (left right : ByteText) → Ordering
  | [], [] => .eq
  | [], _ :: _ => .lt
  | _ :: _, [] => .gt
  | a :: left, b :: right =>
    if a = b then ofBytes left right else if a.toNat < b.toNat then .lt else .gt

/-- A decimal number: whether it is negative, its digits before the point without zeros in front,
and those after it without zeros at the end. -/
structure Amount where
  /-- Whether it is below zero. -/
  isNegative : Bool
  /-- The digits before the point. -/
  whole : ByteText
  /-- The digits after the point. -/
  fraction : ByteText

/-- The number at the front of a text, which is zero if there is none, and what follows it. -/
def Amount.read (text : ByteText) : Amount × ByteText :=
  let text := text.dropWhile isBlank
  let (isNegative, digits) := match text with
    | '-' :: digits => (true, digits)
    | digits => (false, digits)
  let whole := digits.takeWhile Char.isDigit
  let rest := digits.drop whole.length
  let (fraction, rest) := match rest with
    | '.' :: later =>
      let fraction := later.takeWhile Char.isDigit
      (fraction, later.drop fraction.length)
    | rest => ([], rest)
  let whole := whole.dropWhile (· = '0')
  let fraction := (fraction.reverse.dropWhile (· = '0')).reverse
  (⟨isNegative && !(whole.isEmpty && fraction.isEmpty), whole, fraction⟩, rest)

/-- The order of two numbers. -/
def Amount.order (left right : Amount) : Ordering :=
  let sizes := (compare left.whole.length right.whole.length).then
    ((ofBytes left.whole right.whole).then (ofBytes left.fraction right.fraction))
  match left.isNegative, right.isNegative with
  | false, false => sizes
  | true, true => sizes.swap
  | true, false => .lt
  | false, true => .gt

/-- How big a unit of size is. -/
def unitRank (c : Char) : Nat :=
  match c with
  | 'k' | 'K' => 1
  | 'M' => 2
  | 'G' => 3
  | 'T' => 4
  | 'P' => 5
  | 'E' => 6
  | 'Z' => 7
  | 'Y' => 8
  | _ => 0

/-- The order of two numbers with units of size. -/
def ofSizes (left right : ByteText) : Ordering :=
  let (first, afterFirst) := Amount.read left
  let (second, afterSecond) := Amount.read right
  let rank (amount : Amount) (rest : ByteText) : Int :=
    let rank : Int := if amount.whole.isEmpty && amount.fraction.isEmpty then 0
      else unitRank (rest.headD ' ')
    if amount.isNegative then -rank else rank
  match first.isNegative, second.isNegative with
  | true, false => .lt
  | false, true => .gt
  | _, _ =>
    (compare (rank first afterFirst) (rank second afterSecond)).then (first.order second)

/-- The number of the month that a text begins with; zero if there is none. -/
def monthOf (text : ByteText) : Nat :=
  let name := ((text.dropWhile isBlank).take 3).map Char.toUpper
  match ["JAN", "FEB", "MAR", "APR", "MAY", "JUN", "JUL", "AUG", "SEP", "OCT", "NOV",
      "DEC"].findIdx? fun month => month.toList = name with
  | some index => index + 1
  | none => 0

/-- The rank of a character among those of versions that are no digits. -/
def versionRank : Option Char → Int
  | none => 0
  | some c =>
    if c.isDigit then 0 else if c = '~' then -1 else if c.isAlpha then c.toNat else c.toNat + 256

/-- The order of the parts of two versions that are no digits, and what follows the parts. -/
def ofLetters : (fuel : Nat) → (left right : ByteText) → Ordering × ByteText × ByteText
  | 0, left, right => (.eq, left, right)
  | fuel + 1, left, right =>
    let goesOn (text : ByteText) : Bool := text.head?.any fun c => !c.isDigit
    if goesOn left || goesOn right then
      match compare (versionRank left.head?) (versionRank right.head?) with
      | .eq => ofLetters fuel left.tail right.tail
      | other => (other, left, right)
    else (.eq, left, right)

/-- The order of two versions. -/
def ofVersions : (fuel : Nat) → (left right : ByteText) → Ordering
  | 0, _, _ | _, [], [] => .eq
  | fuel + 1, left, right =>
    match ofLetters (left.length + right.length + 1) left right with
    | (.eq, left, right) =>
      let first := left.takeWhile Char.isDigit
      let second := right.takeWhile Char.isDigit
      match compare (Nat.ofDigitChars 10 first 0) (Nat.ofDigitChars 10 second 0) with
      | .eq => ofVersions fuel (left.drop first.length) (right.drop second.length)
      | other => other
    | (other, _, _) => other

/-- The order of two numbers in any form: texts that are none come first. -/
def ofFloats (left right : ByteText) : Ordering :=
  match Decimals.atFront? left, Decimals.atFront? right with
  | none, none => .eq
  | none, some _ => .lt
  | some _, none => .gt
  | some (a, _), some (b, _) =>
    if a < b then .lt else if b < a then .gt
    else compare (if a.isNaN then 0 else 1) (if b.isNaN then 0 else 1)

/-- A text as it counts for a key. -/
def Style.counted (style : Style) (text : ByteText) : ByteText :=
  let text := if style.isDictionary then text.filter fun c => c.isAlphanum || isBlank c else text
  let text := if style.isPrinted then text.filter fun c => 32 ≤ c.toNat && c.toNat < 127
    else text
  if style.folds then text.map Char.toUpper else text

/-- The order of two keys. -/
def Style.order (style : Style) (left right : ByteText) : Ordering :=
  let found := match style.manner with
    | .bytes => ofBytes left right
    | .numbers => (Amount.read left).1.order (Amount.read right).1
    | .floats => ofFloats left right
    | .sizes => ofSizes left right
    | .months => compare (monthOf left) (monthOf right)
    | .versions => ofVersions (left.length + right.length + 2) left right
  if style.isReversed then found.swap else found

/-- How lines are ordered. -/
structure Plan where
  /-- The keys. -/
  keys : List Key
  /-- What parts fields; blanks if there is nothing. -/
  separator : Option Char := none
  /-- Whether lines with equal keys are equal. -/
  isFinal : Bool := false
  /-- Whether the order of lines with equal keys is turned around. -/
  isReversed : Bool := false

/-- A line with its keys. -/
structure Entry where
  /-- The line. -/
  line : ByteText
  /-- Its keys. -/
  parts : List ByteText

/-- A line with its keys. -/
def Plan.entry (plan : Plan) (line : ByteText) : Entry :=
  ⟨line, plan.keys.map fun key => key.style.counted (key.part plan.separator line)⟩

/-- The order of keys, the first ones that differ deciding. -/
def ofParts : List Key → (left right : List ByteText) → Ordering
  | key :: keys, a :: left, b :: right => (key.style.order a b).then (ofParts keys left right)
  | _, _, _ => .eq

/-- The order of two lines. -/
def Plan.order (plan : Plan) (left right : Entry) : Ordering :=
  match ofParts plan.keys left.parts right.parts with
  | .eq =>
    if plan.isFinal then .eq
    else
      let found := ofBytes left.line right.line
      if plan.isReversed then found.swap else found
  | other => other

/-- Entries without those that are equal to the one before. -/
def withoutEqual (plan : Plan) : List Entry → List Entry
  | first :: second :: rest =>
    if plan.order first second = .eq then withoutEqual plan (first :: rest)
    else first :: withoutEqual plan (second :: rest)
  | entries => entries
termination_by entries => entries.length

/-- The number of the first line that is out of order, and the line. -/
def disorder? (plan : Plan) (isStrict : Bool) : (number : Nat) → List Entry →
    Option (Nat × ByteText)
  | number, first :: second :: rest =>
    match plan.order first second with
    | .gt => some (number + 1, second.line)
    | .eq => if isStrict then some (number + 1, second.line)
      else disorder? plan isStrict (number + 1) (second :: rest)
    | .lt => disorder? plan isStrict (number + 1) (second :: rest)
  | _, _ => none

/-- The lines of a text that end with some character. -/
def recordsOf (ending : Char) (text : ByteText) : List ByteText :=
  match (text.splitOn ending).reverse with
  | [] :: rest => rest.reverse
  | lines => lines.reverse

/-- The options. -/
def options : OptionTable :=
  .of "bdfghiMnrVcCk:mo:sS:t:T:uz" [("ignore-leading-blanks", .nothing, 'b'),
    ("dictionary-order", .nothing, 'd'), ("ignore-case", .nothing, 'f'),
    ("general-numeric-sort", .nothing, 'g'), ("human-numeric-sort", .nothing, 'h'),
    ("ignore-nonprinting", .nothing, 'i'), ("month-sort", .nothing, 'M'),
    ("numeric-sort", .nothing, 'n'), ("reverse", .nothing, 'r'), ("version-sort", .nothing, 'V'),
    ("check", .joined, 'c'), ("key", .argument, 'k'), ("merge", .nothing, 'm'),
    ("output", .argument, 'o'), ("stable", .nothing, 's'), ("buffer-size", .argument, 'S'),
    ("field-separator", .argument, 't'), ("temporary-directory", .argument, 'T'),
    ("unique", .nothing, 'u'), ("zero-terminated", .nothing, 'z')]

/-- The separator that a word stands for. -/
def separatorOf (word : ByteText) : Work Char := do
  match word with
  | [] => fail 2 "empty tab".toList
  | [c] => return c
  | ['\\', '0'] => return Char.ofNat 0
  | _ => fail 2 ("multi-character tab ".toList ++ quoted word)

/-- How lines are ordered when so much is asked for. -/
def planOf (asked : Asked) : Work Plan := do
  let general := asked.options.foldl (fun style (letter, _) =>
    (style.with? letter true true).getD style) ({} : Style)
  let keys ← (asked.options.filter fun (letter, _) => letter = 'k').mapM fun (_, word) => do
    match Key.read word with
    | .ok key => return if key.style = {} then { key with style := general } else key
    | .error fault => fail 2 (fault.message word)
  let separator ← (asked.argument? 't').mapM separatorOf
  return {
    keys := if keys.isEmpty then if general = { isReversed := general.isReversed } then
        [] else [{ style := general }] else keys
    separator, isFinal := asked.has 's' || asked.has 'u', isReversed := general.isReversed }

end Order

open CopyOracle.Tool.Order

/-- Prints the lines of files in order. -/
def sort : Main := program fun arguments => do
  let asked ← askedFor Order.options arguments 2
  let plan ← planOf asked
  let plan := if plan.keys.isEmpty then
      { plan with keys := [{ style := { isReversed := plan.isReversed } }], isFinal := true }
    else plan
  let ending := if asked.has 'z' then Char.ofNat 0 else '\n'
  let paths := if asked.operands.isEmpty then [['-']] else asked.operands
  let checks := asked.has 'c' || asked.has 'C'
  if checks then
    if let some surplus := paths[1]? then
      fail 2 ("extra operand ".toList ++ quoted surplus ++ " not allowed with -c".toList)
  let texts ← paths.mapM fun path => do
    match ← openOperand path with
    | .ok descriptor =>
      if (← call (.inspect descriptor)) = some .directory then
        fail 2 ("read failed: ".toList ++ path ++ ": Is a directory".toList)
      let text ← all path descriptor
      closeOperand descriptor
      return text
    | .error error => fail 2 ("cannot read: ".toList ++ path ++ ": ".toList ++ error.reason.toList)
  let entries := (texts.flatMap (recordsOf ending)).map plan.entry
  if checks then
    match disorder? plan (asked.has 'u') 1 entries with
    | some (number, line) =>
      unless asked.has 'C' do
        complain ((paths.headD []) ++ ':' :: Numeral.digits number ++ ": disorder: ".toList ++ line)
      leave 1
    | none => return ()
  let ordered := entries.mergeSort fun left right => plan.order left right ≠ .gt
  let ordered := if asked.has 'u' then withoutEqual plan ordered else ordered
  let text := ordered.flatMap fun entry => entry.line ++ [ending]
  match asked.argument? 'o' with
  | none => put text
  | some path =>
    match ← call (.openFile path .write) with
    | .ok descriptor =>
      let _ ← call (.write descriptor text)
      closeOperand descriptor
    | .error error => fail 2 ("open failed: ".toList ++ path ++ ": ".toList ++ error.reason.toList)

/-- Runs of lines that are equal, each with its first line. -/
def runsOf (same : ByteText → ByteText → Bool) : List ByteText → List (List ByteText)
  | [] => []
  | line :: rest =>
    match runsOf same rest with
    | (next :: run) :: runs =>
      if same line next then (line :: next :: run) :: runs else [line] :: (next :: run) :: runs
    | runs => [line] :: runs

/-- The part of a line that counts when it is compared with others. -/
def compared (fields skipped : Nat) (width : Option Nat) (line : ByteText) : ByteText :=
  let rec skip : Nat → ByteText → ByteText
    | 0, text => text
    | count + 1, text =>
      skip count ((text.dropWhile Order.isBlank).dropWhile fun c => !Order.isBlank c)
  let rest := (skip fields line).drop skipped
  match width with
  | some width => rest.take width
  | none => rest

/-- Prints lines that are equal to the one before only once. -/
def uniq : Main := program fun arguments => do
  let asked ← askedFor (.of "cdDuif:s:w:z" [("count", .nothing, 'c'), ("repeated", .nothing, 'd'),
    ("all-repeated", .joined, 'D'), ("unique", .nothing, 'u'), ("ignore-case", .nothing, 'i'),
    ("skip-fields", .argument, 'f'), ("skip-chars", .argument, 's'),
    ("check-chars", .argument, 'w'), ("zero-terminated", .nothing, 'z')]) arguments
  let number (letter : Char) (wording : String) : Work (Option Nat) := do
    match asked.argument? letter with
    | none => return none
    | some word =>
      match Numeral.value? word with
      | some value => return some value
      | none => fail 1 (word ++ ": invalid number of ".toList ++ wording.toList)
  let fields ← number 'f' "fields to skip"
  let skipped ← number 's' "bytes to skip"
  let width ← number 'w' "bytes to compare"
  if let some surplus := asked.operands[2]? then
    misuse 1 ("extra operand ".toList ++ quoted surplus)
  let ending := if asked.has 'z' then Char.ofNat 0 else '\n'
  let path := asked.operands.headD ['-']
  match ← openOperand path with
  | .error error => fail 1 (operandName path ++ ": ".toList ++ error.reason.toList)
  | .ok descriptor =>
    let text ← all ("error reading ".toList ++ quoted path) descriptor
    let key (line : ByteText) : ByteText :=
      let part := compared (fields.getD 0) (skipped.getD 0) width line
      if asked.has 'i' then part.map Char.toLower else part
    let runs := runsOf (fun left right => key left = key right) (recordsOf ending text)
    let kept := runs.filter fun run =>
      !(asked.has 'd' && run.length < 2) && !(asked.has 'D' && run.length < 2) &&
        !(asked.has 'u' && 1 < run.length)
    let lines := kept.flatMap fun run =>
      if asked.has 'D' then run
      else
        let line := run.headD []
        let digits := Numeral.digits run.length
        [if asked.has 'c' then List.replicate (7 - digits.length) ' ' ++ digits ++ ' ' :: line
          else line]
    let printed := lines.flatMap fun line => line ++ [ending]
    match asked.operands[1]? with
    | none | some ['-'] => put printed
    | some target =>
      match ← call (.openFile target .write) with
      | .ok descriptor =>
        let _ ← call (.write descriptor printed)
        closeOperand descriptor
      | .error error => fail 1 (operandName target ++ ": ".toList ++ error.reason.toList)

/-- The columns of the lines of two texts in order: whether a line is in the first one, and
whether it is in the second one. -/
def sides : (fuel : Nat) → (left right : List ByteText) → List (Bool × Bool × ByteText)
  | 0, _, _ => []
  | _, [], right => right.map fun line => (false, true, line)
  | _, left, [] => left.map fun line => (true, false, line)
  | fuel + 1, a :: left, b :: right =>
    match Order.ofBytes a b with
    | .eq => (true, true, a) :: sides fuel left right
    | .lt => (true, false, a) :: sides fuel left (b :: right)
    | .gt => (false, true, b) :: sides fuel (a :: left) right

/-- The lines of one side among the lines of both, each with whether a line without a partner has
come by then. -/
def sideLines (isFirst : Bool) : (hasLone : Bool) → List (Bool × Bool × ByteText) →
    List (ByteText × Bool)
  | _, [] => []
  | hasLone, (inFirst, inSecond, line) :: rest =>
    let hasLone := hasLone || !(inFirst && inSecond)
    let later := sideLines isFirst hasLone rest
    if (if isFirst then inFirst else inSecond) then (line, hasLone) :: later else later

/-- Whether lines are seen not to be in order. That is only looked for once a line without a partner
has come, unless it is always looked for. -/
def isSeenDisordered (always : Bool) : List (ByteText × Bool) → Bool
  | (first, isLate) :: (second, isLater) :: rest =>
    (Order.ofBytes first second = .gt && (always || isLate || (rest.isEmpty && isLater))) ||
      isSeenDisordered always ((second, isLater) :: rest)
  | _ => false

/-- Compares the lines of two files that are in order. -/
def comm : Main := program fun arguments => do
  let asked ← askedFor (.of "123z" [("check-order", .nothing, 'o'),
    ("nocheck-order", .nothing, 'n'), ("zero-terminated", .nothing, 'z')]) arguments
  match asked.operands with
  | [] => missingOperand
  | [only] => misuse 1 ("missing operand after ".toList ++ quoted only)
  | _ :: _ :: surplus :: _ => misuse 1 ("extra operand ".toList ++ quoted surplus)
  | [first, second] =>
    let linesIn (path : ByteText) : Work (List ByteText) := do
      match ← openOperand path with
      | .ok descriptor =>
        let text ← all (operandName path) descriptor
        closeOperand descriptor
        return linesOf text
      | .error error => fail 1 (operandName path ++ ": ".toList ++ error.reason.toList)
    let left ← linesIn first
    let right ← linesIn second
    let rows := sides (left.length + right.length + 1) left right
    for (inFirst, inSecond, line) in rows do
      let tab (letter : Char) : ByteText := if asked.has letter then [] else ['\t']
      if inFirst && inSecond then
        unless asked.has '3' do putLine (tab '1' ++ tab '2' ++ line)
      else if inFirst then
        unless asked.has '1' do putLine line
      else unless asked.has '2' do putLine (tab '1' ++ line)
    let isBad (isFirst : Bool) : Bool :=
      !asked.has 'n' && isSeenDisordered (asked.has 'o') (sideLines isFirst false rows)
    if isBad true || isBad false then
      flush
      if isBad true then complain "file 1 is not in sorted order".toList
      if isBad false then complain "file 2 is not in sorted order".toList
      complain "input is not in sorted order".toList
      quit 1

end CopyOracle.Tool
