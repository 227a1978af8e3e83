import CopyOracle.Number.Decimals
import CopyOracle.Regex.Reader
import CopyOracle.Text.Escape
import CopyOracle.Tool.Sed.Script

/-!
# Reading scripts for editing lines

A script is read character by character. How much of it was read when it turns out to be faulty is
part of the fault.
-/
namespace CopyOracle.Tool.Sed

/-- Where the reading of a script stands. -/
structure Reading where
  /-- What is left. -/
  rest : ByteText
  /-- How many characters were read. -/
  used : Nat := 0
  /-- The script so far. -/
  script : Script := {}
  /-- The blocks that are open, by the commands that begin them. -/
  blocks : List Nat := []

/-- Reading a part of a script. A fault comes with the number of characters read. -/
abbrev Reader := StateT Reading (Except (Nat × Fault))

/-- Whether expressions are of the extended notation. -/
abbrev IsExtended := Bool

/-- The script is faulty here. -/
def refuse {α : Type} (fault : Fault) : Reader α := do throw ((← get).used, fault)

/-- The next character, which counts as read. -/
def take : Reader (Option Char) := do
  let reading ← get
  match reading.rest with
  | [] => return none
  | c :: rest =>
    set { reading with rest, used := reading.used + 1 }
    return some c

/-- A character counts as not read. -/
def giveBack (c : Option Char) : Reader Unit := do
  if let some c := c then
    modify fun reading => { reading with rest := c :: reading.rest, used := reading.used - 1 }

/-- The longest front of what is left whose characters have a property. -/
def takeWhile (property : Char → Bool) : Reader ByteText := do
  let reading ← get
  let front := reading.rest.takeWhile property
  set { reading with
    rest := reading.rest.drop front.length, used := reading.used + front.length }
  return front

/-- Whether a character is a blank. -/
def isBlank (c : Char) : Bool := c = ' ' || c = '\t'

/-- Whether a character is white space. -/
def isSpace (c : Char) : Bool := isBlank c || c = '\n' || c = '\r' || c.toNat = 11 || c.toNat = 12

/-- The next character that is no blank. -/
def takeSolid : Reader (Option Char) := do
  let _ ← takeWhile isBlank
  take

/-- The number that begins with a character; zero if none does. -/
def number (first : Option Char) : Reader Nat := do
  giveBack first
  return Nat.ofDigitChars 10 (← takeWhile Char.isDigit) 0

/-- Passes the end of a command. -/
def endCommand : Reader Unit := do
  match ← takeSolid with
  | none | some '\n' | some ';' => return ()
  | some c => if c = '\x7d' || c = '#' then giveBack (some c) else refuse .extraCharacters

/-- The length of a list of characters in an expression after its bracket, with its end. -/
def bracketLength (text : ByteText) : Nat :=
  let start := match text with
    | '^' :: ']' :: _ => 2
    | '^' :: _ | ']' :: _ => 1
    | _ => 0
  go (text.length + 1) start (text.drop start)
where
  /-- The length from a place on. -/
  go : (fuel : Nat) → Nat → ByteText → Nat
    | 0, passed, _ | _, passed, [] => passed
    | _, passed, ']' :: _ => passed + 1
    | fuel + 1, passed, '[' :: mark :: rest =>
      if mark ∈ [':', '.', '='] then
        let inside := rest.takeWhile fun c => c ≠ ']'
        if inside.getLast? = some mark then
          go fuel (passed + 3 + inside.length) (rest.drop (inside.length + 1))
        else go fuel (passed + 1) (mark :: rest)
      else go fuel (passed + 1) (mark :: rest)
    | fuel + 1, passed, _ :: rest => go fuel (passed + 1) rest

/-- The text up to a mark that ends it; none if a line ends before. A backslash protects the mark,
and in an expression marks in lists of characters do not count. -/
def upTo (mark : Char) (isExpression : Bool) : (fuel : Nat) → (reversed : ByteText) →
    Reader (Option ByteText)
  | 0, _ => return none
  | fuel + 1, reversed => do
    match ← take with
    | none => return none
    | some '\n' =>
      giveBack (some '\n')
      return none
    | some '\\' =>
      if mark = '\\' then return some reversed.reverse
      match ← take with
      | none => return none
      | some 'n' =>
        if isExpression then upTo mark isExpression fuel ('\n' :: reversed)
        else upTo mark isExpression fuel ('n' :: '\\' :: reversed)
      | some '\n' => upTo mark isExpression fuel ('\n' :: reversed)
      | some c =>
        if c = mark && !(!isExpression && c = '&') then upTo mark isExpression fuel (c :: reversed)
        else upTo mark isExpression fuel (c :: '\\' :: reversed)
    | some c =>
      if c = mark then return some reversed.reverse
      else if c = '[' && isExpression then
        let rest := (← get).rest
        let list := rest.take (bracketLength rest)
        if list.contains '\n' || list.getLast? ≠ some ']' then
          let _ ← takeWhile (· ≠ '\n')
          return none
        else
          modify fun reading =>
            { reading with
              rest := rest.drop list.length, used := reading.used + list.length }
          upTo mark isExpression fuel ((bracketText (list.length + 1) list).reverse ++ c :: reversed)
      else upTo mark isExpression fuel (c :: reversed)
where
  /-- A list of characters with the ends of lines in it. -/
  bracketText : (fuel : Nat) → ByteText → ByteText
    | 0, text => text
    | _, [] => []
    | fuel + 1, '\\' :: 'n' :: rest => '\n' :: bracketText fuel rest
    | fuel + 1, '\\' :: ']' :: rest => '\\' :: ']' :: bracketText fuel rest
    | fuel + 1, c :: rest => c :: bracketText fuel rest

/-- The text up to a mark that ends it. -/
def delimited (mark : Char) (isExpression : Bool) : Reader (Option ByteText) := do
  upTo mark isExpression ((← get).rest.length + 1) []

/-- The character that an escape after a backslash stands for, and what follows it. -/
def escaped? (text : ByteText) : Option (Char × ByteText) :=
  let coded (base count : Nat) (rest : ByteText) : Option (Char × ByteText) :=
    let digits := (rest.take count).takeWhile fun c =>
      (Decimals.digitValue? c).any (· < base)
    if digits.isEmpty then none
    else
      let value := digits.foldl (fun value c => value * base + (Decimals.digitValue? c).getD 0) 0
      some (Char.ofNat (value % 256), rest.drop digits.length)
  match text with
  | 'a' :: rest => some (Char.ofNat 7, rest)
  | 'f' :: rest => some (Char.ofNat 12, rest)
  | 'n' :: rest => some ('\n', rest)
  | 'r' :: rest => some ('\r', rest)
  | 't' :: rest => some ('\t', rest)
  | 'v' :: rest => some (Char.ofNat 11, rest)
  | 'c' :: c :: rest => some (Char.ofNat (c.toUpper.toNat ^^^ 64), rest)
  | 'd' :: rest => coded 10 3 rest
  | 'o' :: rest => coded 8 3 rest
  | 'x' :: rest => coded 16 2 rest
  | _ => none

/-- An expression with its escapes resolved; a character that would be special is protected. -/
def resolveExpression : (fuel : Nat) → ByteText → ByteText
  | 0, text => text
  | _, [] => []
  | fuel + 1, '\\' :: rest =>
    match rest, escaped? rest with
    | 'n' :: later, _ => '\\' :: 'n' :: resolveExpression fuel later
    | _, some (c, later) =>
      let isSpecial := c ∈ ['*', '.', '[', ']', '^', '$', '\\', '/', '+', '?', '(', ')', '|']
      (if isSpecial then ['\\', c] else [c]) ++ resolveExpression fuel later
    | c :: later, none => '\\' :: c :: resolveExpression fuel later
    | [], none => ['\\']
  | fuel + 1, c :: rest => c :: resolveExpression fuel rest

/-- The expression of a text, which refers to so many groups; none if it is empty. -/
def expression (isExtended : IsExtended) (text : ByteText) (ignoresCase hasLines : Bool)
    (groups : Nat) : Reader (Option Regex.Finder) := do
  if text.isEmpty then
    if ignoresCase || hasLines then refuse .emptyWithProperties else return none
  match Regex.read { isExtended, isStrict := true, hasLineEnds := true }
      (resolveExpression (text.length + 1) text) with
  | .error fault => refuse (.expression fault.message)
  | .ok regex =>
    if regex.groups < groups then refuse (.noGroup groups)
    return some (Regex.finder regex ignoresCase hasLines)

/-- The properties of an expression in an address. -/
def addressProperties : (fuel : Nat) → (ignoresCase hasLines : Bool) → Reader (Bool × Bool)
  | 0, ignoresCase, hasLines => return (ignoresCase, hasLines)
  | fuel + 1, ignoresCase, hasLines => do
    match ← takeSolid with
    | some 'I' => addressProperties fuel true hasLines
    | some 'M' => addressProperties fuel ignoresCase true
    | other =>
      giveBack other
      return (ignoresCase, hasLines)

/-- The address that begins with a character, if one does. -/
def address? (isExtended : IsExtended) (first : Option Char) : Reader (Option RangeEnd) := do
  match first with
  | some '$' => return some (.address .last)
  | some '+' => return some (.after (← number (← takeSolid)))
  | some '~' => return some (.multiple (← number (← takeSolid)))
  | some c =>
    if c = '/' || c = '\\' then
      let mark ← if c = '/' then pure (some '/') else take
      match mark with
      | none => refuse .openAddress
      | some mark =>
        match ← delimited mark true with
        | none => refuse .openAddress
        | some text =>
          let (ignoresCase, hasLines) ←
            addressProperties ((← get).rest.length + 1) false false
          return some (.address (.fits (← expression isExtended text ignoresCase hasLines 0)))
    else if c.isDigit then
      let line ← number first
      match ← takeSolid with
      | some '~' =>
        let step ← number (← takeSolid)
        return some (.address (if step = 0 then .line line else .every line step))
      | other =>
        giveBack other
        return some (.address (.line line))
    else return none
  | none => return none

/-- The addresses before a command, and the first character after them. -/
def selector (isExtended : IsExtended) (first : Option Char) :
    Reader (Selector × Option Char) := do
  let (found, next) ← match ← address? isExtended first with
    | none => pure (({} : Selector), first)
    | some (.address start) =>
      let next ← takeSolid
      let (stop, next) ← if next = some ',' then do
          match ← address? isExtended (← takeSolid) with
          | some stop => pure (some stop, ← takeSolid)
          | none => refuse .strayComma
        else pure (none, next)
      match start, stop with
      | .line 0, some (.address (.fits _)) => pure ()
      | .line 0, _ => refuse .lineZero
      | _, _ => pure ()
      pure (({ first := some start, last := stop } : Selector), next)
    | some (.after 0) | some (.multiple 0) => pure (({} : Selector), ← takeSolid)
    | some _ => refuse .strayStep
  if next = some '!' then
    let next ← takeSolid
    if next = some '!' then refuse .secondMark
    return ({ found with isNegated := true }, next)
  else return (found, next)

/-- A label or the name of one. -/
def label : Reader ByteText := do
  let _ ← takeWhile isBlank
  takeWhile fun c => !isSpace c && c ≠ ';' && c ≠ '\x7d'

/-- The name of a file, which reaches to the end of the line. -/
def filePath : Reader ByteText := do
  let _ ← takeWhile isBlank
  let path ← takeWhile (· ≠ '\n')
  let _ ← take
  if path.isEmpty then refuse .noFile
  return path

/-- The text up to the end of a line that no backslash protects, with its escapes resolved. -/
def textLines : (fuel : Nat) → ByteText → Reader ByteText
  | 0, reversed => return reversed.reverse
  | fuel + 1, reversed => do
    match ← take with
    | none | some '\n' => return ('\n' :: reversed).reverse
    | some '\\' =>
      let rest := (← get).rest
      match escaped? rest with
      | some (c, later) =>
        modify fun reading =>
          { reading with rest := later, used := reading.used + (rest.length - later.length) }
        textLines fuel (c :: reversed)
      | none =>
        match ← take with
        | none => return ('\n' :: reversed).reverse
        | some c => textLines fuel (c :: reversed)
    | some c => textLines fuel (c :: reversed)

/-- The text of a command that prints one. -/
def commandText : Reader ByteText := do
  let first ← takeSolid
  let rest ← get
  match first with
  | none => refuse .noText
  | some '\\' =>
    if rest.rest.isEmpty then return []
    let blanks ← takeWhile isBlank
    match ← take with
    | some '\n' => textLines ((← get).rest.length + 1) []
    | some '\\' =>
      giveBack (some '\\')
      textLines ((← get).rest.length + 1) blanks.reverse
    | some c => textLines ((← get).rest.length + 1) (c :: blanks.reverse)
    | none => textLines 1 blanks.reverse
  | some c =>
    giveBack (some c)
    textLines ((← get).rest.length + 1) []

/-- The pieces of a replacement. -/
def pieces : (fuel : Nat) → (reversed : ByteText) → ByteText → List Piece
  | 0, reversed, _ | _, reversed, [] => [.text reversed.reverse]
  | fuel + 1, reversed, '&' :: rest => .text reversed.reverse :: .group 0 :: pieces fuel [] rest
  | fuel + 1, reversed, '\\' :: rest =>
    let special (piece : Piece) (later : ByteText) : List Piece :=
      .text reversed.reverse :: piece :: pieces fuel [] later
    match rest with
    | [] => [.text ('\\' :: reversed).reverse]
    | 'U' :: later => special (.change .upper) later
    | 'L' :: later => special (.change .lower) later
    | 'u' :: later => special (.change .upperOnce) later
    | 'l' :: later => special (.change .lowerOnce) later
    | 'E' :: later => special (.change .keep) later
    | c :: later =>
      if c.isDigit then special (.group (c.toNat - '0'.toNat)) later
      else match escaped? rest with
      | some (c, later) => pieces fuel (c :: reversed) later
      | none => pieces fuel (c :: reversed) later
  | fuel + 1, reversed, c :: rest => pieces fuel (c :: reversed) rest

/-- The properties of a substitution. -/
structure Properties where
  /-- Whether all finds are replaced. -/
  isGlobal : Bool := false
  /-- Whether the line is printed. -/
  prints : Bool := false
  /-- Which find is the first to be replaced. -/
  number : Option Nat := none
  /-- Whether capitals and small letters are the same. -/
  ignoresCase : Bool := false
  /-- Whether lines begin and end within the text. -/
  hasLines : Bool := false
  /-- The file to which the line is written. -/
  file : Option ByteText := none

/-- The properties after a substitution. -/
def properties : (fuel : Nat) → Properties → Reader Properties
  | 0, found => return found
  | fuel + 1, found => do
    match ← take with
    | none | some '\n' | some ';' => return found
    | some c =>
      if isBlank c then properties fuel found
      else if c = '\x7d' || c = '#' then
        giveBack (some c)
        return found
      else if c = 'i' || c = 'I' then properties fuel { found with ignoresCase := true }
      else if c = 'm' || c = 'M' then properties fuel { found with hasLines := true }
      else if c = 'p' then
        if found.prints then refuse (.secondProperty (named "p"))
        properties fuel { found with prints := true }
      else if c = 'g' then
        if found.isGlobal then refuse (.secondProperty (named "g"))
        properties fuel { found with isGlobal := true }
      else if c = 'w' then return { found with file := some (← filePath) }
      else if c.isDigit then
        if found.number.isSome then refuse (.secondProperty "number")
        let count ← number (some c)
        if count = 0 then refuse .numberZero
        properties fuel { found with number := some count }
      else refuse .unknownProperty

/-- A substitution. -/
def substitution (isExtended : IsExtended) : Reader Action := do
  match ← take with
  | none => refuse .openSubstitution
  | some mark =>
    if mark = '\n' then refuse .openSubstitution
    match ← delimited mark true with
    | none => refuse .openSubstitution
    | some text =>
      match ← delimited mark false with
      | none => refuse .openSubstitution
      | some replacement =>
        let replacement := pieces (replacement.length + 1) [] replacement
        let found ← properties ((← get).rest.length + 1) {}
        let groups := groupsIn replacement
        let finder ← expression isExtended text found.ignoresCase found.hasLines groups
        return .substitute
          { finder, replacement, isGlobal := found.isGlobal, number := found.number.getD 1
            prints := found.prints, file := found.file }

/-- The characters of one side of an exchange. -/
def letters : (fuel : Nat) → ByteText → ByteText
  | 0, _ | _, [] => []
  | fuel + 1, '\\' :: rest =>
    match escaped? rest, rest with
    | some (c, later), _ => c :: letters fuel later
    | none, c :: later => c :: letters fuel later
    | none, [] => ['\\']
  | fuel + 1, c :: rest => c :: letters fuel rest

/-- An exchange of characters. -/
def exchange : Reader Action := do
  match ← take with
  | none => refuse .openExchange
  | some mark =>
    match ← delimited mark false with
    | none => refuse .openExchange
    | some source =>
      match ← delimited mark false with
      | none => refuse .openExchange
      | some target =>
        let source := letters (source.length + 1) source
        let target := letters (target.length + 1) target
        if source.length ≠ target.length then refuse .unequalExchange
        endCommand
        return .exchangeLetters (source.zip target)

/-- The command of an action is added. -/
def add (selector : Selector) (action : Action) : Reader Unit :=
  modify fun reading =>
    { reading with
      script := { reading.script with
        commands := reading.script.commands.push ⟨selector, action⟩ } }

/-- A block is closed. -/
def closeBlock : Reader Unit := do
  let reading ← get
  match reading.blocks with
  | [] => refuse .strayClose
  | start :: others =>
    endCommand
    modify fun reading =>
      let commands := reading.script.commands.modify start fun command =>
        { command with action := .block reading.script.commands.size }
      { reading with blocks := others, script := { reading.script with commands } }

/-- The number after a command, if there is one. -/
def commandNumber : Reader (Option Nat) := do
  let first ← takeSolid
  let count ← if first.any Char.isDigit then some <$> number first
    else do
      giveBack first
      pure none
  endCommand
  return count

/-- The action of a letter that nothing follows. -/
def plainAction? : Char → Option Action
  | '=' => some .number
  | 'd' => some .delete
  | 'D' => some .deleteFirst
  | 'F' => some .fileName
  | 'g' => some .recall
  | 'G' => some .recallMore
  | 'h' => some .hold
  | 'H' => some .holdMore
  | 'n' => some .next
  | 'N' => some .addNext
  | 'p' => some .print
  | 'P' => some .printFirst
  | 'z' => some .clear
  | 'x' => some .exchange
  | _ => none

/-- The command that begins with a character. -/
def command (isExtended : IsExtended) (selector : Selector) (c : Char) : Reader Unit := do
  if let some action := plainAction? c then
    endCommand
    add selector action
  else match c with
  | '\x7b' =>
    modify fun reading =>
      { reading with blocks := reading.script.commands.size :: reading.blocks }
    add selector (.block 0)
  | '\x7d' =>
    if (← get).blocks.isEmpty then refuse .strayClose
    if selector.first.isSome then refuse .closeAddress
    closeBlock
  | '#' =>
    if selector.first.isSome then refuse .commentAddress
    let isFirst := (← get).used = 1
    let text ← takeWhile (· ≠ '\n')
    if isFirst && text.head? = some 'n' then
      modify fun reading => { reading with script := { reading.script with isSilent := true } }
  | ':' =>
    if selector.first.isSome then refuse .labelAddress
    let name ← label
    if name.isEmpty then refuse .noLabel
    modify fun reading =>
      { reading with
        script := { reading.script with
          labels := (name, reading.script.commands.size) :: reading.script.labels } }
  | 'b' => add selector (.branch (← label))
  | 't' => add selector (.branchIf (← label))
  | 'T' => add selector (.branchUnless (← label))
  | 'a' => add selector (.append (← commandText))
  | 'i' => add selector (.insert (← commandText))
  | 'c' => add selector (.change (← commandText))
  | 'q' | 'Q' =>
    if selector.last.isSome then refuse .oneAddress
    add selector (.quit ((← commandNumber).getD 0) (c = 'q'))
  | 'l' | 'L' => add selector (.list (← commandNumber))
  | 'r' => add selector (.readFile (← filePath))
  | 'R' => add selector (.readLine (← filePath))
  | 'w' => add selector (.writeFile (← filePath) false)
  | 'W' => add selector (.writeFile (← filePath) true)
  | 's' => add selector (← substitution isExtended)
  | 'y' => add selector (← exchange)
  | 'v' =>
    let version ← label
    if version.head? = some '9' then refuse .newerVersion
    endCommand
  | c => refuse (.unknownCommand c)

/-- The commands of a script up to its end. -/
def commands (isExtended : IsExtended) : (fuel : Nat) → Reader Unit
  | 0 => return ()
  | fuel + 1 => do
    let _ ← takeWhile fun c => c = ';' || isSpace c
    match ← take with
    | none => return ()
    | first =>
      let (selector, next) ← selector isExtended first
      match next with
      | none => refuse .noCommand
      | some c =>
        command isExtended selector c
        commands isExtended fuel

/-- Reads a script. A fault that stands nowhere comes without a number. -/
def read (isExtended : IsExtended) (text : ByteText) : Except (Option Nat × Fault) Script := do
  match (commands isExtended (text.length + 1)).run { rest := text } with
  | .error (used, fault) => throw (some used, fault)
  | .ok (_, reading) =>
    if reading.blocks.isEmpty then return reading.script else throw (none, .openBlock)

end CopyOracle.Tool.Sed
