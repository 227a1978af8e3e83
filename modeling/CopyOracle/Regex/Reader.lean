import CopyOracle.Number.Numeral
import CopyOracle.Regex.Basic

/-!
# Reading regular expressions

An expression is written in one of two notations. In the basic one a backslash makes parentheses,
braces, bars and some other signs special; in the extended one it takes that from them. A sign for
repetition at the beginning stands for itself.
-/
namespace CopyOracle.Regex

/-- Why an expression cannot be read. -/
inductive Fault where
  /-- A list of characters has no end. -/
  | openBracket
  /-- A list of characters has nothing in it. -/
  | emptyBracket
  /-- A named class of characters stands by itself. -/
  | looseClass
  /-- There is no class of that name. -/
  | unknownClass
  /-- A range goes down. -/
  | range
  /-- A parenthesis is not closed. -/
  | openGroup
  /-- A parenthesis closes nothing. -/
  | closedGroup
  /-- A brace is not closed. -/
  | openBrace
  /-- Braces hold no numbers. -/
  | braces
  /-- Numbers in braces are too big. -/
  | tooBig
  /-- Nothing is there to be repeated. -/
  | nothingRepeated
  /-- There is no such group. -/
  | noGroup
  /-- A backslash is followed by nothing. -/
  | trailingBackslash
deriving DecidableEq, Repr

/-- What is wrong with an expression. -/
def Fault.message : Fault → String
  | .openBracket => "Unmatched [, [^, [:, [., or [="
  | .emptyBracket => "Invalid regular expression"
  | .looseClass => "character class syntax is [[:space:]], not [:space:]"
  | .unknownClass => "Invalid character class name"
  | .range => "Invalid range end"
  | .openGroup => "Unmatched ( or \\("
  | .closedGroup => "Unmatched ) or \\)"
  | .openBrace => "Unmatched \\\x7b"
  | .braces => "Invalid content of \\\x7b\\\x7d"
  | .tooBig => "Regular expression too big"
  | .nothingRepeated => "Invalid preceding regular expression"
  | .noGroup => "Invalid back reference"
  | .trailingBackslash => "Trailing backslash"

/-- How expressions are written. -/
structure Notation where
  /-- Whether parentheses, braces and bars are special by themselves. -/
  isExtended : Bool
  /-- Whether a backslash protects in lists of characters. -/
  protectsInBrackets : Bool := false
  /-- Whether a backslash before a letter stands for something of its own. -/
  hasLetters : Bool := true
  /-- Whether the letter n after a backslash stands for the end of a line. -/
  hasLineEnds : Bool := false
  /-- Whether there are numbers in braces. -/
  hasBraces : Bool := true
  /-- Whether lists of characters hold the end of a line if they are of others. -/
  othersHoldLineEnd : Bool := true
  /-- Whether signs that repeat nothing and parentheses that close nothing are refused. -/
  isStrict : Bool := false
  /-- Whether signs that repeat nothing and branches with nothing in them are refused. -/
  needsParts : Bool := false

/-- Where a reader stands in an expression. -/
structure Reading where
  /-- What is left. -/
  rest : ByteText
  /-- How many groups were begun. -/
  groups : Nat := 0
  /-- Which groups have ended. -/
  ended : List Nat := []
  /-- The signs for repetition that stand where nothing is to be repeated. -/
  loose : List Char := []

/-- Reading a part of an expression. -/
abbrev Reader := StateT Reading (Except Fault)

/-- Goes on with the rest of an expression. -/
def goOn (rest : ByteText) : Reader Unit := modify fun reading => { reading with rest := rest }

/-- The character that a letter after a backslash in a list of characters stands for. -/
def bracketLetter (c : Char) : Char :=
  match c with
  | 'n' => '\n'
  | 't' => '\t'
  | 'r' => '\r'
  | 'f' => Char.ofNat 12
  | 'v' => Char.ofNat 11
  | 'a' => Char.ofNat 7
  | other => other

/-- One character in a list of characters, and what follows it. -/
def bracketChar (written : Notation) (c : Char) (rest : ByteText) : Char × ByteText :=
  match c, rest with
  | '\\', d :: later => if written.protectsInBrackets then (bracketLetter d, later) else (c, rest)
  | '[', '.' :: d :: '.' :: ']' :: later => (d, later)
  | '[', '=' :: d :: '=' :: ']' :: later => (d, later)
  | _, _ => (c, rest)

/-- The rest of a list of characters. -/
def bracketItems (written : Notation) : (fuel : Nat) → (isFirst : Bool) → CharSet → ByteText →
    Except Fault (CharSet × ByteText)
  | 0, _, _, _ | _, _, _, [] => .error .openBracket
  | fuel + 1, isFirst, found, c :: rest =>
    if c = ']' && !isFirst then .ok (found, rest)
    else
      let class? : Option (Except Fault (CharSet × ByteText)) :=
        match c, rest with
        | '[', ':' :: name =>
          let word := name.takeWhile Char.isAlpha
          match name.drop word.length with
          | ':' :: ']' :: later =>
            match CharSet.named? word with
            | some set => some (.ok (set, later))
            | none => some (.error .unknownClass)
          | _ => none
        | _, _ => none
      match class? with
      | some (.error fault) => .error fault
      | some (.ok (set, later)) => bracketItems written fuel false (found.union set) later
      | none =>
        let (low, later) := bracketChar written c rest
        match later with
        | '-' :: d :: beyond =>
          if d = ']' then bracketItems written fuel false (found.union (.single low)) later
          else
            let (high, beyond) := bracketChar written d beyond
            if high.toNat < low.toNat then .error .range
            else bracketItems written fuel false
              (found.union (.range low.toNat high.toNat)) beyond
        | _ => bracketItems written fuel false (found.union (.single low)) later

/-- A list of characters after its bracket, and what follows it. -/
def bracket (written : Notation) (rest : ByteText) : Except Fault (CharSet × ByteText) := do
  let (isOther, items) := match rest with
    | '^' :: items => (true, items)
    | items => (false, items)
  if rest.isEmpty then throw .emptyBracket
  match rest with
  | ':' :: name =>
    let word := name.takeWhile Char.isAlpha
    if (name.drop word.length).take 2 = [':', ']'] then throw .looseClass
  | _ => pure ()
  let (set, later) ← bracketItems written (items.length + 1) true {} items
  let others := set.complement
  return (if isOther then if written.othersHoldLineEnd then others else others.without '\n'
    else set, later)

/-- The most times that an expression can be repeated. -/
def mostTimes : Nat := 32767

/-- The numbers in braces, and what follows the braces; none if they are no numbers in braces. -/
def times? (closing : ByteText) (rest : ByteText) :
    Option ((Option Nat × Option (Option Nat)) × ByteText) :=
  let number (digits : ByteText) : Option Nat :=
    if digits.isEmpty then none else some (Nat.ofDigitChars 10 digits 0)
  let low := rest.takeWhile Char.isDigit
  let later := rest.drop low.length
  let (high, later) : Option (Option Nat) × ByteText := match later with
    | ',' :: later =>
      let digits := later.takeWhile Char.isDigit
      (some (number digits), later.drop digits.length)
    | _ => (none, later)
  if closing.isPrefixOf later then
    if low.isEmpty && high.isNone then none
    else some ((number low, high), later.drop closing.length)
  else none

/-- An expression repeated as numbers in braces say. -/
def repeatedTimes (body : Regex) (low : Option Nat) (high : Option (Option Nat)) :
    Except Fault Regex := do
  let least := low.getD 0
  let most := match high with
    | none => some least
    | some most => most
  if most.any (· < least) then throw .braces
  if mostTimes < max least (most.getD 0) then throw .tooBig
  return .repeated least most body

/-- What a letter after a backslash stands for by itself. -/
def letter? : Char → Option Regex
  | 'w' => some (.among .word)
  | 'W' => some (.among CharSet.word.complement)
  | 's' => some (.among .space)
  | 'S' => some (.among CharSet.space.complement)
  | 'b' => some (.anchor .wordEdge)
  | 'B' => some (.anchor .noWordEdge)
  | '<' => some (.anchor .wordStart)
  | '>' => some (.anchor .wordEnd)
  | '\'' => some (.anchor .textEnd)
  | c => if c = Char.ofNat 96 then some (.anchor .textStart) else none

/-- The signs for repetition after an expression. -/
def repetitions (written : Notation) : (fuel : Nat) → Regex → Reader Regex
  | 0, body => return body
  | fuel + 1, body => do
    let rest := (← get).rest
    let go (least : Nat) (most : Option Nat) (later : ByteText) : Reader Regex := do
      goOn later
      repetitions written fuel (.repeated least most body)
    let braces (closing : ByteText) (inside : ByteText) (isStrict : Bool) : Reader Regex := do
      match times? closing inside with
      | some ((low, high), later) =>
        goOn later
        repetitions written fuel (← (repeatedTimes body low high : Except Fault Regex))
      | none =>
        if isStrict then
          throw (if inside.all fun c => c.isDigit || c = ',' then .openBrace else .braces)
        else return body
    match rest with
    | '*' :: later => go 0 none later
    | '+' :: later => if written.isExtended then go 1 none later else return body
    | '?' :: later => if written.isExtended then go 0 (some 1) later else return body
    | '\x7b' :: later =>
      if written.isExtended && written.hasBraces then braces ['\x7d'] later written.isStrict
      else return body
    | '\\' :: '+' :: later => if written.isExtended then return body else go 1 none later
    | '\\' :: '?' :: later => if written.isExtended then return body else go 0 (some 1) later
    | '\\' :: '\x7b' :: later =>
      if written.isExtended then return body else braces ['\\', '\x7d'] later true
    | _ => return body

/-- Whether the rest of an expression ends a branch. -/
def endsBranch (written : Notation) (depth : Nat) : ByteText → Bool
  | [] => true
  | '|' :: _ => written.isExtended
  | ')' :: _ => written.isExtended && 0 < depth
  | '\\' :: '|' :: _ => !written.isExtended
  | '\\' :: ')' :: _ => !written.isExtended
  | '\n' :: _ => false
  | _ => false

/-- One part of a branch, without the signs for its repetition. -/
def atom (written : Notation) (inner : Reader Regex) (isFirst : Bool) (depth : Nat) :
    Reader Regex := do
  let group : Reader Regex := do
    let number := (← get).groups + 1
    modify fun reading => { reading with groups := number }
    let body ← inner
    match (← get).rest with
    | ')' :: later => if written.isExtended then goOn later else throw .openGroup
    | '\\' :: ')' :: later => if written.isExtended then throw .openGroup else goOn later
    | _ => throw .openGroup
    modify fun reading => { reading with ended := number :: reading.ended }
    return .group number body
  let plain (c : Char) (later : ByteText) : Reader Regex := do
    goOn later
    return .among (.single c)
  match (← get).rest with
  | [] => return .empty
  | '.' :: later =>
    goOn later
    return .among .full
  | '[' :: later =>
    let (set, later) ← (bracket written later : Except Fault (CharSet × ByteText))
    goOn later
    return .among set
  | '^' :: later =>
    if written.isExtended || isFirst then
      goOn later
      return .anchor .lineStart
    else plain '^' later
  | '$' :: later =>
    if written.isExtended || endsBranch written depth later then
      goOn later
      return .anchor .lineEnd
    else plain '$' later
  | '(' :: later =>
    if written.isExtended then
      goOn later
      group
    else plain '(' later
  | '\\' :: [] => throw .trailingBackslash
  | '\\' :: c :: later =>
    if c = '(' && !written.isExtended then
      goOn later
      group
    else if '1' ≤ c && c ≤ '9' && written.hasLetters then
      let number := c.toNat - '0'.toNat
      goOn later
      if (← get).ended.contains number then return .same number else throw .noGroup
    else if c = 'n' && written.hasLineEnds then plain '\n' later
    else match if written.hasLetters then letter? c else none with
    | some found =>
      goOn later
      return found
    | none => plain (if written.hasLetters then c else bracketLetter c) later
  | c :: later => plain c later

/-- The parts of a branch. -/
def branch (written : Notation) (inner : Reader Regex) (depth : Nat) : (fuel : Nat) →
    (isFirst : Bool) → Reader Regex
  | 0, _ => return .empty
  | fuel + 1, isFirst => do
    if isFirst && written.isExtended then
      let signs := (← get).rest.takeWhile fun c => c ∈ ['*', '+', '?']
      if (written.isStrict || written.needsParts) && !signs.isEmpty then throw .nothingRepeated
      modify fun reading =>
        { reading with
          rest := reading.rest.drop signs.length, loose := reading.loose ++ signs }
    let rest := (← get).rest
    if endsBranch written depth rest then
      match rest with
      | '\\' :: ')' :: _ => if depth = 0 then throw .closedGroup
      | _ => pure ()
      return .empty
    else if written.isStrict && written.isExtended && rest.head? = some ')' then
      throw .closedGroup
    else
      let one ← atom written inner isFirst depth
      let isPlace := match one with
        | .anchor .lineStart => true
        | _ => false
      if isPlace && written.isStrict && written.isExtended then
        if (← get).rest.head?.any fun c => c ∈ ['*', '+', '?'] then throw .nothingRepeated
      let one ← if isPlace && !written.isExtended then pure one
        else repetitions written (rest.length + 1) one
      let later ← branch written inner depth fuel (isPlace && !written.isExtended && isFirst)
      return .both one later

/-- The branches of an expression. -/
def branches (written : Notation) (inner : Reader Regex) (depth : Nat) : (fuel : Nat) →
    (isLater : Bool) → Reader Regex
  | 0, _ => return .empty
  | fuel + 1, isLater => do
    let start := (← get).rest
    let first ← branch written inner depth (start.length + 1) true
    let rest := (← get).rest
    if written.needsParts && rest.length = start.length && (isLater || !rest.isEmpty) then
      throw .nothingRepeated
    match rest with
    | '|' :: later =>
      if written.isExtended then
        goOn later
        return .either first (← branches written inner depth fuel true)
      else return first
    | '\\' :: '|' :: later =>
      if written.isExtended then return first
      else
        goOn later
        return .either first (← branches written inner depth fuel true)
    | _ => return first

/-- An expression, nested to a depth. -/
def whole (written : Notation) : (fuel : Nat) → (depth : Nat) → Reader Regex
  | 0, _ => throw .tooBig
  | fuel + 1, depth => do
    branches written (whole written fuel (depth + 1)) depth ((← get).rest.length + 1) false

/-- Reads an expression, with the signs for repetition in it that have nothing to repeat. -/
def readWithLoose (written : Notation) (text : ByteText) : Except Fault (Regex × List Char) := do
  let (regex, reading) ← (whole written (text.length + 2) 0).run { rest := text }
  if reading.rest.isEmpty then return (regex, reading.loose) else throw .closedGroup

/-- Reads an expression. -/
def read (written : Notation) (text : ByteText) : Except Fault Regex :=
  Prod.fst <$> readWithLoose written text

end CopyOracle.Regex
