import CopyOracle.Shell.Cursor

/-!
# Reading words

A word is read in a scope, which says what ends it and which characters mean more than themselves.
Quotes, braces, and parentheses around an expression open scopes of their own. What stands inside a
substituted command is read by the reader of commands, which is handed in.
-/
namespace CopyOracle.Shell

/-- Where a piece of a word stands. -/
inductive Scope where
  /-- In a word without quotes. -/
  | bare
  /-- Between double quotes. -/
  | quoted
  /-- Between braces, which may stand in quotes; quotes inside may be open. -/
  | operand (isQuoted hasOpenQuote : Bool)
  /-- In a text in the script that is owed. -/
  | document (owed : OwedText)
  /-- In an expression, in so many parentheses of its own. -/
  | expression (depth : Nat)

namespace Scope

/-- Whether text in a scope counts as quoted. -/
def isQuoted : Scope → Bool
  | .bare => false
  | .operand isQuoted _ => isQuoted
  | .quoted | .document _ | .expression _ => true

/-- Whether a backslash in front of a character only protects it. -/
def protects (scope : Scope) (c : Char) : Bool :=
  !scope.isQuoted || c = '\\' || c = grave || c = '$' ||
    (c = '"' && (match scope with | .document _ => false | _ => true)) ||
    (c = '\x7d' && (match scope with | .operand _ _ => true | _ => false))

end Scope

/-- Whether a character ends a word without quotes. -/
def endsWord (c : Char) : Bool := c ∈ [' ', '\t', '\n', ';', '&', '|', '<', '>', '(', ')']

/-- Reads a substituted command, up to its end in the newer or the older style. -/
abbrev CommandReader := (isOlder : Bool) → Reading (Option Command)

namespace Reading

/-- The characters that can go on with a name, as far as they go. -/
def nameChars (accepts : Char → Bool) : (fuel : Nat) → ByteText → Reading ByteText
  | 0, found => return found.reverse
  | fuel + 1, found => do
    match ← char? with
    | none => return found.reverse
    | some c =>
      if accepts c then nameChars accepts fuel (c :: found)
      else
        putBack c
        return found.reverse

/-- The characters up to a single quote. -/
def singleQuoted : (fuel : Nat) → ByteText → Reading ByteText
  | 0, found => return found.reverse
  | fuel + 1, found => do
    match ← rawChar? with
    | none => fail "Unterminated quoted string"
    | some '\'' => return found.reverse
    | some c =>
      if c = '\n' then countLine
      singleQuoted fuel (c :: found)

/-- The text of a command in the older style, without the backslashes that protect. -/
def graveText (isQuoted : Bool) : (fuel : Nat) → ByteText → Reading ByteText
  | 0, found => return found.reverse
  | fuel + 1, found => do
    match ← char? with
    | none => fail "EOF in backquote substitution"
    | some '\\' =>
      match ← rawChar? with
      | none => fail "EOF in backquote substitution"
      | some c =>
        if c = '\\' || c = grave || c = '$' || (isQuoted && c = '"') then
          graveText isQuoted fuel (c :: found)
        else graveText isQuoted fuel (c :: '\\' :: found)
    | some c =>
      if c = grave then return found.reverse
      if c = '\n' then countLine
      graveText isQuoted fuel (c :: found)

/-- A command in the older style, read as a script of its own. -/
def olderCommand (readCommand : CommandReader) (isQuoted : Bool) : Reading (Option Command) := do
  let text ← graveText isQuoted limit []
  let before ← get
  set { before with rest := text, line := 1, owed := [], inUse := [] }
  let body ← readCommand true
  modify fun after =>
    { before with held := none, texts := after.texts, nextText := after.nextText }
  return body

/-- The operator after the name of a parameter, whether an empty value counts as missing, and
whether braces are closed with it. -/
def operator : Reading (Operator × Bool × Bool) := do
  match ← char? with
  | some ':' => return ← standIn true
  | some '%' => return (.cutEnd (← passChar '%'), false, false)
  | some '#' => return (.cutFront (← passChar '#'), false, false)
  | some c =>
    putBack c
    standIn false
  | none => return (.bad, false, false)
where
  /-- An operator that puts something in the place of the value. -/
  standIn (countsEmpty : Bool) : Reading (Operator × Bool × Bool) := do
    match ← char? with
    | some '\x7d' => return (.value, countsEmpty, !countsEmpty)
    | some '-' => return (.default, countsEmpty, false)
    | some '+' => return (.alternative, countsEmpty, false)
    | some '?' => return (.demand, countsEmpty, false)
    | some '=' => return (.assign, countsEmpty, false)
    | _ => return (.bad, countsEmpty, false)

/-- A parameter between braces up to its operand: its name, its operator, whether an empty value
counts as missing, and whether the braces are closed. -/
def bracedName : Reading (ByteText × Operator × Bool × Bool) := do
  let named (first : Char) : Reading (Option ByteText) := do
    if startsName first then return some (first :: (← nameChars inName limit []))
    else if first.isDigit then return some (first :: (← nameChars Char.isDigit limit []))
    else return none
  let bad : ByteText × Operator × Bool × Bool := ([], .bad, false, false)
  let withOperator (name : ByteText) : Reading (ByteText × Operator × Bool × Bool) := do
    let (operator, countsEmpty, isClosed) ← operator
    return (name, operator, countsEmpty, isClosed)
  match ← char? with
  | none => return bad
  | some '\x7d' =>
    putBack '\x7d'
    return bad
  | some '#' =>
    match ← char? with
    | none => return bad
    | some c =>
      match ← named c with
      | some name => return (name, if ← isAtBrace then .length else .bad, false, false)
      | none =>
        if c ≠ '\x7d' && (← isAtBrace) then
          return ([c], if isSpecialParameter c then .length else .bad, false, false)
        putBack c
        withOperator ['#']
  | some c =>
    match ← named c with
    | some name => withOperator name
    | none => if isSpecialParameter c then withOperator [c] else return bad
where
  /-- Whether a closing brace is next. -/
  isAtBrace : Reading Bool := do
    if ← passChar '\x7d' then
      putBack '\x7d'
      return true
    else return false

/-- The line at which a text in the script ends, if the reader stands at it. -/
def atMark (owed : OwedText) : Reading Bool := do
  if owed.stripsTabs then
    modify fun cursor => { cursor with rest := cursor.rest.dropWhile (· == '\t') }
  let cursor ← get
  if owed.mark.isPrefixOf cursor.rest then
    match cursor.rest.drop owed.mark.length with
    | [] =>
      set { cursor with rest := [], line := cursor.line + 1 }
      return true
    | '\n' :: rest =>
      set { cursor with rest := rest, line := cursor.line + 1 }
      return true
    | _ => return false
  else return false

/-- What the end of the script means in a scope. -/
def atEnd (scope : Scope) : Reading Unit := do
  match scope with
  | .bare | .document _ => return ()
  | .quoted | .operand true _ =>
    fail (if (← get).isInText then "Missing '\x7d'" else "Unterminated quoted string")
  | .operand false _ => fail "Missing '\x7d'"
  | .expression _ => fail "Missing '))'"

/-- Text that stands next to text of the same kind is one. -/
def mergeText (reversed : List Piece) : List Piece :=
  reversed.foldl (fun pieces piece =>
    match piece, pieces with
    | .text isQuoted text, .text otherQuoted other :: rest =>
      if isQuoted = otherQuoted then .text isQuoted (text ++ other) :: rest else piece :: pieces
    | _, _ => piece :: pieces) []

/-- The pieces of a word in a scope up to its end, after those found before. -/
def pieces (readCommand : CommandReader) : (fuel : Nat) → Scope → List Piece →
    Reading (List Piece)
  | 0, _, found => return mergeText found
  | fuel + 1, scope, found => do
    let isQuoted := scope.isQuoted
    let next (piece : Piece) : Reading (List Piece) := pieces readCommand fuel scope (piece :: found)
    match ← char? with
    | none =>
      atEnd scope
      return mergeText found
    | some c =>
      let plain : Reading (List Piece) := next (.text isQuoted [c])
      match c with
      | '\n' =>
        match scope with
        | .bare =>
          putBack c
          return mergeText found
        | .document owed =>
          countLine
          if ← atMark owed then return mergeText (.text true [c] :: found) else plain
        | _ =>
          countLine
          plain
      | '\\' =>
        match ← rawChar? with
        | none => next (.text true ['\\'])
        | some c => next (.text true (if scope.protects c then [c] else ['\\', c]))
      | '\'' =>
        if isQuoted then plain else next (.text true (← singleQuoted limit []))
      | '"' =>
        match scope with
        | .bare | .operand false _ =>
          let inside ← pieces readCommand fuel .quoted []
          let marked := match inside with
            | [.parameter _ ['@'] .value false _] => inside
            | _ => .text true [] :: inside
          pieces readCommand fuel scope (marked.reverse ++ found)
        | .quoted => return mergeText found
        | .operand true hasOpenQuote =>
          pieces readCommand fuel (.operand true !hasOpenQuote) found
        | .document _ | .expression _ => plain
      | '\x7d' =>
        match scope with
        | .operand _ false => return mergeText found
        | _ => plain
      | '(' =>
        match scope with
        | .expression depth =>
          pieces readCommand fuel (.expression (depth + 1)) (.text true [c] :: found)
        | .bare =>
          putBack c
          return mergeText found
        | _ => plain
      | ')' =>
        match scope with
        | .expression 0 => if ← passChar ')' then return mergeText found else plain
        | .expression (depth + 1) =>
          pieces readCommand fuel (.expression depth) (.text true [c] :: found)
        | .bare =>
          putBack c
          return mergeText found
        | _ => plain
      | '$' =>
        match ← char? with
        | none => plain
        | some '(' =>
          if ← passChar '(' then
            let expression ← pieces readCommand fuel (.expression 0) []
            next (.arithmetic isQuoted expression)
          else next (.output isQuoted (← readCommand false))
        | some '\x7b' =>
          let (name, operator, countsEmpty, isClosed) ← bracedName
          if isClosed then next (.parameter isQuoted name operator countsEmpty [])
          else
            let operandQuoted := match operator with
              | .cutFront _ | .cutEnd _ => false
              | _ => isQuoted
            let operand ← pieces readCommand fuel (.operand operandQuoted false) []
            next (.parameter isQuoted name operator countsEmpty operand)
        | some d =>
          if startsName d then
            let name ← nameChars inName limit []
            next (.parameter isQuoted (d :: name) .value false [])
          else if isSpecialParameter d then next (.parameter isQuoted [d] .value false [])
          else
            putBack d
            plain
      | c =>
        if c = grave then next (.output isQuoted (← olderCommand readCommand isQuoted))
        else match scope with
        | .bare =>
          if endsWord c then
            putBack c
            return mergeText found
          else plain
        | _ => plain

/-- A word without substitutions, as it marks the end of a text in the script; and whether a part
of it is quoted. -/
def markText : (fuel : Nat) → ByteText → Bool → Reading (ByteText × Bool)
  | 0, found, isQuoted => return (found.reverse, isQuoted)
  | fuel + 1, found, isQuoted => do
    match ← char? with
    | none => return (found.reverse, isQuoted)
    | some '\\' =>
      match ← rawChar? with
      | none => return (('\\' :: found).reverse, true)
      | some c => markText fuel (c :: found) true
    | some '\'' => markText fuel ((← singleQuoted limit []).reverse ++ found) true
    | some '"' => markText fuel ((← doubleQuoted limit []).reverse ++ found) true
    | some c =>
      if endsWord c then
        putBack c
        return (found.reverse, isQuoted)
      else markText fuel (c :: found) isQuoted
where
  /-- The characters up to a double quote. -/
  doubleQuoted : (fuel : Nat) → ByteText → Reading ByteText
    | 0, found => return found.reverse
    | fuel + 1, found => do
      match ← char? with
      | none => fail "Unterminated quoted string"
      | some '"' => return found.reverse
      | some '\\' =>
        match ← rawChar? with
        | none => fail "Unterminated quoted string"
        | some c =>
          doubleQuoted fuel (if Scope.quoted.protects c then c :: found else c :: '\\' :: found)
      | some c =>
        if c = '\n' then countLine
        doubleQuoted fuel (c :: found)

/-- The text up to a mark, as it is. -/
def literalText (owed : OwedText) : (fuel : Nat) → List ByteText → Reading ByteText
  | 0, lines => return lines.reverse.flatten
  | fuel + 1, lines => do
    if ← atMark owed then return lines.reverse.flatten
    let cursor ← get
    if cursor.rest.isEmpty then return lines.reverse.flatten
    let line := cursor.rest.takeWhile (· ≠ '\n')
    match cursor.rest.drop line.length with
    | '\n' :: rest =>
      set { cursor with rest := rest, line := cursor.line + 1 }
      literalText owed fuel ((line ++ ['\n']) :: lines)
    | rest =>
      set { cursor with rest := rest }
      return (line :: lines).reverse.flatten

/-- Reads a text that is owed. -/
def owedText (readCommand : CommandReader) (owed : OwedText) : Reading Word := do
  if owed.isLiteral then return [.text true (← literalText owed limit [])]
  else if ← atMark owed then return []
  else
    let before := (← get).isInText
    modify fun cursor => { cursor with isInText := true }
    let word ← pieces readCommand limit (.document owed) []
    modify fun cursor => { cursor with isInText := before }
    return word

/-- Reads all texts that are owed. -/
def owedTexts (readCommand : CommandReader) : Reading Unit := do
  let owed := (← get).owed
  modify fun cursor => { cursor with owed := [] }
  for one in owed do
    let text ← owedText readCommand one
    modify fun cursor => { cursor with texts := (one.number, text) :: cursor.texts }

end Reading

end CopyOracle.Shell
