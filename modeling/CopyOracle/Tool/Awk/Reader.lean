import CopyOracle.Regex.Reader
import CopyOracle.Tool.Awk.Token

/-!
# Reading programs for records

Expressions are read by precedence: from the choice by a condition down to values, which may be
changed on the spot. Two values side by side are joined.
-/
namespace CopyOracle.Tool.Awk

/-- Where the reading of a program stands. -/
structure Reading where
  /-- The words left. -/
  tokens : List PlacedToken
  /-- How many braces are open. -/
  depth : Nat := 0
  /-- The functions that are called. -/
  called : List String := []
  /-- The program so far. -/
  code : Code := {}

/-- Reading a part of a program. A fault comes with the number of its line. -/
abbrev Reader := StateT Reading (Except (Nat × Fault))

/-- What surrounds the part that is read. -/
structure Around where
  /-- Whether a sign for greater leads to a file. -/
  hasTarget : Bool := false
  /-- Whether a way back is meaningful. -/
  isFunction : Bool := false
  /-- Whether ways out of loops are meaningful. -/
  isLoop : Bool := false
  /-- Whether a way to the next record is meaningful. -/
  hasRecord : Bool := true

/-- The next word, with its line. -/
def peekPlaced : Reader PlacedToken := return (← get).tokens.headD ⟨.finish, 1, 0⟩

/-- The next word. -/
def peek : Reader Token := return (← peekPlaced).token

/-- Passes the next word. -/
def skip : Reader Unit := modify fun reading => { reading with tokens := reading.tokens.drop 1 }

/-- The program is faulty at the next word. -/
def refuse {α : Type} (fault : Fault) : Reader α := do throw ((← peekPlaced).line, fault)

/-- The next word may not stand here. -/
def unexpected {α : Type} : Reader α := do
  let ⟨token, _, opened⟩ ← peekPlaced
  let isEnd := match token with
    | .lineEnd | .sign ";" | .sign "\x7d" => true
    | _ => false
  if isEnd && 0 < opened then refuse (.missingParenthesis token.shown)
  match token with
  | .finish => refuse (if 0 < (← get).depth then .missingBrace else .syntaxError token.shown)
  | .sign "\x7d" => refuse (if (← get).depth = 0 then .extraBrace else .syntaxError token.shown)
  | .broken fault => refuse fault
  | token => refuse (.syntaxError token.shown)

/-- Whether the next word is a sign. -/
def isSign (sign : String) : Reader Bool := do
  match ← peek with
  | .sign other => return other = sign
  | _ => return false

/-- Passes a sign if it is the next word; says whether it was. -/
def accept (sign : String) : Reader Bool := do
  if ← isSign sign then
    skip
    return true
  else return false

/-- Passes a sign. -/
def expect (sign : String) : Reader Unit := do unless ← accept sign do unexpected

/-- Whether the next word is a word of the language. -/
def isKeyword (word : String) : Reader Bool := do
  match ← peek with
  | .keyword other => return other = word
  | _ => return false

/-- Passes ends of lines. -/
def skipLines : (fuel : Nat) → Reader Unit
  | 0 => return ()
  | fuel + 1 => do
    if let .lineEnd := ← peek then
      skip
      skipLines fuel

/-- Passes ends of lines, however many. -/
def skipAllLines : Reader Unit := do skipLines ((← get).tokens.length + 1)

/-- Passes ends of lines and of statements. -/
def skipEnds : (fuel : Nat) → Reader Unit
  | 0 => return ()
  | fuel + 1 => do
    match ← peek with
    | .lineEnd | .sign ";" =>
      skip
      skipEnds fuel
    | _ => return ()

/-- How expressions in programs are written. -/
def written : Regex.Notation :=
  { isExtended := true, protectsInBrackets := true, hasLetters := false, needsParts := true }

/-- What is wrong with a regular expression. -/
def patternWording : Regex.Fault → String
  | .openGroup => "missing ')'"
  | .openBracket | .emptyBracket | .unknownClass => "bad class -- [], [^] or ["
  | .braces => "bad interval expression"
  | _ => "missing operand"

/-- The regular expression of a text. -/
def finder (source : ByteText) : Reader Regex.Finder := do
  match Regex.read written source with
  | .ok regex => return Regex.finder regex
  | .error fault => refuse (.badPattern (patternWording fault) source)

/-- An expression that a text is to fit, read at once if it is a text itself. -/
def fixed : Expr → Reader Expr
  | .text source => return .pattern (← finder source)
  | other => return other

/-- Whether an expression can be given a value. -/
def Expr.isTarget : Expr → Bool
  | .name _ | .field _ | .element _ _ => true
  | _ => false

/-- The operation of a sign that changes a value. -/
def updateOf? : String → Option (Option Operation)
  | "=" => some none
  | "+=" => some (some .add)
  | "-=" => some (some .subtract)
  | "*=" => some (some .multiply)
  | "/=" => some (some .divide)
  | "%=" => some (some .remainder)
  | "^=" => some (some .power)
  | _ => none

/-- Whether a word begins a value that is joined to the one before. -/
def beginsJoined : Token → Bool
  | .number _ _ | .text _ _ | .pattern _ | .name _ | .called _ => true
  | .sign sign => sign ∈ ["$", "!", "(", "-", "+", "++", "--"] && sign ∉ ["-", "+", "!"]
  | _ => false

/-- The comparison of a sign. -/
def comparisonOf? (around : Around) : String → Option Comparison
  | "<" => some .less
  | "<=" => some .atMost
  | "==" => some .equal
  | "!=" => some .notEqual
  | ">=" => some .atLeast
  | ">" => if around.hasTarget then none else some .greater
  | _ => none

/-- An operation of a sign among some. -/
def operationOf? : String → Option Operation
  | "+" => some .add
  | "-" => some .subtract
  | "*" => some .multiply
  | "/" => some .divide
  | "%" => some .remainder
  | _ => none

mutual

/-- An expression. -/
def expression (around : Around) : (fuel : Nat) → Reader Expr
  | 0 => unexpected
  | fuel + 1 => do
    let condition ← disjunction around fuel
    if ← accept "?" then
      let first ← expression around fuel
      expect ":"
      return .choice condition first (← expression around fuel)
    else return condition

/-- One of several conditions. -/
def disjunction (around : Around) : (fuel : Nat) → Reader Expr
  | 0 => unexpected
  | fuel + 1 => do
    let first ← conjunction around fuel
    if ← accept "||" then
      skipAllLines
      return .either first (← disjunction around fuel)
    else return first

/-- Several conditions. -/
def conjunction (around : Around) : (fuel : Nat) → Reader Expr
  | 0 => unexpected
  | fuel + 1 => do
    let first ← membership around fuel
    if ← accept "&&" then
      skipAllLines
      return .both first (← conjunction around fuel)
    else return first

/-- Whether a table holds something. -/
def membership (around : Around) : (fuel : Nat) → Reader Expr
  | 0 => unexpected
  | fuel + 1 => do moreMembership fuel (← fitting around fuel)

/-- Further questions for what tables hold. -/
def moreMembership : (fuel : Nat) → Expr → Reader Expr
  | 0, first => return first
  | fuel + 1, first => do
    if ← isKeyword "in" then
      skip
      match ← peek with
      | .name table =>
        skip
        let subscripts := match first with
          | .tuple items => items
          | other => [other]
        moreMembership fuel (.contains subscripts table)
      | _ => unexpected
    else return first

/-- Whether a text fits. -/
def fitting (around : Around) : (fuel : Nat) → Reader Expr
  | 0 => unexpected
  | fuel + 1 => do moreFitting around fuel (← comparison around fuel)

/-- Further expressions that a text fits. -/
def moreFitting (around : Around) : (fuel : Nat) → Expr → Reader Expr
  | 0, first => return first
  | fuel + 1, first => do
    if ← accept "~" then
      moreFitting around fuel (.fits false first (← fixed (← comparison around fuel)))
    else if ← accept "!~" then
      moreFitting around fuel (.fits true first (← fixed (← comparison around fuel)))
    else return first

/-- A comparison. -/
def comparison (around : Around) : (fuel : Nat) → Reader Expr
  | 0 => unexpected
  | fuel + 1 => do moreComparison around fuel (← joined around fuel)

/-- Further comparisons. -/
def moreComparison (around : Around) : (fuel : Nat) → Expr → Reader Expr
  | 0, first => return first
  | fuel + 1, first => do
    match ← peek with
    | .sign sign =>
      match comparisonOf? around sign with
      | some found =>
        skip
        moreComparison around fuel (.compare found first (← joined around fuel))
      | none => return first
    | _ => return first

/-- Values side by side. -/
def joined (around : Around) : (fuel : Nat) → Reader Expr
  | 0 => unexpected
  | fuel + 1 => do moreJoined around fuel (← sum around fuel)

/-- Further values side by side. -/
def moreJoined (around : Around) : (fuel : Nat) → Expr → Reader Expr
  | 0, first => return first
  | fuel + 1, first => do
    if beginsJoined (← peek) then
      moreJoined around fuel (.join first (← sum around fuel))
    else return first

/-- A sum. -/
def sum (around : Around) : (fuel : Nat) → Reader Expr
  | 0 => unexpected
  | fuel + 1 => do moreSum around fuel (← product around fuel)

/-- Further parts of a sum. -/
def moreSum (around : Around) : (fuel : Nat) → Expr → Reader Expr
  | 0, first => return first
  | fuel + 1, first => do
    match ← peek with
    | .sign sign =>
      match operationOf? sign with
      | some found =>
        skip
        moreSum around fuel (.operate found first (← product around fuel))
      | none => return first
    | _ => return first

/-- A product. -/
def product (around : Around) : (fuel : Nat) → Reader Expr
  | 0 => unexpected
  | fuel + 1 => do moreProduct around fuel (← signed around fuel)

/-- Further parts of a product. -/
def moreProduct (around : Around) : (fuel : Nat) → Expr → Reader Expr
  | 0, first => return first
  | fuel + 1, first => do
    match ← peek with
    | .sign sign =>
      if sign ∈ ["*", "/", "%"] then
        match operationOf? sign with
        | some found =>
          skip
          moreProduct around fuel (.operate found first (← signed around fuel))
        | none => return first
      else return first
    | _ => return first

/-- A value with signs before it. -/
def signed (around : Around) : (fuel : Nat) → Reader Expr
  | 0 => unexpected
  | fuel + 1 => do
    if ← accept "!" then return .not (← signed around fuel)
    else if ← accept "-" then return .negative (← signed around fuel)
    else if ← accept "+" then return .positive (← signed around fuel)
    else power around fuel

/-- A power. -/
def power (around : Around) : (fuel : Nat) → Reader Expr
  | 0 => unexpected
  | fuel + 1 => do
    let base ← piped around fuel (← changed around fuel)
    if ← accept "^" then return .operate .power base (← signed around fuel)
    else return base

/-- A value that may be a command whose output is read. -/
def piped (around : Around) : (fuel : Nat) → Expr → Reader Expr
  | 0, first => return first
  | fuel + 1, first => do
    match (← get).tokens with
    | ⟨.sign "|", _, _⟩ :: ⟨.keyword "getline", _, _⟩ :: _ =>
      skip
      skip
      piped around fuel (.readCommand first (← target? fuel))
    | _ => return first

/-- What is read into, if something is. -/
def target? : (fuel : Nat) → Reader (Option Expr)
  | 0 => return none
  | fuel + 1 => do
    match ← peek with
    | .name _ | .sign "$" => some <$> value {} fuel
    | _ => return none

/-- A value that may be changed on the spot. -/
def changed (around : Around) : (fuel : Nat) → Reader Expr
  | 0 => unexpected
  | fuel + 1 => do
    if ← accept "++" then return .step true true (← changeable around fuel)
    else if ← accept "--" then return .step false true (← changeable around fuel)
    else
      let first ← value around fuel
      if !first.isTarget then return first
      match ← peek with
      | .sign "++" =>
        skip
        return .step true false first
      | .sign "--" =>
        skip
        return .step false false first
      | .sign sign =>
        match updateOf? sign with
        | some found =>
          skip
          let given ← expression around fuel
          return match found with
            | none => .assign first given
            | some operation => .update operation first given
        | none => return first
      | _ => return first

/-- A value that can be changed. -/
def changeable (around : Around) : (fuel : Nat) → Reader Expr
  | 0 => unexpected
  | fuel + 1 => do
    match ← peek with
    | .name _ | .sign "$" | .sign "(" => value around fuel
    | _ => unexpected

/-- A value. -/
def value (around : Around) : (fuel : Nat) → Reader Expr
  | 0 => unexpected
  | fuel + 1 => do
    let inside : Around := { around with hasTarget := false }
    match ← peek with
    | .number number _ =>
      skip
      return .number number
    | .text text _ =>
      skip
      return .text text
    | .pattern source =>
      let finder ← finder source
      skip
      return .pattern finder
    | .sign "(" =>
      skip
      let items ← expressions inside fuel
      expect ")"
      return match items with
        | [item] => item
        | items => .tuple items
    | .sign "$" =>
      skip
      if ← accept "++" then return .field (.step true true (← value around fuel))
      else if ← accept "--" then return .field (.step false true (← value around fuel))
      else if ← accept "-" then return .field (.negative (← value around fuel))
      else return .field (← value around fuel)
    | .sign "-" =>
      skip
      return .negative (← value around fuel)
    | .sign "+" =>
      skip
      return .positive (← value around fuel)
    | .sign "!" =>
      skip
      return .not (← value around fuel)
    | .keyword "getline" =>
      skip
      let target ← target? fuel
      if ← accept "<" then return .readFile (← value {} fuel) target
      else return .readRecord target
    | .name name =>
      skip
      match Builtin.all.lookup name with
      | some (builtin, least, most) =>
        if (builtin = .length || builtin = .srand || builtin = .rand) && !(← isSign "(") then
          return .builtin builtin []
        else builtinCall around fuel name builtin least most
      | none =>
        if ← accept "[" then
          let subscripts ← expressions inside fuel
          expect "]"
          return .element name subscripts
        else return .name name
    | .called name =>
      skip
      match Builtin.all.lookup name with
      | some (builtin, least, most) => builtinCall around fuel name builtin least most
      | none =>
        expect "("
        let arguments ← if ← isSign ")" then pure [] else expressions inside fuel
        expect ")"
        modify fun reading => { reading with called := name :: reading.called }
        return .call name arguments
    | _ => unexpected

/-- A call of a function of the language. -/
def builtinCall (around : Around) : (fuel : Nat) → (name : String) → Builtin →
    (least most : Nat) → Reader Expr
  | 0, _, _, _, _ => unexpected
  | fuel + 1, name, builtin, least, most => do
    expect "("
    let arguments ← if ← isSign ")" then pure []
      else expressions { around with hasTarget := false } fuel
    unless ← isSign ")" do unexpected
    if arguments.length < least || most < arguments.length then refuse (.argumentCount name)
    skip
    return .builtin builtin arguments

/-- Expressions with commas between them. -/
def expressions (around : Around) : (fuel : Nat) → Reader (List Expr)
  | 0 => unexpected
  | fuel + 1 => do
    let first ← expression around fuel
    if ← accept "," then
      skipAllLines
      return first :: (← expressions around fuel)
    else return [first]

end

/-- Passes the end of a simple statement. -/
def endStatement : Reader Unit := do
  match ← peek with
  | .lineEnd | .sign ";" => skip
  | .sign "\x7d" => return ()
  | _ => unexpected

/-- What is printed and where. -/
def printed (around : Around) (fuel : Nat) :
    Reader (List Expr × Option (OutputKind × Expr)) := do
  let items ← match ← peek with
    | .lineEnd | .sign ";" | .sign "\x7d" | .sign ">" | .sign ">>" | .sign "|" => pure []
    | _ => expressions { around with hasTarget := true } fuel
  let items := match items with
    | [.tuple items] => items
    | items => items
  let target (kind : OutputKind) : Reader (Option (OutputKind × Expr)) := do
    skip
    return some (kind, ← expression around fuel)
  let target ← match ← peek with
    | .sign ">" => target .write
    | .sign ">>" => target .append
    | .sign "|" => target .pipe
    | _ => pure none
  return (items, target)

mutual

/-- A statement. -/
def statement (around : Around) : (fuel : Nat) → Reader Statement
  | 0 => unexpected
  | fuel + 1 => do
    let loop : Around := { around with isLoop := true }
    let condition : Reader Expr := do
      expect "("
      let found ← expression around fuel
      expect ")"
      skipAllLines
      return found
    match ← peek with
    | .sign "\x7b" => block around fuel
    | .sign "\x7d" => return .block []
    | .sign ";" =>
      skip
      return .block []
    | .keyword "if" =>
      skip
      let found ← condition
      let first ← statement around fuel
      let rest := (← get).tokens
      skipAllLines
      if ← isKeyword "else" then
        skip
        skipAllLines
        return .choose found first (← statement around fuel)
      else
        modify fun reading => { reading with tokens := rest }
        return .choose found first (.block [])
    | .keyword "while" =>
      skip
      let found ← condition
      if ← accept ";" then return .loop found (.block [])
      else return .loop found (← statement loop fuel)
    | .keyword "do" =>
      skip
      skipAllLines
      let body ← statement loop fuel
      skipAllLines
      unless ← isKeyword "while" do unexpected
      skip
      expect "("
      let found ← expression around fuel
      expect ")"
      endStatement
      return .loopOnce body found
    | .keyword "for" =>
      skip
      expect "("
      match (← get).tokens with
      | ⟨.name name, _, _⟩ :: ⟨.keyword "in", _, _⟩ :: ⟨.name table, _, _⟩ ::
          ⟨.sign ")", _, _⟩ :: rest =>
        modify fun reading => { reading with tokens := rest }
        skipAllLines
        return .forEach name table (← statement loop fuel)
      | _ =>
        let start ← if ← isSign ";" then pure (Statement.block [])
          else Statement.expression <$> expression around fuel
        expect ";"
        skipAllLines
        let found ← if ← isSign ";" then pure (Expr.number 1.0) else expression around fuel
        expect ";"
        skipAllLines
        let step ← if ← isSign ")" then pure (Statement.block [])
          else Statement.expression <$> expression around fuel
        expect ")"
        skipAllLines
        if ← accept ";" then return .loopFrom start found step (.block [])
        else return .loopFrom start found step (← statement loop fuel)
    | _ =>
      let simple ← simpleStatement around fuel
      endStatement
      return simple

/-- A statement without statements in it. -/
def simpleStatement (around : Around) : (fuel : Nat) → Reader Statement
  | 0 => unexpected
  | fuel + 1 => do
    let optional : Reader (Option Expr) := do
      match ← peek with
      | .lineEnd | .sign ";" | .sign "\x7d" => return none
      | _ => some <$> expression around fuel
    match ← peek with
    | .keyword "print" =>
      skip
      let (items, target) ← printed around fuel
      return .print items target
    | .keyword "printf" =>
      skip
      let (items, target) ← match ← peek with
        | .sign "(" => printed around fuel
        | _ => printed around fuel
      if items.isEmpty then refuse .noFormat
      return .printFormat items target
    | .keyword "next" =>
      if !around.hasRecord then refuse (.strayNext "next")
      skip
      return .next
    | .keyword "nextfile" =>
      if !around.hasRecord then refuse (.strayNext "nextfile")
      skip
      return .nextFile
    | .keyword "break" =>
      if !around.isLoop then refuse .strayBreak
      skip
      return .leaveLoop
    | .keyword "continue" =>
      if !around.isLoop then refuse .strayContinue
      skip
      return .nextTurn
    | .keyword "exit" =>
      skip
      return .exit (← optional)
    | .keyword "return" =>
      if !around.isFunction then refuse .strayReturn
      skip
      return .giveBack (← optional)
    | .keyword "delete" =>
      skip
      match ← peek with
      | .name table =>
        skip
        if ← accept "[" then
          let subscripts ← expressions {} fuel
          expect "]"
          return .delete table subscripts
        else return .deleteAll table
      | _ => unexpected
    | _ => return .expression (← expression around fuel)

/-- Statements in braces. -/
def block (around : Around) : (fuel : Nat) → Reader Statement
  | 0 => unexpected
  | fuel + 1 => do
    expect "\x7b"
    modify fun reading => { reading with depth := reading.depth + 1 }
    let body ← statements around fuel
    modify fun reading => { reading with depth := reading.depth - 1 }
    return .block body

/-- Statements up to a closing brace. -/
def statements (around : Around) : (fuel : Nat) → Reader (List Statement)
  | 0 => unexpected
  | fuel + 1 => do
    skipEnds ((← get).tokens.length + 1)
    if ← accept "\x7d" then return []
    else
      let first ← statement around fuel
      return first :: (← statements around fuel)

end

/-- The names of arguments up to a closing parenthesis. -/
def parameters : (fuel : Nat) → Reader (List String)
  | 0 => unexpected
  | fuel + 1 => do
    match ← peek with
    | .name name =>
      skip
      if ← accept "," then
        skipAllLines
        return name :: (← parameters fuel)
      else
        expect ")"
        return [name]
    | .sign ")" =>
      skip
      return []
    | _ => unexpected

/-- Adds a rule. -/
def addRule (condition : Condition) (body : Statement) : Reader Unit :=
  modify fun reading =>
    { reading with
      code := { reading.code with rules := reading.code.rules ++ [⟨condition, body⟩] } }

/-- A rule or a function. -/
def item (fuel : Nat) : Reader Unit := do
  match ← peek with
  | .keyword "BEGIN" =>
    skip
    addRule .begin (← block { hasRecord := false } fuel)
  | .keyword "END" =>
    skip
    addRule .finish (← block { hasRecord := false } fuel)
  | .keyword "function" =>
    skip
    match ← peek with
    | .name name | .called name =>
      if (isThere name (← get)) then refuse (.secondFunction name)
      skip
      expect "("
      let parameters ← parameters fuel
      skipAllLines
      modify fun reading =>
        { reading with
          code := { reading.code with
            functions := (name, ⟨parameters, .block []⟩) :: reading.code.functions } }
      let body ← block { isFunction := true, hasRecord := false } fuel
      modify fun reading =>
        { reading with
          code := { reading.code with
            functions := (name, ⟨parameters, body⟩) ::
              reading.code.functions.filter fun (other, _) => other ≠ name } }
    | _ => unexpected
  | .sign "\x7b" => addRule .always (← block {} fuel)
  | _ =>
    let first ← expression {} fuel
    let condition ← if ← accept "," then do
        skipAllLines
        pure (Condition.between first (← expression {} fuel))
      else pure (Condition.when first)
    if ← isSign "\x7b" then addRule condition (← block {} fuel)
    else
      match ← peek with
      | .lineEnd | .sign ";" | .finish => pure ()
      | _ => unexpected
      addRule condition (.print [] none)
where
  /-- Whether a function is there. -/
  isThere (name : String) (reading : Reading) : Bool :=
    (reading.code.functions.lookup name).isSome

/-- The rules and functions of a program. -/
def items : (fuel : Nat) → Reader Unit
  | 0 => return ()
  | fuel + 1 => do
    skipAllLines
    match ← peek with
    | .finish => return ()
    | _ =>
      item ((← get).tokens.length * 20 + 100)
      let _ ← accept ";"
      items fuel

/-- Reads a program. -/
def read (text : ByteText) : Except (Nat × Fault) Code := do
  let text := text ++ ['\n']
  let tokens := Token.ofText (text.length + 1) 1 0 .lineEnd text
  let ((), reading) ← (items (tokens.length + 1)).run { tokens }
  match reading.called.reverse.find? fun name => (reading.code.functions.lookup name).isNone with
  | some name => throw ((reading.tokens.headD ⟨.finish, 1, 0⟩).line, .unknownFunction name)
  | none => return reading.code

end CopyOracle.Tool.Awk
