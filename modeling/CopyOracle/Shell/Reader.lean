import CopyOracle.Shell.WordReader

/-!
# Reading commands

A script is read a line at a time: the commands of a line are run before the next line is read. A
command that holds others goes on over as many lines as it needs. What is read depends on the
aliases that are set by then.
-/
namespace CopyOracle.Shell

/-- What the next token may be besides a word or a sign. -/
structure Expectation where
  /-- Whether line ends are passed over. -/
  passesLines : Bool := false
  /-- Whether it may be a word of the language. -/
  hasKeywords : Bool := false
  /-- Whether it may be an alias. -/
  hasAliases : Bool := false

namespace Expectation

/-- A command, perhaps on a later line. -/
def command : Expectation := ⟨true, true, true⟩

/-- A command on the same line. -/
def onLine : Expectation := ⟨false, true, true⟩

end Expectation

/-- Which commands are read as a list. -/
inductive ListKind where
  /-- Those of a line. -/
  | line
  /-- Those of a part of a command; there must be one. -/
  | body
  /-- Those of a branch; there may be none. -/
  | optional
  /-- Those of a substituted command; there may be none. -/
  | substituted
deriving DecidableEq, Repr

/-- Reads a list of commands. -/
abbrev ListReader := ListKind → Reading (Option Command)

namespace Reading

/-- The signs that begin a longer one. -/
def longerSign? : Char → Option String
  | '&' => some "&&"
  | '|' => some "||"
  | ';' => some ";;"
  | _ => none

/-- The arrow after its first character. -/
def arrow (isOutput : Bool) : Reading Arrow := do
  if isOutput then
    if ← passChar '>' then return .file .append
    else if ← passChar '|' then return .file .replace
    else if ← passChar '&' then return .same
    else return .file .write
  else if ← passChar '<' then return .here (← passChar '-')
  else if ← passChar '&' then return .same
  else if ← passChar '>' then return .file .update
  else return .file .read

/-- The token that starts here: a redirection or a word. -/
def wordToken (reader : CommandReader) : Reading Token := do
  let word ← pieces reader limit .bare []
  let number? := match word with
    | [] => some none
    | [.text false [c]] => if c.isDigit then some (some (c.toNat - '0'.toNat)) else none
    | _ => none
  match number?, (← get).rest with
  | some number, c :: rest =>
    if c = '<' || c = '>' then
      modify fun cursor => { cursor with rest := rest }
      return .redirection (number.getD (if c = '>' then 1 else 0)) (← arrow (c = '>'))
    else return .word word
  | _, _ => return .word word

/-- Passes the rest of a line. -/
def passComment : Reading Unit :=
  modify fun cursor => { cursor with rest := cursor.rest.dropWhile (· ≠ '\n') }

/-- The next token as it stands there. -/
def rawToken (reader : CommandReader) : (fuel : Nat) → Reading Token
  | 0 => return .endOfFile
  | fuel + 1 => do
    leaveAliases
    match ← char? with
    | none => return .endOfFile
    | some c =>
      match c with
      | ' ' | '\t' => rawToken reader fuel
      | '#' =>
        passComment
        rawToken reader fuel
      | '\n' =>
        countLine
        return .newline
      | '(' | ')' => return .sign (.singleton c)
      | _ =>
        match longerSign? c with
        | some sign => return .sign (if ← passChar c then sign else .singleton c)
        | none =>
          putBack c
          wordToken reader

/-- The next token, as it is expected. -/
def token (reader : CommandReader) (expected : Expectation) : (fuel : Nat) → Reading Token
  | 0 => return .endOfFile
  | fuel + 1 => do
    let cursor ← get
    let found ← match cursor.held with
      | some held =>
        set { cursor with held := none }
        pure held
      | none => rawToken reader limit
    match found with
    | .newline =>
      if expected.passesLines then
        owedTexts reader
        token reader expected fuel
      else return found
    | .word word =>
      let cursor ← get
      let hasAliases := expected.hasAliases || cursor.wantsAlias
      set { cursor with wantsAlias := false }
      match plain? word with
      | none => return found
      | some text =>
        match if expected.hasKeywords then Keyword.ofText? text else none with
        | some keyword => return .keyword keyword
        | none =>
          match if hasAliases then cursor.aliases.lookup text else none with
          | some value =>
            if cursor.inUse.any fun (name, _) => name = text then return found
            else
              modify fun cursor =>
                { cursor with
                  rest := value ++ cursor.rest
                  inUse := (text, cursor.rest.length) :: cursor.inUse }
              token reader expected fuel
          | none => return found
    | _ => return found

/-- The next token, where nothing special is expected. -/
def anyToken (reader : CommandReader) : Reading Token := token reader {} limit

/-- Passes a word of the language, which must be next. -/
def keyword (reader : CommandReader) (wanted : Keyword) (expected : Expectation := {}) :
    Reading Unit := do
  let found ← token reader expected limit
  unless found.isKeyword wanted do unexpectedFor (.keyword wanted) found

/-- The rest of a redirection that has begun. -/
def redirection (reader : CommandReader) (descriptor : Nat) (arrow : Arrow) :
    Reading Redirection := do
  match arrow with
  | .here stripsTabs =>
    passBlanks limit
    match (← get).rest with
    | [] => unexpected .endOfFile
    | c :: _ =>
      if endsWord c then unexpected (← anyToken reader)
      else
        let (mark, isLiteral) ← markText limit [] false
        let number := (← get).nextText
        modify fun cursor =>
          { cursor with
            nextText := number + 1
            owed := cursor.owed ++ [⟨number, mark, isLiteral, stripsTabs⟩] }
        return .lead descriptor (.here number)
  | .file access =>
    match ← anyToken reader with
    | .word word => return .lead descriptor (.file access word)
    | other => unexpected other
  | .same =>
    match ← anyToken reader with
    | .word word => return .lead descriptor (.same word)
    | other => unexpected other
where
  /-- Passes blanks. -/
  passBlanks : (fuel : Nat) → Reading Unit
    | 0 => return ()
    | fuel + 1 => do
      match ← char? with
      | some ' ' | some '\t' => passBlanks fuel
      | some c => putBack c
      | none => return ()

/-- The redirections that are next. -/
def redirections (reader : CommandReader) (expected : Expectation) : (fuel : Nat) →
    Reading (List Redirection)
  | 0 => return []
  | fuel + 1 => do
    match ← token reader expected limit with
    | .redirection descriptor arrow =>
      let first ← redirection reader descriptor arrow
      return first :: (← redirections reader {} fuel)
    | other =>
      hold other
      return []

/-- The parts of a simple command, the last ones first. -/
structure Parts where
  /-- The assignments in front. -/
  assignments : List Word := []
  /-- The words. -/
  words : List Word := []
  /-- The redirections. -/
  redirections : List Redirection := []

/-- The names of commands that cannot be given to a function. -/
def reservedNames : List String :=
  ["break", "continue", "eval", "exec", "exit", "export", "readonly", "return", "set", "shift",
    "times", "trap", "unset"]

/-- Whether a function may have a name. -/
def isFunctionName (name : ByteText) : Bool :=
  isName name && !reservedNames.contains (String.ofList name)

/-- A simple command, or a function if a parenthesis follows its only word. -/
def simple (reader : CommandReader) (body : Expectation → Reading Command) (line : Nat) :
    (fuel : Nat) → Parts → Reading Command
  | 0, parts => finish parts
  | fuel + 1, parts => do
    let isFirst := parts.words.isEmpty
    match ← token reader { hasAliases := isFirst } limit with
    | .word word =>
      if isFirst && isAssignment word then
        simple reader body line fuel { parts with assignments := word :: parts.assignments }
      else simple reader body line fuel { parts with words := word :: parts.words }
    | .redirection descriptor arrow =>
      let one ← redirection reader descriptor arrow
      simple reader body line fuel { parts with redirections := one :: parts.redirections }
    | other =>
      match other.isSign "(", parts with
      | true, ⟨[], [word], []⟩ =>
        let closing ← anyToken reader
        unless closing.isSign ")" do unexpectedFor (.sign ")") closing
        match (plain? word).filter isFunctionName with
        | none => fail "Bad function name"
        | some name =>
          let line := (← get).line
          return .define line name (← body .command)
      | _, _ =>
        hold other
        finish parts
where
  /-- The command of its parts. -/
  finish (parts : Parts) : Reading Command :=
    return .simple line parts.assignments.reverse parts.words.reverse parts.redirections.reverse

/-- The list of commands that is a part of another. -/
def body (readList : ListReader) : Reading Command := do
  return (← readList .body).getD (.simple 0 [] [] [])

/-- The branches after a condition, up to the end of the command. -/
def branches (reader : CommandReader) (readList : ListReader) : (fuel : Nat) → Reading Command
  | 0 => fail "too many branches"
  | fuel + 1 => do
    let condition ← body readList
    keyword reader .branchBody
    let first ← body readList
    match ← anyToken reader with
    | .keyword .elseIf => return .branch condition first (some (← branches reader readList fuel))
    | .keyword .otherwise => return .branch condition first (some (← body readList))
    | other =>
      hold other
      return .branch condition first none

/-- The words of a repetition up to the end of the line or a semicolon. -/
def wordsToEnd (reader : CommandReader) : (fuel : Nat) → List Word → Reading (List Word)
  | 0, found => return found.reverse
  | fuel + 1, found => do
    match ← anyToken reader with
    | .word word => wordsToEnd reader fuel (word :: found)
    | .newline =>
      owedTexts reader
      return found.reverse
    | other => if other.isSign ";" then return found.reverse else unexpected other

/-- A repetition over words. -/
def each (reader : CommandReader) (readList : ListReader) (line : Nat) : Reading Command := do
  let name ← match ← anyToken reader with
    | .word word =>
      match (plain? word).filter isName with
      | some name => pure name
      | none => fail "Bad for loop variable"
    | _ => fail "Bad for loop variable"
  let next ← token reader .command limit
  let words ← if next.isKeyword .among then wordsToEnd reader limit [] else do
    unless next.isSign ";" do hold next
    pure [[.parameter true ['@'] .value false []]]
  keyword reader .loopBody .command
  return .each line name words (← body readList)

/-- The patterns of a branch after the first token, up to the parenthesis. -/
def patterns (reader : CommandReader) : (fuel : Nat) → Token → List Word → Reading (List Word)
  | 0, _, found => return found.reverse
  | fuel + 1, first, found => do
    let word ← match first with
      | .word word => pure word
      | .keyword keyword => pure [.text false keyword.text.toList]
      | other => unexpectedFor (.sign ")") other
    let next ← anyToken reader
    if next.isSign "|" then patterns reader fuel (← anyToken reader) (word :: found)
    else if next.isSign ")" then return (word :: found).reverse
    else unexpectedFor (.sign ")") next

/-- The branches of a choice, up to its end. -/
def choices (reader : CommandReader) (readList : ListReader) : (fuel : Nat) →
    List (List Word × Option Command) → Reading (List (List Word × Option Command))
  | 0, found => return found.reverse
  | fuel + 1, found => do
    let start : Expectation := { passesLines := true, hasKeywords := true }
    let first ← token reader start limit
    if first.isKeyword .choiceEnd then return found.reverse
    let first ← if first.isSign "(" then anyToken reader else pure first
    let patterns ← patterns reader limit first []
    let body ← readList .optional
    let found := (patterns, body) :: found
    let next ← token reader start limit
    if next.isKeyword .choiceEnd then return found.reverse
    else if next.isSign ";;" then choices reader readList fuel found
    else unexpectedFor (.sign ";;") next

/-- A command with the redirections after it. -/
def withRedirections (reader : CommandReader) (line : Nat) (command : Command) :
    Reading Command := do
  let found ← redirections reader .onLine limit
  match command, found with
  | command, [] => return command
  | .subshell line body _, found => return .subshell line body found
  | command, found => return .redirected line command found

/-- A command of any kind. -/
def command (reader : CommandReader) (readList : ListReader) : (depth : Nat) → Expectation →
    Reading Command
  | 0, _ => fail "too many commands"
  | depth + 1, expected => do
    let first ← token reader expected limit
    let line := (← get).line
    let finish := withRedirections reader line
    match first with
    | .keyword .branch =>
      let found ← branches reader readList limit
      keyword reader .branchEnd
      finish found
    | .keyword .whileLoop | .keyword .untilLoop =>
      let condition ← body readList
      keyword reader .loopBody
      let repeated ← body readList
      keyword reader .loopEnd
      finish (.repeated (first.isKeyword .untilLoop) condition repeated)
    | .keyword .each =>
      let found ← each reader readList line
      keyword reader .loopEnd
      finish found
    | .keyword .choice =>
      match ← anyToken reader with
      | .word subject =>
        keyword reader .among .command
        finish (.choose line subject (← choices reader readList limit []))
      | other => unexpectedFor (.word []) other
    | .keyword .groupStart =>
      let found ← body readList
      keyword reader .groupEnd
      finish found
    | .word _ | .redirection _ _ =>
      hold first
      simple reader (command reader readList depth) line limit {}
    | _ =>
      if first.isSign "(" then
        let found ← body readList
        let closing ← anyToken reader
        unless closing.isSign ")" do unexpectedFor (.sign ")") closing
        finish (.subshell line found [])
      else unexpected first

/-- The later stages of a pipeline. -/
def stages (reader : CommandReader) (readList : ListReader) : (fuel : Nat) → List Command →
    Reading (List Command)
  | 0, found => return found.reverse
  | fuel + 1, found => do
    let next ← anyToken reader
    if next.isSign "|" then
      let stage ← command reader readList limit .command
      stages reader readList fuel (stage :: found)
    else
      hold next
      return found.reverse

/-- Commands joined by pipes, or a single one. -/
def pipeline (reader : CommandReader) (readList : ListReader) (expected : Expectation) :
    Reading Command := do
  let first ← token reader expected limit
  let isNegated := first.isKeyword .negation
  unless isNegated do hold first
  let start ← command reader readList limit (if isNegated then .onLine else {})
  let joined ← stages reader readList limit [start]
  let found := match joined with
    | [one] => one
    | several => .pipeline several false
  return if isNegated then .negated found else found

/-- Pipelines of which a later one is run only if those before succeed, or fail. -/
def chain (reader : CommandReader) (readList : ListReader) : (fuel : Nat) → Command →
    Reading Command
  | 0, first => return first
  | fuel + 1, first => do
    let next ← anyToken reader
    if next.isSign "&&" then
      chain reader readList fuel (.both first (← pipeline reader readList .command))
    else if next.isSign "||" then
      chain reader readList fuel (.either first (← pipeline reader readList .command))
    else
      hold next
      return first

/-- A command that is not waited for. -/
def inBackground (line : Nat) : Command → Command
  | .pipeline stages _ => .pipeline stages true
  | .redirected line body redirections => .background line body redirections
  | other => .background line other []

/-- The commands of a list after those found. -/
def statements (reader : CommandReader) (readList : ListReader) (kind : ListKind) :
    (fuel : Nat) → Option Command → Reading (Option Command)
  | 0, found => return found
  | fuel + 1, found => do
    let passesLines := kind ≠ .line
    let first ← token reader { Expectation.onLine with passesLines } limit
    match first with
    | .newline =>
      owedTexts reader
      return found
    | .endOfFile =>
      owedTexts reader
      hold first
      return found
    | _ =>
      hold first
      let mayEnd := match kind with
        | .line => false
        | .body => found.isSome
        | .optional | .substituted => true
      if mayEnd && first.endsList then return found
      let line := (← get).line
      let one ← chain reader readList limit (← pipeline reader readList {})
      let next ← anyToken reader
      let one := if next.isSign "&" then inBackground line one else one
      let found := match found with
        | some before => some (.sequence before one)
        | none => some one
      match next with
      | .endOfFile =>
        owedTexts reader
        hold next
        return found
      | .newline =>
        hold next
        statements reader readList kind fuel found
      | _ =>
        if next.isSign "&" || next.isSign ";" then statements reader readList kind fuel found
        else if kind = .line then unexpected next
        else
          hold next
          return found

/-- A substituted command, after the sign that begins it. -/
def substituted (readList : ListReader) : CommandReader := fun isOlder => do
  let before ← get
  set { before with owed := [], isInText := false }
  let body ← readList .substituted
  let cursor ← get
  set { cursor with held := none, owed := before.owed, isInText := before.isInText }
  let closing := cursor.held.getD .endOfFile
  unless isOlder || closing.isSign ")" do unexpectedFor (.sign ")") closing
  return body

/-- A list of commands, nested to a depth. -/
def list : (depth : Nat) → ListReader
  | 0, _ => fail "too many commands in one another"
  | depth + 1, kind => do
    let reader := substituted (list depth)
    let found ← statements reader (list depth) kind limit none
    if kind = .substituted then
      let held := (← get).held
      modify fun cursor => { cursor with held := none }
      owedTexts reader
      modify fun cursor => { cursor with held := held }
    return found

/-- How deep commands may be nested in one another. -/
def depth : Nat := 10000

/-- What the next line of a script holds. -/
inductive Line where
  /-- The script ends before it. -/
  | none
  /-- Perhaps a command; and whether the script ends with it. -/
  | some (command : Option Command) (isLast : Bool)

/-- The commands of the next line. -/
def line : Reading Line := do
  modify fun cursor => { cursor with held := none, owed := [] }
  let found ← list depth .line
  match found, (← get).held with
  | none, some .endOfFile => return .none
  | found, some .endOfFile => return .some found true
  | found, _ => return .some found false

/-- A text that is read up to its end like one in a script: no line of it is a mark. -/
def freeText : Reading Word :=
  owedText (substituted (list depth)) { mark := ['\n'], isLiteral := false }

end Reading

end CopyOracle.Shell
