import CopyOracle.Shell.Arithmetic
import CopyOracle.Shell.Context
import CopyOracle.Shell.Pattern

/-!
# Expansion of words

A word is expanded to fields: parameters, commands and expressions are replaced by their values,
unquoted values are split at the separators, and fields that are patterns become the names of the
files that fit. A quoted list of all arguments gives one field for each of them.
-/
namespace CopyOracle.Shell

/-- A part of an expanded word. -/
inductive Expanded where
  /-- A character that is not split at. -/
  | glyph (glyph : Glyph)
  /-- A character of an unquoted value. -/
  | loose (char : Char)
  /-- The beginning of an unquoted value. -/
  | edge
  /-- Quotes, which make a field even of nothing. -/
  | quotes
  /-- The end of an argument in the list of all, which makes a field even of nothing if it is
  quoted. -/
  | boundary (isQuoted : Bool)
deriving DecidableEq

namespace Expanded

/-- A value, quoted or not. -/
def ofValue (isQuoted : Bool) (value : ByteText) : List Expanded :=
  if isQuoted then value.map fun c => .glyph ⟨c, false⟩
  else .edge :: value.map .loose

/-- The glyphs of an expanded word that is not split. -/
def glyphs (word : List Expanded) : List Glyph :=
  word.filterMap fun part => match part with
    | .glyph found => some found
    | .loose c => some ⟨c, true⟩
    | .edge | .quotes | .boundary _ => none

/-- The text of an expanded word that is not split. -/
def text (word : List Expanded) : ByteText := glyphText (glyphs word)

/-- The fields made so far: the current one and those before it, all reversed. -/
structure Splitting where
  /-- The current field. -/
  current : Option (List Glyph) := none
  /-- The fields before it. -/
  done : List (List Glyph) := []
  /-- Whether blanks ended the last field, so that one other separator is part of its end. -/
  isAfterBlank : Bool := false

namespace Splitting

/-- The splitting with the current field ended. -/
def finish (splitting : Splitting) (isAfterBlank : Bool) : Splitting :=
  match splitting.current with
  | some field => ⟨none, field.reverse :: splitting.done, isAfterBlank⟩
  | none => splitting

/-- The splitting with one more character in the current field. -/
def add (splitting : Splitting) (glyph : Glyph) : Splitting :=
  ⟨some (glyph :: splitting.current.getD []), splitting.done, false⟩

/-- The splitting after one more part. -/
def step (separators : ByteText) (splitting : Splitting) : Expanded → Splitting
  | .glyph found => splitting.add found
  | .loose c =>
    if separators.contains c then
      if c = ' ' || c = '\t' || c = '\n' then splitting.finish true
      else if splitting.current.isSome then splitting.finish false
      else if splitting.isAfterBlank then { splitting with isAfterBlank := false }
      else { splitting with done := [] :: splitting.done }
    else splitting.add ⟨c, true⟩
  | .edge => { splitting with isAfterBlank := false }
  | .quotes => { splitting with current := some (splitting.current.getD []) }
  | .boundary isQuoted =>
    if isQuoted then { splitting with current := some (splitting.current.getD []) }.finish false
    else splitting.finish true

end Splitting

/-- The fields of an expanded word. -/
def fields (separators : ByteText) (word : List Expanded) : List (List Glyph) :=
  ((word.foldl (Splitting.step separators) {}).finish false).done.reverse

end Expanded

namespace Execution

/-- The options of the shell by their letters, in the order in which they are listed. -/
def optionLetters : List Char :=
  ['u', 'b', 'a', 'C', 'E', 'V', 'v', 'x', 's', 'n', 'm', 'i', 'I', 'f', 'e']

/-- The value of a parameter that is not the list of all arguments. -/
def parameter? (name : ByteText) : Execution (Option ByteText) := do
  let context ← get
  match name with
  | ['#'] => return some (Numeral.digits context.arguments.length)
  | ['?'] => return some (Numeral.digits context.status)
  | ['-'] => return some (optionLetters.filter context.options.contains)
  | ['$'] => return some (Numeral.digits context.number)
  | ['!'] => return context.lastBackground.map Numeral.digits
  | c :: _ =>
    if c.isDigit then
      match Nat.ofDigitChars 10 name 0 with
      | 0 => return some context.title
      | number + 1 => return context.arguments[number]?
    else storedValue? name
  | [] => return none

/-- What stands between arguments that are joined. -/
def joint : Execution ByteText := do
  match ← storedValue? "IFS".toList with
  | some (c :: _) => return [c]
  | some [] => return []
  | none => return [' ']

/-- The list of all arguments. In fields it is a list, unless a star joins it in quotes; as one
text it is joined. -/
def allArguments (isFull isQuoted isStar : Bool) (arguments : List ByteText) :
    Execution (List Expanded) := do
  if isFull && !(isQuoted && isStar) then
    let spread := [Expanded.boundary isQuoted].intercalate
      (arguments.map (Expanded.ofValue isQuoted))
    return if isQuoted && !arguments.isEmpty then spread ++ [.quotes] else spread
  else return Expanded.ofValue isQuoted ((← joint).intercalate arguments)

/-- The value without its shortest or longest front that fits a pattern. -/
def withoutFront (isLongest : Bool) (pattern : Pattern) (value : ByteText) : ByteText :=
  let lengths := List.range (value.length + 1)
  match (if isLongest then lengths.reverse else lengths).find? fun length =>
    pattern.fits (value.take length) with
  | some length => value.drop length
  | none => value

/-- The value without its shortest or longest end that fits a pattern. -/
def withoutEnd (isLongest : Bool) (pattern : Pattern) (value : ByteText) : ByteText :=
  let lengths := List.range (value.length + 1)
  match (if isLongest then lengths else lengths.reverse).find? fun length =>
    pattern.fits (value.drop length) with
  | some length => value.take length
  | none => value

/-- The value of an arithmetic expression, in which parameters were expanded. -/
def valueOfExpression (expression : ByteText) : Execution ByteText := do
  let context ← get
  let lookup (name : ByteText) : Option ByteText :=
    (context.bindings.lookup name).bind Variable.value
  match Arithmetic.evaluate lookup expression with
  | .ok (value, assigned) =>
    for (name, value) in assigned do assign name value
    return Arithmetic.write value
  | .error (.badNumber text) => fail ("Illegal number: ".toList ++ text)
  | .error .overflow =>
    let _ ← call (.signal context.number 8)
    quit 136
  | .error (.malformed wording) => refuse wording
  | .error .divisionByZero => refuse "division by zero"
where
  /-- Refuses the expression. -/
  refuse (wording : String) : Execution ByteText :=
    fail (s!"arithmetic expression: {wording}: \"".toList ++ expression ++ ['"'])

/-- The directory of a user. -/
def homeOf? (user : ByteText) : Execution (Option ByteText) := do
  if user.isEmpty then return (← storedValue? "HOME".toList).filter fun home => !home.isEmpty
  else return if user = "root".toList then some "/root".toList else none

/-- The characters of a user name after a tilde. -/
def userAfter (endsAtColon : Bool) (text : ByteText) : ByteText :=
  text.takeWhile fun c => c ≠ '/' && !(endsAtColon && c = ':')

/-- Unquoted text with the tilde in front replaced, where nothing but the text says whose home it
is. -/
def expandTilde (endsAtColon isWhole : Bool) (text : ByteText) : Execution (List Expanded) := do
  let plain (text : ByteText) : List Expanded := text.map fun c => .glyph ⟨c, true⟩
  match text with
  | '~' :: rest =>
    let user := userAfter endsAtColon rest
    let later := rest.drop user.length
    if later.isEmpty && !isWhole then return plain text
    match ← homeOf? user with
    | some home => return home.map (fun c => .glyph ⟨c, false⟩) ++ plain later
    | none => return plain text
  | _ => return plain text

/-- Unquoted text of an assignment: a tilde is replaced at the front of each part. -/
def expandTildes (isWhole : Bool) (text : ByteText) : Execution (List Expanded) := do
  let parts := text.splitOn ':'
  let expanded ← parts.zipIdx.mapM fun (part, i) =>
    expandTilde true (isWhole || i + 1 < parts.length) part
  return [Expanded.glyph ⟨':', true⟩].intercalate expanded

/-- Where a tilde is replaced by a directory. -/
inductive TildePlace where
  /-- Nowhere. -/
  | nowhere
  /-- At the front of the word. -/
  | front
  /-- In the value of an assignment, at the front of each part. -/
  | assignment
deriving DecidableEq, Repr

/-- How a word is expanded. -/
structure Manner where
  /-- Whether it is split into fields. -/
  isFull : Bool := false
  /-- Where tildes are replaced. -/
  tilde : TildePlace := .nowhere
  /-- Whether its unquoted text is split, too. -/
  isOperand : Bool := false

/-- Unquoted text of a word. -/
def expandText (manner : Manner) (isFirst isLast : Bool) (text : ByteText) :
    Execution (List Expanded) := do
  let found ← match manner.tilde with
    | .nowhere => pure (text.map fun c => Expanded.glyph ⟨c, true⟩)
    | .front =>
      if isFirst then expandTilde false isLast text
      else pure (text.map fun c => .glyph ⟨c, true⟩)
    | .assignment =>
      let name := if isFirst then text.takeWhile (· ≠ '=') else []
      match text.drop name.length with
      | '=' :: value =>
        if isFirst then
          pure ((name ++ ['=']).map (fun c => .glyph ⟨c, true⟩) ++ (← expandTildes isLast value))
        else laterParts text
      | _ => laterParts text
  if manner.isOperand then
    return .edge :: found.map fun part => match part with
      | .glyph ⟨c, true⟩ => .loose c
      | other => other
  else return found
where
  /-- Text that does not begin the value: only parts after a colon can begin with a tilde. -/
  laterParts (text : ByteText) : Execution (List Expanded) := do
    let parts := text.splitOn ':'
    let expanded ← parts.zipIdx.mapM fun (part, i) =>
      if i = 0 then pure (part.map fun c => Expanded.glyph ⟨c, true⟩)
      else expandTilde true (isLast || i + 1 < parts.length) part
    return [Expanded.glyph ⟨':', true⟩].intercalate expanded

/-- The output of a command, without the line ends at its end. -/
abbrev Capturing := Command → Execution ByteText

/-- What is known of a parameter. -/
structure Found where
  /-- Its value, expanded. -/
  value : List Expanded
  /-- Its text, if it is set. -/
  text : Option ByteText
  /-- The length of its text. -/
  length : Nat

/-- Looks a parameter up. -/
def lookUp (manner : Manner) (isQuoted : Bool) (name : ByteText) : Execution Found := do
  if name = ['@'] || name = ['*'] then
    let arguments ← ask Context.arguments
    let value ← allArguments manner.isFull isQuoted (name = ['*']) arguments
    let text := (← joint).intercalate arguments
    let gaps := arguments.length - 1
    return ⟨value, some text, (arguments.flatten).length + gaps⟩
  else
    let text ← parameter? name
    return ⟨Expanded.ofValue isQuoted (text.getD []), text, (text.getD []).length⟩

/-- Refuses a parameter that is not set. -/
def notSet {α : Type} (name : ByteText) : Execution α := fail (name ++ ": parameter not set".toList)

/-- An expanded value cut at its front or its end; arguments in a list are cut together. -/
def cut (shorten : ByteText → ByteText) (isEnd : Bool) (value : List Expanded) : List Expanded :=
  let text := value.map fun part => match part with
    | .glyph ⟨c, _⟩ | .loose c => c
    | _ => Char.ofNat 0
  let isText (part : Expanded) : Bool := match part with
    | .glyph _ | .loose _ | .boundary _ => true
    | _ => false
  let shown := (value.zip text).filterMap fun (part, c) => if isText part then some c else none
  let removed := shown.length - (shorten shown).length
  let rec dropText (count : Nat) : List Expanded → List Expanded
    | [] => []
    | part :: rest =>
      if count = 0 then part :: rest
      else if isText part then dropText (count - 1) rest else part :: dropText count rest
  if isEnd then (dropText removed value.reverse).reverse else dropText removed value

/-- Expands a word; the depth bounds the words within words. -/
def expand (capture : Capturing) : (depth : Nat) → Manner → Word → Execution (List Expanded)
  | 0, _, _ => return []
  | depth + 1, manner, word => do
    let count := word.length
    let parts ← word.zipIdx.mapM fun (piece, index) => do
      match piece with
      | .text true text =>
        return .quotes :: Expanded.ofValue true text
      | .text false text => expandText manner (index = 0) (index + 1 = count) text
      | .output isQuoted body =>
        match body with
        | none => return []
        | some body => return Expanded.ofValue isQuoted (← capture body)
      | .arithmetic isQuoted expression =>
        let expanded ← expand capture depth {} expression
        return Expanded.ofValue isQuoted (← valueOfExpression (Expanded.text expanded))
      | .parameter isQuoted name operator countsEmpty operand =>
        if operator = .bad then
          fail "Bad substitution".toList
        let found ← lookUp manner isQuoted name
        let isMissing := found.text.isNone || (countsEmpty && found.length = 0)
        let inPlace : Execution (List Expanded) :=
          expand capture depth
            { manner with tilde := .front, isOperand := manner.isFull && !isQuoted } operand
        let demandSet : Execution Unit := do
          if found.text.isNone && (← hasOption 'u') then notSet name
        match operator with
        | .value =>
          demandSet
          return found.value
        | .length =>
          demandSet
          return Expanded.ofValue isQuoted (Numeral.digits found.length)
        | .default => if isMissing then inPlace else return found.value
        | .alternative => if isMissing then return [] else inPlace
        | .assign =>
          if isMissing then
            let text := Expanded.text (← expand capture depth { tilde := .front } operand)
            unless isName name do fail (name ++ ": bad variable name".toList)
            assign name text
            return Expanded.ofValue isQuoted text
          else return found.value
        | .demand =>
          if isMissing then
            let text := Expanded.text (← expand capture depth { tilde := .front } operand)
            match operand with
            | [] => fail (name ++ ": parameter not set".toList ++
                if countsEmpty then " or null".toList else [])
            | _ => fail (name ++ ": ".toList ++ text)
          else return found.value
        | .cutFront isLongest | .cutEnd isLongest =>
          demandSet
          let pattern := Pattern.ofWord
            (Expanded.glyphs (← expand capture depth { tilde := .front } operand))
          let isEnd := match operator with
            | .cutEnd _ => true
            | _ => false
          let shorten := if isEnd then withoutEnd isLongest pattern
            else withoutFront isLongest pattern
          return cut shorten isEnd found.value
        | .bad => return []
    return parts.flatten

/-- How deep words within words are expanded. -/
def wordDepth : Nat := 1000

/-- A word that is one text. -/
def expandOne (capture : Capturing) (word : Word) (tilde : TildePlace := .front) :
    Execution ByteText :=
  return Expanded.text (← expand capture wordDepth { tilde } word)

/-- A word as a pattern. -/
def expandPattern (capture : Capturing) (word : Word) : Execution Pattern :=
  return Pattern.ofWord (Expanded.glyphs (← expand capture wordDepth { tilde := .front } word))

/-- The parts of a field between slashes. -/
def components (field : List Glyph) : List (List Glyph) :=
  field.splitOnP fun glyph => glyph.char = '/'

/-- The paths that fit the parts of a field, below a path that was found. -/
def matching (files : FileTree) : (front : ByteText) → List (List Glyph) → List ByteText
  | front, [] => [front]
  | front, part :: rest =>
    let isLast := rest.isEmpty
    let pattern := Pattern.ofWord part
    let continued (name : ByteText) : List ByteText :=
      matching files (front ++ name ++ if isLast then [] else ['/']) rest
    if pattern.isProper then
      match files.list (if front.isEmpty then "." else ByteText.asString front) with
      | .error _ => []
      | .ok names =>
        let showsHidden := part.head?.map Glyph.char = some '.'
        let names := if showsHidden then "." :: ".." :: names else names
        let found := (names.map ByteText.ofString).filter fun name =>
          pattern.fits name && (name.head? ≠ some '.' || showsHidden) &&
            (isLast || files.isDirectory (ByteText.asString (front ++ name)))
        found.flatMap continued
    else
      let name := glyphText part
      let path := front ++ name
      if isLast && !name.isEmpty && (files.standing? (ByteText.asString path)).isNone then []
      else continued name

/-- The names of the files that fit a field, or the field itself where there is none. -/
def fileNames (field : List Glyph) : Execution (List ByteText) := do
  let isPattern := (components field).any fun part => (Pattern.ofWord part).isProper
  if isPattern && !(← hasOption 'f') then
    let files ← call .files
    let found := matching files [] (components field)
    if found.isEmpty then return [glyphText field]
    else return found.mergeSort ByteText.atMost
  else return [glyphText field]

/-- The fields of a word. -/
def expandFields (capture : Capturing) (word : Word) (tilde : TildePlace := .front) :
    Execution (List ByteText) := do
  let expanded ← expand capture wordDepth { isFull := true, tilde } word
  let fields := Expanded.fields (← separators) expanded
  match fields with
  | [field] => fileNames field
  | _ => return (← fields.mapM fileNames).flatten

end Execution

end CopyOracle.Shell
