import CopyOracle.Regex.Automaton
import CopyOracle.Regex.Reader
import CopyOracle.Tool.Options

/-!
# Expressions in words

Each argument is a word of an expression. Values are texts; operations on numbers ask for texts that
are written like whole numbers. A part that does not count for the result is read but not
worked out.
-/
namespace CopyOracle.Tool

open Host

namespace Expression

/-- Why an expression has no value. -/
inductive Fault where
  /-- A word is missing after another one. -/
  | missing (after : ByteText)
  /-- A word stands where the expression is over. -/
  | unexpected (word : ByteText)
  /-- A parenthesis closes nothing. -/
  | unexpectedClosing
  /-- A closing parenthesis is missing after a word. -/
  | openAfter (word : ByteText)
  /-- Another word stands where a parenthesis was to be closed. -/
  | openBefore (word : ByteText)
  /-- A text is no number. -/
  | noNumber
  /-- Something is divided by zero. -/
  | divisionByZero
  /-- A regular expression cannot be read. -/
  | pattern (fault : Regex.Fault)
deriving DecidableEq, Repr

/-- What is wrong with an expression. -/
def Fault.message : Fault → ByteText
  | .missing word => "syntax error: missing argument after ".toList ++ quoted word
  | .unexpected word => "syntax error: unexpected argument ".toList ++ quoted word
  | .unexpectedClosing => "syntax error: unexpected ')'".toList
  | .openAfter word => "syntax error: expecting ')' after ".toList ++ quoted word
  | .openBefore word => "syntax error: expecting ')' instead of ".toList ++ quoted word
  | .noNumber => "non-integer argument".toList
  | .divisionByZero => "division by zero".toList
  | .pattern fault => fault.message.toList

/-- The words left, and the last one that was passed. -/
structure Reading where
  /-- The words left. -/
  rest : List ByteText
  /-- The last word that was passed. -/
  passed : ByteText := []

/-- Working out a part of an expression. -/
abbrev Reader := StateT Reading (Except Fault)

/-- The number that a text is written like. -/
def integer? (text : ByteText) : Option Int :=
  match text with
  | '-' :: digits => (Numeral.value? digits).map fun value => -(value : Int)
  | digits => (Numeral.value? digits).map fun value => (value : Int)

/-- The number of a text. -/
def integerOf (text : ByteText) : Except Fault Int :=
  match integer? text with
  | some value => .ok value
  | none => .error .noNumber

/-- A number as a text. -/
def textOf (value : Int) : ByteText := (toString value).toList

/-- Whether a value counts as nothing: an empty text or zero. -/
def isNull (text : ByteText) : Bool := text.isEmpty || (integer? text = some 0)

/-- Passes a word if it is the next one. -/
def accept (word : String) : Reader Bool := do
  match (← get).rest with
  | first :: rest =>
    if first = word.toList then
      set (⟨rest, first⟩ : Reading)
      return true
    else return false
  | [] => return false

/-- Passes the first of some words if it is the next one. -/
def acceptOneOf : List String → Reader (Option String)
  | [] => return none
  | word :: words => do if ← accept word then return some word else acceptOneOf words

/-- Passes the next word, which has to be there. -/
def next : Reader ByteText := do
  match (← get).rest with
  | first :: rest =>
    set (⟨rest, first⟩ : Reading)
    return first
  | [] => throw (.missing (← get).passed)

/-- The value of a text that is fitted to an expression from its front on. -/
def fitted (text pattern : ByteText) : Except Fault ByteText := do
  match Regex.read { isExtended := false } pattern with
  | .error fault => throw (.pattern fault)
  | .ok regex =>
    let finder := Regex.finder (.both (.anchor .textStart) regex)
    let hasGroups := 0 < finder.groups
    match finder.search text.toArray with
    | none => return if hasGroups then [] else ['0']
    | some found =>
      if hasGroups then
        match found.group? 1 with
        | some (start, stop) => return (text.take stop).drop start
        | none => return []
      else return Numeral.digits found.stop

/-- Whether two values compare as a sign says. -/
def compares (sign : String) (left right : ByteText) : Bool :=
  let order := match integer? left, integer? right with
    | some a, some b => compare a b
    | _, _ => compare (left.map Char.toNat) (right.map Char.toNat)
  match sign with
  | "<" => order = .lt
  | "<=" => order ≠ .gt
  | "=" | "==" => order = .eq
  | "!=" => order ≠ .eq
  | ">=" => order ≠ .lt
  | _ => order = .gt

/-- The result of a sign between two numbers. -/
def calculated (sign : String) (left right : ByteText) : Except Fault ByteText := do
  let a ← integerOf left
  let b ← integerOf right
  match sign with
  | "+" => return textOf (a + b)
  | "-" => return textOf (a - b)
  | "*" => return textOf (a * b)
  | _ =>
    if b = 0 then throw .divisionByZero
    return textOf (if sign = "/" then Int.tdiv a b else Int.tmod a b)

/-- A part of a text from a place on. -/
def part (text place length : ByteText) : ByteText :=
  match integer? place, integer? length with
  | some place, some length =>
    if place ≤ 0 || length ≤ 0 then [] else (text.drop (place.toNat - 1)).take length.toNat
  | _, _ => []

/-- The signs of the levels of an expression, from the weakest to the strongest. -/
def levels : List (List String) :=
  [["|"], ["&"], ["<=", "<", "==", "=", "!=", ">=", ">"], ["+", "-"], ["*", "/", "%"], [":"]]

/-- The result of a sign between two values. -/
def combined (sign : String) (left right : ByteText) : Except Fault ByteText :=
  match sign with
  | "|" => .ok (if isNull left then if isNull right then ['0'] else right else left)
  | "&" => .ok (if isNull left || isNull right then ['0'] else left)
  | ":" => fitted left right
  | _ =>
    if sign ∈ ["+", "-", "*", "/", "%"] then calculated sign left right
    else .ok (if compares sign left right then ['1'] else ['0'])

mutual

/-- The value of a part at some levels. -/
def value : (fuel : Nat) → List (List String) → (counts : Bool) → Reader ByteText
  | 0, _, _ => do throw (.missing (← get).passed)
  | fuel + 1, [], counts => word fuel counts
  | fuel + 1, signs :: stronger, counts => do
    let first ← value fuel stronger counts
    more fuel signs stronger counts first

/-- Goes on with signs of one level after a value. -/
def more : (fuel : Nat) → (signs : List String) → (stronger : List (List String)) →
    (counts : Bool) → ByteText → Reader ByteText
  | 0, _, _, _, first => return first
  | fuel + 1, signs, stronger, counts, first => do
    match ← acceptOneOf signs with
    | none => return first
    | some sign =>
      let countsSecond := counts && match sign with
        | "|" => isNull first
        | "&" => !isNull first
        | _ => true
      let second ← value fuel stronger countsSecond
      let result ← if counts then
          (combined sign first (if countsSecond then second else []) : Except Fault ByteText)
        else pure first
      more fuel signs stronger counts result

/-- The value of a word, of a function or of an expression in parentheses. -/
def word : (fuel : Nat) → (counts : Bool) → Reader ByteText
  | 0, _ => do throw (.missing (← get).passed)
  | fuel + 1, counts => do
    if ← accept "+" then next
    else if ← accept "length" then return Numeral.digits (← word fuel counts).length
    else if ← accept "match" then
      let text ← word fuel counts
      let pattern ← word fuel counts
      if counts then (fitted text pattern : Except Fault ByteText) else return []
    else if ← accept "index" then
      let text ← word fuel counts
      let signs ← word fuel counts
      return Numeral.digits ((text.findIdx? signs.contains).elim 0 (· + 1))
    else if ← accept "substr" then
      let text ← word fuel counts
      let place ← word fuel counts
      return part text place (← word fuel counts)
    else if ← accept "(" then
      let inner ← value fuel levels counts
      match (← get).rest with
      | [] => throw (.openAfter (← get).passed)
      | closing :: _ =>
        if ← accept ")" then return inner else throw (.openBefore closing)
    else if ← accept ")" then throw .unexpectedClosing
    else next

end

/-- The value of an expression. -/
def evaluate (words : List ByteText) : Except Fault ByteText := do
  let (result, reading) ← (value (20 * words.length + 20) levels true).run { rest := words }
  match reading.rest with
  | [] => return result
  | stray :: _ => throw (.unexpected stray)

end Expression

/-- Prints the value of an expression. -/
def expr : Main := program fun arguments => do
  let words := match arguments with
    | ['-', '-'] :: rest => rest
    | rest => rest
  if words.isEmpty then misuse 2 "missing operand".toList
  match Expression.evaluate words with
  | .error fault => fail 2 fault.message
  | .ok result =>
    putLine result
    if Expression.isNull result then leave 1

end CopyOracle.Tool
