import CopyOracle.File.Tree
import CopyOracle.Number.Numeral
import CopyOracle.Text.Bytes

/-!
# Conditions

A condition compares texts or numbers, or asks about a file. Conditions are negated, grouped and
joined. Up to four words are taken apart by their number; more are read from the front. A word
that is left over where an operator should stand makes the condition faulty.
-/
namespace CopyOracle.Shell.Condition

/-- What kind of word stands in a condition. -/
inductive WordKind where
  /-- An operator in front of one word. -/
  | unary
  /-- An operator between two words. -/
  | binary
  /-- An exclamation mark. -/
  | negation
  /-- The sign for both. -/
  | conjunction
  /-- The sign for one of two. -/
  | disjunction
  /-- An opening parenthesis. -/
  | opening
  /-- A closing parenthesis. -/
  | closing
deriving DecidableEq, Repr

/-- The operators in front of one word. -/
def unaryOperators : List String :=
  ["-r", "-w", "-x", "-e", "-f", "-d", "-c", "-b", "-p", "-u", "-g", "-k", "-s", "-t", "-z", "-n",
    "-h", "-O", "-G", "-L", "-S"]

/-- The operators between two words. -/
def binaryOperators : List String :=
  ["=", "!=", "<", ">", "-eq", "-ne", "-ge", "-gt", "-le", "-lt", "-nt", "-ot", "-ef"]

/-- The kind of an operator. -/
def kindOf? (word : ByteText) : Option WordKind :=
  let text := String.ofList word
  if unaryOperators.contains text then some .unary
  else if binaryOperators.contains text then some .binary
  else match text with
  | "!" => some .negation
  | "-a" => some .conjunction
  | "-o" => some .disjunction
  | "(" => some .opening
  | ")" => some .closing
  | _ => none

/-- The kind of the first of some words, which is an operator only where it can be one. -/
def firstKind? : List ByteText → Option WordKind
  | [] => none
  | word :: rest =>
    match kindOf? word with
    | some .unary =>
      match rest with
      | [] => none
      | [_] => some .unary
      | next :: _ => if kindOf? next = some .binary then none else some .unary
    | some .opening => if rest.isEmpty then none else some .opening
    | other => other

/-- Working out a condition: the words from the current one on are the state. -/
abbrev Asking := StateT (List ByteText) (Except ByteText)

/-- Goes on to the word after the current one. -/
def advance : Asking Unit := modify List.tail

/-- Whether a character is white space. -/
def isGap (c : Char) : Bool := c = ' ' || ('\t' ≤ c && c ≤ '\r')

/-- The integer that a word stands for. -/
def integer (word : ByteText) : Except ByteText Int :=
  let fault := "Illegal number: ".toList ++ word
  let text := word.dropWhile isGap
  let unsigned := match text with
    | '-' :: rest | '+' :: rest => rest
    | rest => rest
  let digits := unsigned.takeWhile Char.isDigit
  if digits.isEmpty || !(unsigned.drop digits.length).all isGap then .error fault
  else
    let value : Int := Nat.ofDigitChars 10 digits 0
    let signed := if text.head? = some '-' then -value else value
    let bound : Int := (UInt64.size / 2 : Nat)
    if -bound ≤ signed && signed < bound then .ok signed else .error fault

/-- Whether a text stands before another in the order of their bytes. -/
def isBefore (left right : ByteText) : Bool := ByteText.atMost left right && left != right

/-- What is known of the files that a condition asks about. -/
structure Surroundings where
  /-- The files. -/
  files : FileTree
  /-- Whether a descriptor leads to a terminal. -/
  isTerminal : Nat → Bool := fun _ => false

/-- The answer of an operator between two words. -/
def compare (files : FileTree) (operator left right : ByteText) : Except ByteText Bool := do
  let numbers (test : Int → Int → Bool) : Except ByteText Bool :=
    return test (← integer left) (← integer right)
  match String.ofList operator with
  | "=" => return left == right
  | "!=" => return left != right
  | "<" => return isBefore left right
  | ">" => return isBefore right left
  | "-eq" => numbers fun left right => left = right
  | "-ne" => numbers fun left right => left ≠ right
  | "-lt" => numbers fun left right => left < right
  | "-le" => numbers fun left right => left ≤ right
  | "-gt" => numbers fun left right => right < left
  | "-ge" => numbers fun left right => right ≤ left
  | "-ef" =>
    match files.locate (ByteText.asString left), files.locate (ByteText.asString right) with
    | .ok left, .ok right => return left = right && (files.get? left).isSome
    | _, _ => return false
  | _ => return false

/-- The answer of an operator in front of one word. -/
def inspect (surroundings : Surroundings) (operator word : ByteText) : Except ByteText Bool := do
  let entry := surroundings.files.standing? (ByteText.asString word)
  match String.ofList operator with
  | "-n" => return !word.isEmpty
  | "-z" => return word.isEmpty
  | "-e" | "-r" | "-w" | "-O" | "-G" => return entry.isSome
  | "-f" => return surroundings.files.isFile (ByteText.asString word)
  | "-d" => return entry = some .directory
  | "-x" => return match entry with
    | some .directory | some (.program _) | some (.file _ true) => true
    | _ => false
  | "-s" => return match entry with
    | some (.file content _) => content.size ≠ 0
    | some .directory | some (.program _) => true
    | _ => false
  | "-c" => return match entry with
    | some (.device (.descriptor _)) => false
    | some (.device _) => true
    | _ => false
  | "-t" => return surroundings.isTerminal (← integer word).toNat
  | _ => return false

/-- Refuses a condition. -/
def refuse {α : Type} (wording : ByteText) : Asking α := throw wording

/-- The text of an operator in front of what is wrong with it. -/
def about (operator : ByteText) (wording : String) : ByteText :=
  if operator.isEmpty then wording.toList else operator ++ ": ".toList ++ wording.toList

/-- A single question, which begins with a word of some kind; afterwards its last word is the
current one. -/
def primary (surroundings : Surroundings) (whole : Option WordKind → Asking Bool)
    (kind : Option WordKind) : Asking Bool := do
  match ← get with
  | [] => return false
  | word :: rest =>
    match kind with
    | some .opening =>
      advance
      match firstKind? rest with
      | some .closing => return false
      | inner =>
        let answer ← whole inner
        advance
        match firstKind? (← get) with
        | some .closing => return answer
        | _ => refuse "closing paren expected".toList
    | some .unary =>
      advance
      match rest with
      | [] => refuse (about word "argument expected")
      | operand :: _ => (inspect surroundings word operand : Except ByteText Bool)
    | _ =>
      match firstKind? rest, rest with
      | some .binary, operator :: later =>
        match later with
        | [] => refuse (about operator "argument expected")
        | operand :: _ =>
          set later
          (compare surroundings.files operator word operand : Except ByteText Bool)
      | _, _ => return !word.isEmpty

/-- A question after exclamation marks. -/
def negated (surroundings : Surroundings) (whole : Option WordKind → Asking Bool) :
    (fuel : Nat) → Option WordKind → Asking Bool
  | 0, _ => return false
  | fuel + 1, kind => do
    if kind = some .negation then
      let rest := (← get).tail
      if rest.isEmpty then return true
      advance
      return !(← negated surroundings whole fuel (firstKind? rest))
    else primary surroundings whole kind

/-- Questions joined by a sign, after the first one. -/
def joined (sign : WordKind) (join : Bool → Bool → Bool)
    (next : Option WordKind → Asking Bool) : (fuel : Nat) → Bool → Asking Bool
  | 0, answer => return answer
  | fuel + 1, answer => do
    let rest := (← get).tail
    if firstKind? rest = some sign then
      set rest.tail
      let later ← next (firstKind? rest.tail)
      joined sign join next fuel (join answer later)
    else return answer

/-- A whole condition, nested to a depth, from a word of some kind on. -/
def whole (surroundings : Surroundings) : (depth : Nat) → Option WordKind → Asking Bool
  | 0, _ => return false
  | depth + 1, kind => do
    let count := (← get).length + 1
    let single := negated surroundings (whole surroundings depth) count
    let conjunction (kind : Option WordKind) : Asking Bool := do
      joined .conjunction (· && ·) single count (← single kind)
    joined .disjunction (· || ·) conjunction count (← conjunction kind)

/-- The answer to words that are read from the front. -/
def fromFront (surroundings : Surroundings) (kind : Option WordKind) (words : List ByteText) :
    Except ByteText Bool := do
  let (answer, left) ← (whole surroundings (words.length + 1) kind).run words
  match left with
  | word :: _ :: _ => throw (about word "unexpected operator")
  | _ => return answer

/-- The answer to a condition, or what is wrong with it. -/
def evaluate (surroundings : Surroundings) : (fuel : Nat) → List ByteText → Except ByteText Bool
  | 0, _ => .ok false
  | fuel + 1, words =>
    let isGrouped := words.head? = some ['('] && words.getLast? = some [')']
    let plain (words : List ByteText) : Except ByteText Bool :=
      fromFront surroundings (firstKind? words) words
    let several : Except ByteText Bool :=
      if isGrouped then plain words.tail.dropLast
      else if words.head? = some ['!'] then (evaluate surroundings fuel words.tail).map (!·)
      else plain words
    match words with
    | [] => .ok false
    | [_, operator, _] =>
      if kindOf? operator = some .binary then fromFront surroundings none words else several
    | [_, _, _, _] => several
    | _ => plain words

end CopyOracle.Shell.Condition
