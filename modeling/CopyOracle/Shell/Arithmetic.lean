import CopyOracle.Number.Numeral
import CopyOracle.Shell.Syntax

/-!
# Arithmetic

An arithmetic expression has signed 64-bit integers, variables, the usual operators with their
usual precedences, a choice, and assignments. A variable without a value counts as zero. A part of
an expression that does not count is read but not worked out: its divisions do not fail and its
assignments are not made.
-/
namespace CopyOracle.Shell.Arithmetic

/-- The integer wrapped to 64 bits. -/
def wrap (value : Int) : Int := Int.bmod value UInt64.size

/-- The largest integer. -/
def largest : Int := (UInt64.size / 2 : Nat) - 1

/-- A decimal integer as text. -/
def write (value : Int) : ByteText :=
  if value < 0 then '-' :: Numeral.digits value.natAbs else Numeral.digits value.natAbs

/-- The value of a digit, which may be a letter. -/
def digitValue (c : Char) : Nat :=
  if c.isDigit then c.toNat - '0'.toNat
  else if 'a' ≤ c && c ≤ 'z' then c.toNat - 'a'.toNat + 10
  else if 'A' ≤ c && c ≤ 'Z' then c.toNat - 'A'.toNat + 10
  else 99

/-- The number at the front of a text in some base, as far as its digits go, and what follows. -/
def digitsIn (base : Nat) (text : ByteText) : Nat × ByteText :=
  let isDigit (c : Char) : Bool := digitValue c < base
  ((text.takeWhile isDigit).foldl (fun value c => value * base + digitValue c) 0,
    text.dropWhile isDigit)

/-- The number without a sign at the front of a text: hexadecimal after `0x`, octal after `0`,
decimal otherwise; none if there is no digit. -/
def unsigned? (text : ByteText) : Option (Nat × ByteText) :=
  match text with
  | '0' :: x :: c :: rest =>
    if (x = 'x' || x = 'X') && digitValue c < 16 then some (digitsIn 16 (c :: rest))
    else some (digitsIn 8 text)
  | '0' :: _ => some (digitsIn 8 text)
  | c :: _ => if c.isDigit then some (digitsIn 10 text) else none
  | [] => none

/-- Whether a character is white space for numbers. -/
def isGap (c : Char) : Bool := c = ' ' || ('\t' ≤ c && c ≤ '\r')

/-- The integer at the front of a text, after white space and a sign, and what follows. -/
def integer? (text : ByteText) : Option (Int × ByteText) :=
  match text.dropWhile isGap with
  | '-' :: rest => (unsigned? rest).map fun (value, later) => (-(value : Int), later)
  | '+' :: rest => (unsigned? rest).map fun (value, later) => ((value : Int), later)
  | rest => (unsigned? rest).map fun (value, later) => ((value : Int), later)

/-- The integer that a text stands for as a whole; white space stands for zero. -/
def value? (text : ByteText) : Option Int :=
  if text.all isGap then some 0
  else
    match integer? text with
    | some (value, later) =>
      if later.all isGap && -largest - 1 ≤ value && value ≤ largest then some value else none
    | none => none

/-- A token of an expression. -/
inductive Token where
  /-- A number. -/
  | number (value : Int)
  /-- The name of a variable. -/
  | name (text : ByteText)
  /-- An operator or a parenthesis. -/
  | sign (text : String)
  /-- Something that is no token. -/
  | bad
deriving DecidableEq, Repr

/-- The signs, longer ones first. -/
def signs : List String :=
  ["<<=", ">>=", "<<", ">>", "<=", ">=", "==", "!=", "&&", "||", "+=", "-=", "*=", "/=", "%=",
    "&=", "|=", "^=", "+", "-", "*", "/", "%", "<", ">", "!", "~", "&", "|", "^", "?", ":", "=",
    "(", ")"]

/-- The tokens of an expression, up to something that is none. -/
def tokens : (fuel : Nat) → ByteText → List Token
  | 0, _ | _, [] => []
  | fuel + 1, c :: rest =>
    if c = ' ' || c = '\t' || c = '\n' then tokens fuel rest
    else if startsName c then
      .name (c :: rest.takeWhile inName) :: tokens fuel (rest.dropWhile inName)
    else match unsigned? (c :: rest) with
    | some (value, later) => .number (min (value : Int) largest) :: tokens fuel later
    | none =>
      match signs.find? fun text => text.toList.isPrefixOf (c :: rest) with
      | some sign => .sign sign :: tokens fuel ((c :: rest).drop sign.length)
      | none => [.bad]

/-- Why an expression has no value. -/
inductive Fault where
  /-- It cannot be read. -/
  | malformed (wording : String)
  /-- It divides by zero. -/
  | divisionByZero
  /-- A variable in it is no number. -/
  | badNumber (text : ByteText)
  /-- A quotient in it is too large. -/
  | overflow
deriving DecidableEq, Repr

/-- What is left of an expression, and the values that it has assigned, the last one first. -/
structure State where
  /-- The tokens. -/
  tokens : List Token
  /-- The values assigned. -/
  assigned : List (ByteText × ByteText) := []

/-- Working out a part of an expression. -/
abbrev Evaluation := StateT State (Except Fault)

/-- The next token. -/
def next? : Evaluation (Option Token) := do
  let state ← get
  match state.tokens with
  | [] => return none
  | token :: rest =>
    set { state with tokens := rest }
    return some token

/-- Passes a sign, if it is next. -/
def passSign (expected : String) : Evaluation Bool := do
  let state ← get
  match state.tokens with
  | .sign found :: rest =>
    if found = expected then
      set { state with tokens := rest }
      return true
    else return false
  | _ => return false

/-- The value of a variable. -/
def valueOf (lookup : ByteText → Option ByteText) (name : ByteText) : Evaluation Int := do
  let text := match (← get).assigned.lookup name with
    | some text => text
    | none => (lookup name).getD []
  match value? text with
  | some value => return value
  | none => throw (.badNumber text)

/-- The binary operators with their precedences; those of the highest bind first. -/
def precedence? : String → Option Nat
  | "*" | "/" | "%" => some 10
  | "+" | "-" => some 9
  | "<<" | ">>" => some 8
  | "<" | ">" | "<=" | ">=" => some 7
  | "==" | "!=" => some 6
  | "&" => some 5
  | "^" => some 4
  | "|" => some 3
  | _ => none

/-- Two integers, bit by bit. -/
def bitwise (combine : UInt64 → UInt64 → UInt64) (left right : Int) : Int :=
  wrap (combine (UInt64.ofInt left) (UInt64.ofInt right)).toNat

/-- An integer as a truth. -/
def ofBool (truth : Bool) : Int := if truth then 1 else 0

/-- The value of a binary operator. -/
def apply (operator : String) (left right : Int) : Except Fault Int :=
  let amount := (right % 64).toNat
  match operator with
  | "*" => .ok (wrap (left * right))
  | "/" | "%" =>
    if right = 0 then .error .divisionByZero
    else if left = -largest - 1 && right = -1 then .error .overflow
    else .ok (if operator = "/" then left.tdiv right else left.tmod right)
  | "+" => .ok (wrap (left + right))
  | "-" => .ok (wrap (left - right))
  | "<<" => .ok (wrap (left * (Nat.pow 2 amount : Nat)))
  | ">>" => .ok (left / (Nat.pow 2 amount : Nat))
  | "<" => .ok (ofBool (left < right))
  | ">" => .ok (ofBool (right < left))
  | "<=" => .ok (ofBool (left ≤ right))
  | ">=" => .ok (ofBool (right ≤ left))
  | "==" => .ok (ofBool (left = right))
  | "!=" => .ok (ofBool (left ≠ right))
  | "&" => .ok (bitwise (· &&& ·) left right)
  | "^" => .ok (bitwise (· ^^^ ·) left right)
  | _ => .ok (bitwise (· ||| ·) left right)

/-- The binary operator before the sign of an assignment. -/
def assigning? (sign : String) : Option String :=
  if ["*=", "/=", "%=", "+=", "-=", "<<=", ">>=", "&=", "^=", "|="].contains sign then
    some (sign.dropEnd 1).toString
  else none

/-- Refuses an expression. -/
def malformed {α : Type} (wording : String) : Evaluation α := throw (.malformed wording)

/-- A number, a variable, or an expression in parentheses, after signs of its own. -/
def primary (lookup : ByteText → Option ByteText) (whole : Bool → Evaluation Int)
    (counts : Bool) : (fuel : Nat) → Evaluation Int
  | 0 => malformed "expecting primary"
  | fuel + 1 => do
    match ← next? with
    | some (.number value) => return value
    | some (.name name) => if counts then valueOf lookup name else return 0
    | some (.sign "(") =>
      let value ← whole counts
      unless ← passSign ")" do malformed "expecting ')'"
      return value
    | some (.sign "+") => primary lookup whole counts fuel
    | some (.sign "-") => return wrap (-(← primary lookup whole counts fuel))
    | some (.sign "!") => return ofBool ((← primary lookup whole counts fuel) = 0)
    | some (.sign "~") => return -(← primary lookup whole counts fuel) - 1
    | _ => malformed "expecting primary"

/-- A value joined with what follows by operators of at least some precedence. -/
def joined (first : Evaluation Int) (counts : Bool) : (fuel : Nat) → (least : Nat) → Int →
    Evaluation Int
  | 0, _, left => return left
  | fuel + 1, least, left => do
    let state ← get
    match state.tokens with
    | .sign operator :: rest =>
      match (precedence? operator).filter (least ≤ ·) with
      | none => return left
      | some precedence =>
        set { state with tokens := rest }
        let right ← joined first counts fuel (precedence + 1) (← first)
        let value ← if counts then (apply operator left right : Except Fault Int) else pure right
        joined first counts fuel least value
    | _ => return left

/-- Values of which all must hold. -/
def conjunction (first : Bool → Evaluation Int) : (fuel : Nat) → (counts : Bool) → Evaluation Int
  | 0, _ => malformed "expecting primary"
  | fuel + 1, counts => do
    let left ← first counts
    if ← passSign "&&" then
      let right ← conjunction first fuel (counts && left ≠ 0)
      return ofBool (left ≠ 0 && right ≠ 0)
    else return left

/-- Values of which one must hold. -/
def disjunction (first : Bool → Evaluation Int) : (fuel : Nat) → (counts : Bool) → Evaluation Int
  | 0, _ => malformed "expecting primary"
  | fuel + 1, counts => do
    let left ← first counts
    if ← passSign "||" then
      let right ← disjunction first fuel (counts && left = 0)
      return ofBool (left ≠ 0 || right ≠ 0)
    else return left

/-- A choice between two values, or a single value. -/
def choice (whole first : Bool → Evaluation Int) : (fuel : Nat) → (counts : Bool) →
    Evaluation Int
  | 0, _ => malformed "expecting primary"
  | fuel + 1, counts => do
    let condition ← first counts
    if ← passSign "?" then
      let left ← whole (counts && condition ≠ 0)
      unless ← passSign ":" do malformed "expecting ':'"
      let right ← choice whole first fuel (counts && condition = 0)
      return if condition ≠ 0 then left else right
    else return condition

/-- An assignment or a choice, nested to a depth. -/
def whole (lookup : ByteText → Option ByteText) : (depth : Nat) → (counts : Bool) →
    Evaluation Int
  | 0, _ => malformed "expecting primary"
  | depth + 1, counts => do
    let inner := whole lookup depth
    let fuel := (← get).tokens.length + 1
    let binary (counts : Bool) : Evaluation Int := do
      let first := primary lookup inner counts fuel
      joined first counts fuel 0 (← first)
    let value := choice inner (disjunction (conjunction binary fuel) fuel) fuel counts
    let state ← get
    match state.tokens with
    | .name name :: .sign sign :: rest =>
      if sign = "=" || (assigning? sign).isSome then
        set { state with tokens := rest }
        let right ← inner counts
        if counts then
          let result ← match assigning? sign with
            | none => pure right
            | some operator =>
              (apply operator (← valueOf lookup name) right : Except Fault Int)
          modify fun state => { state with assigned := (name, write result) :: state.assigned }
          return result
        else return right
      else value
    | _ => value

/-- The value of an expression and the values that it assigns, in order. -/
def evaluate (lookup : ByteText → Option ByteText) (expression : ByteText) :
    Except Fault (Int × List (ByteText × ByteText)) := do
  let found := tokens (expression.length + 1) expression
  let (value, state) ← (whole lookup (found.length + 2) true).run { tokens := found }
  if state.tokens.isEmpty then return (value, state.assigned.reverse)
  else throw (.malformed "expecting EOF")

end CopyOracle.Shell.Arithmetic
