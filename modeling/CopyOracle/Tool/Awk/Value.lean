import CopyOracle.Number.Decimals
import CopyOracle.Shell.Printing
import CopyOracle.Tool.Awk.Syntax

/-!
# Values of programs for records

A value is a number, a text, or a text from the input that looks like a number and is compared as
one. Numbers without a fraction are written in full, others by a format.
-/
namespace CopyOracle.Tool.Awk

/-- A value. -/
inductive Value where
  /-- What was given no value: the number zero and the empty text. -/
  | unset
  /-- A number. -/
  | number (value : Float)
  /-- A text. -/
  | text (text : ByteText)
  /-- A text that looks like a number. -/
  | numeric (text : ByteText) (value : Float)
deriving Inhabited

/-- The least double that is too large for a word. -/
def wordLimit : Float := Float.ofNat UInt64.size

/-- The integer that a double is, if it is one that a word holds. -/
def integer? (x : Float) : Option Int :=
  if x == x.floor && x.abs ≤ wordLimit && (x ≥ 0.0 || x ≥ -(wordLimit / 2.0)) then
    if x < 0.0 then some (-((-x).toUInt64.toNat : Int))
    else some (if x == wordLimit then UInt64.size - 1 else x.toUInt64.toNat)
  else none

/-- An integer in base ten. -/
def integerText (value : Int) : ByteText :=
  if value < 0 then '-' :: Numeral.digits value.natAbs else Numeral.digits value.natAbs

/-- A double by a format. -/
def formatted (format : ByteText) (x : Float) : ByteText :=
  let precision := match format with
    | '%' :: '.' :: rest =>
      let digits := rest.takeWhile Char.isDigit
      match rest.drop digits.length with
      | [letter] => some (Nat.ofDigitChars 10 digits 0, letter)
      | _ => none
    | _ => none
  if x.isNaN then "-nan".toList
  else match precision with
  | some (count, letter) => Directive.float { precision := some count } letter x
  | none => (Shell.Printing.format format [Directive.float { precision := some 17 } 'g' x]).output

/-- A double as text; one that is no integer is written by a format. -/
def numberText (format : ByteText) (x : Float) : ByteText :=
  match integer? x with
  | some value => integerText value
  | none => formatted format x

/-- The number at the front of a text, or zero. -/
def numberOf (text : ByteText) : Float :=
  match Decimals.atFront? text with
  | some (value, _) => value
  | none => 0.0

/-- Whether a character may stand around a number. -/
def isGap (c : Char) : Bool := c = ' ' || c = '\t' || c = '\n' || c = '\r'

/-- The value of a text from the input. -/
def Value.ofInput (text : ByteText) : Value :=
  match text with
  | [] => .text []
  | c :: _ =>
    let canBegin := c.isDigit || isGap c || c ∈ ['.', '+', '-', 'i', 'n', 'I', 'N']
    if canBegin && !(text.any fun c => c = 'x' || c = 'X') then
      match Decimals.atFront? text with
      | some (value, rest) => if rest.all isGap then .numeric text value else .text text
      | none => .text text
    else .text text

namespace Value

/-- The number of a value. -/
def toFloat : Value → Float
  | .unset => 0.0
  | .number value | .numeric _ value => value
  | .text written => numberOf written

/-- The text of a value, with a format for numbers. -/
def toText (format : ByteText) : Value → ByteText
  | .unset => []
  | .number value => numberText format value
  | .text written | .numeric written _ => written

/-- Whether a value counts as true. -/
def isTrue : Value → Bool
  | .unset => false
  | .number value | .numeric _ value => value != 0.0
  | .text written => !written.isEmpty

/-- Whether a value is compared as a number. -/
def isNumeric : Value → Bool
  | .text _ => false
  | _ => true

/-- The value of a condition. -/
def ofBool (condition : Bool) : Value := .number (if condition then 1.0 else 0.0)

end Value

/-- Whether a comparison holds for what is less, equal or greater. -/
def Comparison.holds : Comparison → Ordering → Bool
  | .less, order => order == .lt
  | .atMost, order => order != .gt
  | .equal, order => order == .eq
  | .notEqual, order => order != .eq
  | .greater, order => order == .gt
  | .atLeast, order => order != .lt

/-- How two texts stand in the order of their bytes. -/
def orderOf (left right : ByteText) : Ordering :=
  if left == right then .eq else if ByteText.atMost left right then .lt else .gt

/-- Whether two values compare so: as numbers if both may be, and otherwise as texts. -/
def Comparison.decide (comparison : Comparison) (format : ByteText) (left right : Value) : Bool :=
  if left.isNumeric && right.isNumeric then
    let a := left.toFloat
    let b := right.toFloat
    match comparison with
    | .less => a < b
    | .atMost => a ≤ b
    | .equal => a == b
    | .notEqual => a != b
    | .greater => b < a
    | .atLeast => b ≤ a
  else comparison.holds (orderOf (left.toText format) (right.toText format))

/-- The remainder of a division whose quotient is cut to a whole number: exact for whole numbers. -/
def remainderOf (a b : Float) : Float :=
  if b == 0.0 || a.isInf || a.isNaN || b.isNaN then 0.0 / 0.0
  else if b.isInf then a
  else match integer? a, integer? b with
  | some x, some y => Float.ofInt (x.tmod y)
  | _, _ =>
    let quotient := a / b
    let cut := if quotient < 0.0 then quotient.ceil else quotient.floor
    a - b * cut

/-- A power; a whole exponent multiplies. -/
def powerOf (a b : Float) : Float := Float.pow a b

/-- The result of an operation. -/
def Operation.apply (operation : Operation) (a b : Float) : Float :=
  match operation with
  | .add => a + b
  | .subtract => a - b
  | .multiply => a * b
  | .divide => a / b
  | .remainder => remainderOf a b
  | .power => powerOf a b

/-- A value written as a letter says. -/
def convert (directive : Directive) (letter : Char) (format : ByteText) (value : Value) : ByteText :=
  let whole : Int :=
    let x := value.toFloat
    if x.isNaN then -(UInt64.size / 2 : Nat)
    else if x ≥ wordLimit then (UInt64.size : Int) - 1
    else if x ≤ -(wordLimit / 2.0) then -((UInt64.size / 2 : Nat) : Int) + 1
    else if x < 0.0 then -((-x).toUInt64.toNat : Int) else x.toUInt64.toNat
  let unsigned : Nat := (whole % UInt64.size).toNat
  match letter with
  | 'd' | 'i' => directive.integer whole
  | 'u' => directive.natural unsigned
  | 'o' => directive.octal unsigned
  | 'x' => directive.hexadecimal false unsigned
  | 'X' => directive.hexadecimal true unsigned
  | 'c' =>
    match value with
    | .number _ => directive.text [Char.ofNat (unsigned % 256)]
    | other => directive.text [(other.toText format).headD (Char.ofNat 0)]
  | 's' => directive.text (value.toText format)
  | letter =>
    let x := value.toFloat
    if x.isNaN then directive.text "-nan".toList else directive.float letter x

/-- Why a format cannot be followed. -/
inductive FormatFault where
  /-- Arguments are missing. -/
  | missing
  /-- A directive is none. -/
  | improper (number : Nat)
deriving DecidableEq, Repr

/-- The state of writing by a format. -/
structure Writing where
  /-- The pieces, the last one first. -/
  pieces : List ByteText := []
  /-- The values left. -/
  values : List Value
  /-- How many directives were followed. -/
  count : Nat := 0

/-- A width or a precision: digits, or a star that stands for a value. -/
def measure (text : ByteText) (writing : Writing) :
    Except (Writing × FormatFault) (Option Int × ByteText × Writing) :=
  match text with
  | '*' :: rest =>
    match writing.values with
    | value :: values =>
      let x := value.toFloat
      let size : Int := if x < 0.0 then -((-x).toUInt64.toNat : Int) else x.toUInt64.toNat
      .ok (some size, rest, { writing with values })
    | [] => .error (writing, .missing)
  | _ =>
    let digits := text.takeWhile Char.isDigit
    .ok (if digits.isEmpty then none else some (Nat.ofDigitChars 10 digits 0),
      text.drop digits.length, writing)

/-- Writes values by a format. -/
def writeFormat (format : ByteText) : (fuel : Nat) → ByteText → Writing →
    Except (Writing × FormatFault) Writing
  | 0, _, writing | _, [], writing => .ok writing
  | fuel + 1, '%' :: '%' :: rest, writing =>
    writeFormat format fuel rest { writing with pieces := ['%'] :: writing.pieces }
  | fuel + 1, '%' :: rest, writing => do
    let flags := rest.takeWhile Directive.isFlag
    let (width, rest, writing) ← measure (rest.drop flags.length) writing
    let (precision, rest, writing) ← match rest with
      | '.' :: rest => do
        let (precision, rest, writing) ← measure rest writing
        pure (some (precision.getD 0), rest, writing)
      | rest => pure (none, rest, writing)
    let directive := { (Directive.ofFlags flags).withWidth (width.getD 0) with
      precision := match precision with
        | some precision => if precision < 0 then none else some precision.toNat
        | none => none }
    let rest := rest.dropWhile fun c => c = 'l' || c = 'h'
    match rest with
    | letter :: rest =>
      if letter ∈ ['d', 'i', 'u', 'o', 'x', 'X', 'c', 's', 'e', 'E', 'f', 'F', 'g', 'G'] then
        match writing.values with
        | value :: values =>
          writeFormat format fuel rest
            ⟨convert directive letter format value :: writing.pieces, values, writing.count + 1⟩
        | [] => throw (writing, .missing)
      else throw (writing, .improper (writing.count + 1))
    | [] => throw (writing, .improper (writing.count + 1))
  | fuel + 1, text@(_ :: _), writing =>
    let plain := text.takeWhile (· ≠ '%')
    writeFormat format fuel (text.drop plain.length)
      { writing with pieces := plain :: writing.pieces }

end CopyOracle.Tool.Awk
