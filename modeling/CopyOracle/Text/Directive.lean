import CopyOracle.Number.Decimals
import CopyOracle.Text.Bytes

/-!
# Formatted output

A directive says how one value is written: in what width, with how many digits, and what stands in
front of it.
-/
namespace CopyOracle

/-- How a value is written. -/
structure Directive where
  /-- Whether it stands at the left of its width. -/
  isLeft : Bool := false
  /-- Whether a plus sign stands before a number that is not negative. -/
  hasPlus : Bool := false
  /-- Whether a blank stands before a number that is not negative. -/
  hasSpace : Bool := false
  /-- Whether zeros fill the width of a number. -/
  hasZeros : Bool := false
  /-- Whether the base of a number is marked, and its point is kept. -/
  isMarked : Bool := false
  /-- The least width. -/
  width : Nat := 0
  /-- How many digits, or how many characters at most. -/
  precision : Option Nat := none
deriving DecidableEq, Repr

namespace Directive

/-- The characters that stand for properties of a directive. -/
def isFlag (c : Char) : Bool := c ∈ ['-', '+', ' ', '0', '#']

/-- The directive of some flags. -/
def ofFlags (flags : ByteText) : Directive where
  isLeft := flags.contains '-'
  hasPlus := flags.contains '+'
  hasSpace := flags.contains ' '
  hasZeros := flags.contains '0'
  isMarked := flags.contains '#'

/-- The directive with a width; a negative one is a width at the left. -/
def withWidth (directive : Directive) (width : Int) : Directive :=
  if width < 0 then { directive with width := width.natAbs, isLeft := true }
  else { directive with width := width.natAbs }

/-- A text brought to the width. -/
def fill (directive : Directive) (text : ByteText) : ByteText :=
  let missing := directive.width - text.length
  if missing = 0 then text
  else if directive.isLeft then text ++ List.replicate missing ' '
  else List.replicate missing ' ' ++ text

/-- A number brought to the width, its sign and mark kept in front. -/
def fillNumber (directive : Directive) (mayHaveZeros : Bool) (mark digits : ByteText) :
    ByteText :=
  if directive.hasZeros && !directive.isLeft && mayHaveZeros then
    mark ++ List.replicate (directive.width - mark.length - digits.length) '0' ++ digits
  else directive.fill (mark ++ digits)

/-- The sign before a number. -/
def sign (directive : Directive) (isNegative : Bool) : ByteText :=
  if isNegative then ['-'] else if directive.hasPlus then ['+']
  else if directive.hasSpace then [' '] else []

/-- A text. -/
def text (directive : Directive) (text : ByteText) : ByteText :=
  directive.fill (match directive.precision with
    | some precision => text.take precision
    | none => text)

/-- The digits of a number with zeros in front up to the precision; zero has no digit where no
digit is asked for. -/
def digitsOf (directive : Directive) (digits : ByteText) : ByteText :=
  match directive.precision with
  | none => digits
  | some precision =>
    if precision = 0 && digits = ['0'] then []
    else List.replicate (precision - digits.length) '0' ++ digits

/-- An integer in base ten. -/
def integer (directive : Directive) (value : Int) : ByteText :=
  directive.fillNumber directive.precision.isNone (directive.sign (decide (value < 0)))
    (directive.digitsOf (Numeral.digits value.natAbs))

/-- A natural number in base ten. -/
def natural (directive : Directive) (value : Nat) : ByteText :=
  directive.fillNumber directive.precision.isNone [] (directive.digitsOf (Numeral.digits value))

/-- A natural number in base eight; its mark is a zero in front. -/
def octal (directive : Directive) (value : Nat) : ByteText :=
  let digits := directive.digitsOf (Nat.toDigits 8 value)
  let marked := if directive.isMarked && digits.head? ≠ some '0' then '0' :: digits else digits
  directive.fillNumber directive.precision.isNone [] marked

/-- A natural number in base sixteen. -/
def hexadecimal (directive : Directive) (isUpper : Bool) (value : Nat) : ByteText :=
  let digits := directive.digitsOf (Nat.toDigits 16 value)
  let mark := if directive.isMarked && value ≠ 0 then ['0', 'x'] else []
  let change (text : ByteText) : ByteText := if isUpper then text.map Char.toUpper else text
  directive.fillNumber directive.precision.isNone (change mark) (change digits)

/-- A double in the way of a letter. -/
def float (directive : Directive) (kind : Char) (x : Float) : ByteText :=
  let change (text : ByteText) : ByteText := if kind.isUpper then text.map Char.toUpper else text
  let sign := directive.sign (Binary.isNegative x)
  match Binary.ofFloat? x with
  | none => directive.fill (change (sign ++ (if x.isNaN then "nan" else "inf").toList))
  | some binary =>
    let places := directive.precision.getD 6
    let text := match kind.toLower with
      | 'f' => Decimals.fixed binary places directive.isMarked
      | 'e' => Decimals.scientific binary places directive.isMarked
      | 'a' => Decimals.hexadecimal binary directive.precision directive.isMarked
      | _ => Decimals.shorter binary places directive.isMarked
    let mark := if kind.toLower = 'a' then text.take 2 else []
    directive.fillNumber true (sign ++ change mark) (change (text.drop mark.length))

end Directive

end CopyOracle
