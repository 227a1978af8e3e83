import CopyOracle.Number.Shortest

/-!
# Doubles as text

Doubles are written in three ways. In messages and options they are plain: the shortest digits,
never an exponent. In a results file they always have a fraction, and very large and very small
ones an exponent. In a summary they have three decimals, the exact value being rounded and a tie
going to the even neighbour. They are read from the numeral of a decimal fraction with an
optional exponent, or from a word for an infinity or for not a number.
-/
namespace CopyOracle.FloatText

/-- A decimal in positional notation, with no point when nothing follows it. -/
def positional (decimal : Decimal) : Text :=
  let digits := decimal.digits
  if decimal.point ≤ 0 then
    '0' :: '.' :: List.replicate (-decimal.point).toNat '0' ++ digits
  else
    let before := decimal.point.toNat
    if digits.length ≤ before then digits ++ List.replicate (before - digits.length) '0'
    else digits.take before ++ '.' :: digits.drop before

/-- The text of a double without its sign, from the text of its shortest decimal. -/
def unsigned (x : Float) (zero : Text) (write : Decimal → Text) : Text :=
  match Binary.ofFloat? x with
  | none => if x.isNaN then "NaN".toList else "inf".toList
  | some binary => if binary.mantissa = 0 then zero else write (Shortest.decimal binary)

/-- The text of a double with a minus sign in front where it has one. -/
def signed (x : Float) (text : Text) : Text :=
  if Binary.isNegative x && !x.isNaN then '-' :: text else text

/-- The plain text of a double: its shortest digits, never with an exponent. -/
def plain (x : Float) : Text := signed x (unsigned x ['0'] positional)

/-- A decimal with at least one digit on either side of the point. -/
def withFraction (decimal : Decimal) : Text :=
  let text := positional decimal
  if '.' ∈ text then text else text ++ ".0".toList

/-- A decimal with one digit before the point, if it has more, and a signed exponent. -/
def scientific (decimal : Decimal) : Text :=
  let exponent := decimal.point - 1
  let power :=
    (if exponent < 0 then '-' else '+') :: Numeral.digits exponent.natAbs
  match decimal.digits with
  | first :: second :: rest => first :: '.' :: second :: rest ++ 'e' :: power
  | digits => digits ++ 'e' :: power

/-- The text of a double in a results file: positional from `0.00001` to below `10 ^ 16`. -/
def record (x : Float) : Text :=
  signed x (unsigned x "0.0".toList fun decimal =>
    if -5 < decimal.point && decimal.point ≤ 16 then withFraction decimal
    else scientific decimal)

/-- A quotient rounded to the nearest integer, a tie to the even one. -/
def roundDiv (num den : Nat) : Nat :=
  let floor := num / den
  let twice := 2 * (num % den)
  if twice < den then floor
  else if den < twice then floor + 1
  else if floor % 2 = 0 then floor else floor + 1

/-- The text of a double with three decimals. -/
def threeDecimals (x : Float) : Text :=
  signed x (match Binary.ofFloat? x with
    | none => if x.isNaN then "NaN".toList else "inf".toList
    | some binary =>
      let thousandths := roundDiv (binary.quarters (4 * binary.mantissa) * 1000)
        binary.quarterDenominator
      let decimals := Numeral.digits (thousandths % 1000)
      Numeral.digits (thousandths / 1000) ++ '.' ::
        List.replicate (3 - decimals.length) '0' ++ decimals)

/-- The exponent after a mark `e`: digits with an optional sign. -/
def readExponent? (text : Text) : Option Int :=
  match text with
  | '-' :: digits => (Numeral.value? digits).map fun value => -(value : Int)
  | _ => (Numeral.value? (Numeral.unsigned text)).map fun value => (value : Int)

/-- The double nearest to `digits * 10 ^ exponent`. Exponents out of the range of doubles give
zero or infinity at once. -/
def ofDecimal (digits : Text) (exponent : Int) : Float :=
  let significant := digits.dropWhile (· == '0')
  let value := Nat.ofDigitChars 10 significant 0
  let magnitude := exponent + significant.length
  if significant.isEmpty || magnitude < -400 then 0.0
  else if 400 < magnitude then 1.0 / 0.0
  else if exponent < 0 then Float.ofScientific value true exponent.natAbs
  else Float.ofScientific value false exponent.natAbs

/-- The double of a numeral without a sign: digits with an optional point among or beside them
and an optional exponent. -/
def readUnsigned? (text : Text) : Option Float :=
  let word := text.lower
  if word = "inf".toList || word = "infinity".toList then some (1.0 / 0.0)
  else if word = "nan".toList then some (0.0 / 0.0)
  else
    let whole := word.takeWhile Char.isDigit
    let afterWhole := word.dropWhile Char.isDigit
    let afterPoint := match afterWhole with
      | '.' :: rest => rest
      | _ => afterWhole
    let fraction := if afterWhole.head? = some '.' then afterPoint.takeWhile Char.isDigit else []
    let rest := afterPoint.drop fraction.length
    if whole.isEmpty && fraction.isEmpty then none
    else match rest with
      | [] => some (ofDecimal (whole ++ fraction) (-(fraction.length : Int)))
      | 'e' :: power => (readExponent? power).map fun exponent =>
        ofDecimal (whole ++ fraction) (exponent - fraction.length)
      | _ => none

/-- The double that a numeral stands for. -/
def read? (text : Text) : Option Float :=
  match text with
  | '-' :: rest => (readUnsigned? rest).map fun value => -value
  | '+' :: rest => readUnsigned? rest
  | _ => readUnsigned? text

end CopyOracle.FloatText
