import CopyOracle.Number.FloatText

/-!
# Doubles with a number of digits

A double is written with a number of digits after its point, with a number of digits and an
exponent, or in the shorter of the two ways. The exact value is rounded, a tie going to the even
neighbour. A double is also read from the front of a text.
-/
namespace CopyOracle.Decimals

/-- The digits of a number, with zeros in front up to a length. -/
def padded (length value : Nat) : Text :=
  let digits := Numeral.digits value
  List.replicate (length - digits.length) '0' ++ digits

/-- The numerator of the absolute value of a double over its denominator. -/
def fraction (x : Binary) : Nat × Nat := (x.quarters (4 * x.mantissa), x.quarterDenominator)

/-- A fraction times a power of ten, rounded. -/
def scaled (num den : Nat) (power : Int) : Nat :=
  FloatText.roundDiv (num * Nat.pow 10 power.toNat) (den * Nat.pow 10 (-power).toNat)

/-- A number with its last digits after the point; the point stands even before nothing if it is
kept. -/
def withPoint (places : Nat) (keepsPoint : Bool) (value : Nat) : Text :=
  let unit := Nat.pow 10 places
  let whole := Numeral.digits (value / unit)
  if places = 0 then if keepsPoint then whole ++ ['.'] else whole
  else whole ++ '.' :: padded places (value % unit)

/-- The absolute value of a double with some digits after the point. -/
def fixed (x : Binary) (places : Nat) (keepsPoint : Bool) : Text :=
  let (num, den) := fraction x
  withPoint places keepsPoint (scaled num den places)

/-- The first digits of a double as one number, with one more digit than `places`, and the
exponent of the first of them. -/
def leading (x : Binary) (places : Nat) : Nat × Int :=
  let (num, den) := fraction x
  if num = 0 then (0, 0)
  else
    let exponent := Shortest.pointOf num den - 1
    let digits := scaled num den (places - exponent)
    if Nat.pow 10 (places + 1) ≤ digits then (digits / 10, exponent + 1) else (digits, exponent)

/-- An exponent with its sign and at least two digits. -/
def exponentText (exponent : Int) : Text :=
  (if exponent < 0 then '-' else '+') :: padded 2 exponent.natAbs

/-- The absolute value of a double with an exponent and some digits after the point. -/
def scientific (x : Binary) (places : Nat) (keepsPoint : Bool) : Text :=
  let (digits, exponent) := leading x places
  withPoint places keepsPoint digits ++ 'e' :: exponentText exponent

/-- A text without the zeros at its end after the point, nor the point if nothing follows it. -/
def trimmed (text : Text) : Text :=
  if '.' ∈ text then
    match Shortest.trimZeros text with
    | shorter => if shorter.getLast? = some '.' then shorter.dropLast else shorter
  else text

/-- The absolute value of a double with some digits in all, in the shorter of the two ways. -/
def shorter (x : Binary) (count : Nat) (keepsPoint : Bool) : Text :=
  let count := max count 1
  let exponent := (leading x (count - 1)).2
  let trim (text : Text) : Text := if keepsPoint then text else trimmed text
  if -4 ≤ exponent && exponent < count then
    trim (fixed x (count - 1 - exponent).toNat keepsPoint)
  else
    let text := scientific x (count - 1) keepsPoint
    let digits := text.takeWhile (· ≠ 'e')
    trim digits ++ text.drop digits.length

/-- The absolute value of a double in base sixteen with a power of two. -/
def hexadecimal (x : Binary) (places : Option Nat) (keepsPoint : Bool) : Text :=
  let digit (n : Nat) : Char := Nat.digitChar n
  let power (exponent : Int) : Text :=
    'p' :: (if exponent < 0 then '-' else '+') :: Numeral.digits exponent.natAbs
  if x.mantissa = 0 then
    let zeros := List.replicate (places.getD 0) '0'
    "0x0".toList ++ (if zeros.isEmpty && !keepsPoint then [] else '.' :: zeros) ++ power 0
  else
    let isNormal := Nat.pow 2 52 ≤ x.mantissa
    let exponent : Int := if isNormal then x.exponent + 52 else -1022
    let whole := x.mantissa
    let rounded := match places with
      | some places =>
        if places < 13 then
          FloatText.roundDiv whole (Nat.pow 16 (13 - places)) * Nat.pow 16 (13 - places)
        else whole
      | none => whole
    let front := rounded / Nat.pow 2 52
    let rest := (List.range 13).map fun i => digit (rounded / Nat.pow 16 (12 - i) % 16)
    let shown := match places with
      | some places => (rest ++ List.replicate (places - 13) '0').take places
      | none => Shortest.trimZeros rest
    "0x".toList ++ digit front :: (if shown.isEmpty && !keepsPoint then [] else '.' :: shown) ++
      power exponent

/-- The double at the front of a text in decimal digits, and what follows it. -/
def decimalAtFront? (text : Text) : Option (Float × Text) :=
  let whole := text.takeWhile Char.isDigit
  let afterWhole := text.drop whole.length
  let places := match afterWhole with
    | '.' :: rest => rest.takeWhile Char.isDigit
    | _ => []
  if whole.isEmpty && places.isEmpty then none
  else
    let rest := match afterWhole with
      | '.' :: rest => rest.drop places.length
      | rest => rest
    let plain := FloatText.ofDecimal (whole ++ places) (-(places.length : Int))
    let withPower (sign : Int) (digits later : Text) : Option (Float × Text) :=
      let power := digits.takeWhile Char.isDigit
      if power.isEmpty then some (plain, later)
      else
        let exponent := sign * (Nat.ofDigitChars 10 (power.take 9) 0 : Int)
        some (FloatText.ofDecimal (whole ++ places) (exponent - places.length),
          digits.drop power.length)
    match rest with
    | e :: '-' :: digits => if e = 'e' || e = 'E' then withPower (-1) digits rest else
        some (plain, rest)
    | e :: '+' :: digits => if e = 'e' || e = 'E' then withPower 1 digits rest else
        some (plain, rest)
    | e :: digits => if e = 'e' || e = 'E' then withPower 1 digits rest else some (plain, rest)
    | [] => some (plain, rest)

/-- The value of a digit in base sixteen. -/
def digitValue? (c : Char) : Option Nat :=
  if c.isDigit then some (c.toNat - '0'.toNat)
  else if 'a' ≤ c && c ≤ 'f' then some (c.toNat - 'a'.toNat + 10)
  else if 'A' ≤ c && c ≤ 'F' then some (c.toNat - 'A'.toNat + 10)
  else none

/-- A natural number times a power of two as a double. -/
def ofPower (value : Nat) (exponent : Int) : Float :=
  let bits := Nat.log2 value
  let surplus := bits - 62
  let short := value / Nat.pow 2 surplus
  let sticky := if short * Nat.pow 2 surplus = value then short else short ||| 1
  Float.scaleB (Float.ofNat sticky) (exponent + surplus)

/-- The double at the front of a text in digits of base sixteen, and what follows it. -/
def hexadecimalAtFront? (text : Text) : Option (Float × Text) :=
  let isDigit (c : Char) : Bool := (digitValue? c).isSome
  let whole := text.takeWhile isDigit
  let afterWhole := text.drop whole.length
  let places := match afterWhole with
    | '.' :: rest => rest.takeWhile isDigit
    | _ => []
  if whole.isEmpty && places.isEmpty then none
  else
    let rest := match afterWhole with
      | '.' :: rest => rest.drop places.length
      | rest => rest
    let value := (whole ++ places).foldl (fun value c => value * 16 + (digitValue? c).getD 0) 0
    let ending (sign : Int) (digits : Text) : Option (Float × Text) :=
      let power := digits.takeWhile Char.isDigit
      if power.isEmpty then none
      else
        let exponent := sign * (Nat.ofDigitChars 10 (power.take 9) 0 : Int)
        some (ofPower value (exponent - 4 * places.length), digits.drop power.length)
    let found := match rest with
      | p :: '-' :: digits => if p = 'p' || p = 'P' then ending (-1) digits else none
      | p :: '+' :: digits => if p = 'p' || p = 'P' then ending 1 digits else none
      | p :: digits => if p = 'p' || p = 'P' then ending 1 digits else none
      | [] => none
    some (found.getD (ofPower value (-(4 * places.length : Nat)), rest))

/-- The double at the front of a text without a sign, and what follows it. -/
def unsignedAtFront? (text : Text) : Option (Float × Text) :=
  let begins (word : String) : Bool := word.toList.isPrefixOf text.lower
  if begins "infinity" then some (1.0 / 0.0, text.drop 8)
  else if begins "inf" then some (1.0 / 0.0, text.drop 3)
  else if begins "nan" then
    let rest := text.drop 3
    match rest with
    | '(' :: inside =>
      let name := inside.takeWhile fun c => c.isAlphanum || c = '_'
      match inside.drop name.length with
      | ')' :: later => some (0.0 / 0.0, later)
      | _ => some (0.0 / 0.0, rest)
    | _ => some (0.0 / 0.0, rest)
  else match text with
  | '0' :: x :: digits =>
    if x = 'x' || x = 'X' then
      match hexadecimalAtFront? digits with
      | some found => some found
      | none => some (0.0, x :: digits)
    else decimalAtFront? text
  | _ => decimalAtFront? text

/-- Whether a character is white space before a number. -/
def isGap (c : Char) : Bool := c = ' ' || ('\t' ≤ c && c ≤ '\r')

/-- The double at the front of a text after white space and a sign, and what follows it. -/
def atFront? (text : Text) : Option (Float × Text) :=
  match text.dropWhile isGap with
  | '-' :: rest => (unsignedAtFront? rest).map fun (value, later) => (-value, later)
  | '+' :: rest => unsignedAtFront? rest
  | rest => unsignedAtFront? rest

end CopyOracle.Decimals
