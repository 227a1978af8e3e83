import CopyOracle.Number.Binary
import CopyOracle.Number.Numeral

/-!
# The shortest decimal that reads back

A decimal reads back as a double when it lies between the two midpoints to the neighbouring
doubles, midpoints included when the mantissa is even. The shortest text of a double has the
fewest digits of any such decimal and, among those, lies nearest to it. For one digit, two, and
so on up to seventeen, only the two neighbours of the double on the grid of that many digits
have to be tried, since a grid with a point between the midpoints has one of them there.
-/
namespace CopyOracle

/-- A positive decimal, `0.d₁d₂… * 10 ^ point`, without zeros at its end. -/
structure Decimal where
  /-- The digits `d₁d₂…` as one number. -/
  digits : Text
  /-- How many digits stand before the decimal point; negative for zeros after it. -/
  point : Int
deriving DecidableEq, Repr

namespace Shortest

/-- How often `num` has to be multiplied by ten until it reaches `den`. -/
def leadingZeros (num den : Nat) : (fuel : Nat) → Nat
  | 0 => 0
  | fuel + 1 => if den ≤ num then 0 else leadingZeros (num * 10) den fuel + 1

/-- The number of digits before the point of the positive fraction `num / den`; for a fraction
below one, less by the zeros after its point. Every positive double is above `10 ^ -400`. -/
def pointOf (num den : Nat) : Int :=
  if den ≤ num then (Numeral.digits (num / den)).length
  else 1 - (leadingZeros num den 400 : Int)

/-- The larger and the smaller of two numerators, subtracted. -/
def distance (a b : Nat) : Nat := max a b - min a b

/-- The neighbour of a double on the grid `10 ^ scale` that reads back as it: the nearer one if
both do, the even one if they are as near. -/
def onGrid? (x : Binary) (scale : Int) : Option Nat :=
  let up := Nat.pow 10 scale.toNat
  let down := Nat.pow 10 (-scale).toNat
  let unit := up * x.quarterDenominator
  let value := x.quarters (4 * x.mantissa) * down
  let low := x.quarters (if x.lowerCloser then 4 * x.mantissa - 1 else 4 * x.mantissa - 2) * down
  let high := x.quarters (4 * x.mantissa + 2) * down
  let even := x.mantissa % 2 = 0
  let readsBack (point : Nat) : Bool :=
    if even then low ≤ point * unit && point * unit ≤ high
    else low < point * unit && point * unit < high
  let below := value / unit
  let above := below + 1
  match readsBack below, readsBack above with
  | false, false => none
  | true, false => some below
  | false, true => some above
  | true, true =>
    let left := distance value (below * unit)
    let right := distance value (above * unit)
    if left < right then some below
    else if right < left then some above
    else if below % 2 = 0 then some below else some above

/-- The shortest decimal, trying grids of `count` digits and more. -/
def search (x : Binary) (point : Int) (count : Nat) : (tries : Nat) → Option (Nat × Int)
  | 0 => none
  | tries + 1 =>
    let scale := point - (count : Int)
    match onGrid? x scale with
    | some found => some (found, scale)
    | none => search x point (count + 1) tries

/-- The text without the zeros at its end. -/
def trimZeros (digits : Text) : Text := (digits.reverse.dropWhile (· == '0')).reverse

/-- The shortest decimal of a positive double. -/
def decimal (x : Binary) : Decimal :=
  let num := x.quarters (4 * x.mantissa)
  let den := x.quarterDenominator
  match search x (pointOf num den) 1 17 with
  | some (found, scale) =>
    let digits := Numeral.digits found
    ⟨trimZeros digits, digits.length + scale⟩
  | none => ⟨[], 0⟩

end Shortest

end CopyOracle
