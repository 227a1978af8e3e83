/-!
# Doubles as exact fractions

A finite double is a 53-bit integer times a power of two. `Binary.ofFloat?` reads both from the
bits, so that everything said about the decimal text of a double is exact arithmetic on naturals.
-/
namespace CopyOracle

/-- The absolute value of a finite double: `mantissa * 2 ^ exponent`. -/
structure Binary where
  /-- The integer part of the product. -/
  mantissa : Nat
  /-- The power of two. -/
  exponent : Int
  /-- Whether the double below is only half as far away as the one above. -/
  lowerCloser : Bool
deriving DecidableEq, Repr

namespace Binary

/-- The sign bit of a double. -/
def isNegative (x : Float) : Bool := x.toBits >>> 63 == 1

/-- The absolute value of a double that is finite. -/
def ofFloat? (x : Float) : Option Binary :=
  let bits := x.toBits.toNat
  let fraction : Nat := bits % Nat.pow 2 52
  let exponent : Nat := bits / Nat.pow 2 52 % Nat.pow 2 11
  if exponent = 2047 then none
  else if exponent = 0 then some ⟨fraction, -1074, false⟩
  else some ⟨fraction + Nat.pow 2 52, (exponent : Int) - 1075, fraction = 0 && 1 < exponent⟩

/-- The numerator of a quarter of the last place times `parts`, over `quarterDenominator`. -/
def quarters (x : Binary) (parts : Nat) : Nat := parts * Nat.pow 2 (x.exponent - 2).toNat

/-- The denominator that goes with `quarters`. -/
def quarterDenominator (x : Binary) : Nat := Nat.pow 2 (2 - x.exponent).toNat

end Binary

end CopyOracle
