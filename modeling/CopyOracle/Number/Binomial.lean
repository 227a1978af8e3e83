/-!
# Binomial coefficients in 128 bits

`binomial n r` counts the `r`-element subsets of an `n`-element set by the product formula, one
factor at a time, in 128-bit words. When a product leaves the word the answer is the largest
word, so an answer below that is exact.
-/
namespace CopyOracle

/-- The largest 128-bit word. -/
def wordMax128 : Nat := Nat.pow 2 128 - 1

/-- The factors `(n - i) / (i + 1)` for the next `count` values of `i`, multiplied onto a product.
Each division is exact, because the product before it is `(i + 1)` times a binomial. -/
def binomialFactors (n : Nat) : (count i product : Nat) → Nat
  | 0, _, product => product
  | count + 1, i, product =>
    if product * (n - i) ≤ wordMax128 then
      binomialFactors n count (i + 1) (product * (n - i) / (i + 1))
    else wordMax128

/-- The number of `r`-element subsets of an `n`-element set, at most the largest 128-bit word. -/
def binomial (n r : Nat) : Nat :=
  if n < r then 0 else binomialFactors n (min r (n - r)) 0 1

end CopyOracle
