import CopyOracle.Number.Binomial
import Mathlib.Algebra.Group.Nat.Defs
import Mathlib.Data.Nat.Choose.Basic
/-!
# The product formula and the true binomial

The product formula stays exact as long as each product fits a 128-bit word, because the product
before each division is `(i + 1)` times a binomial. A product that leaves the word makes the
answer the largest word. That answer is never below the true binomial in the range that matters:
a binomial whose formula leaves the word is at least `2 ^ 64`, so comparing a 64-bit number with
the answer is comparing it with the true binomial.
-/

namespace CopyOracle

/-- Each division of the formula is exact and gives the next binomial of the row. -/
theorem choose_mul_div (n i : Nat) : n.choose i * (n - i) / (i + 1) = n.choose (i + 1) := by
  rw [← Nat.choose_succ_right_eq]
  exact Nat.mul_div_cancel _ (Nat.succ_pos i)

/-- While every product fits, the formula walks from one binomial of the row to a later one. -/
theorem binomialFactors_eq_choose (n count i : Nat)
    (fits : ∀ j, i ≤ j → j < i + count → n.choose j * (n - j) ≤ wordMax128) :
    binomialFactors n count i (n.choose i) = n.choose (i + count) := by
  induction count generalizing i with
  | zero => rfl
  | succ count ih =>
    have first : n.choose i * (n - i) ≤ wordMax128 := fits i (by omega) (by omega)
    rw [binomialFactors, if_pos first, choose_mul_div,
      ih (i + 1) fun j lower upper => fits j (by omega) (by omega)]
    congr 1
    omega

/-- Once a product leaves the word, the answer is the largest word. -/
theorem binomialFactors_eq_wordMax128 (n count i j : Nat) (lower : i ≤ j) (upper : j < i + count)
    (large : wordMax128 < n.choose j * (n - j)) :
    binomialFactors n count i (n.choose i) = wordMax128 := by
  induction count generalizing i with
  | zero => omega
  | succ count ih =>
    by_cases first : n.choose i * (n - i) ≤ wordMax128
    · have later : i + 1 ≤ j := by
        rcases Nat.eq_or_lt_of_le lower with rfl | later
        · omega
        · exact later
      rw [binomialFactors, if_pos first, choose_mul_div]
      exact ih (i + 1) later (by omega)
    · rw [binomialFactors, if_neg first]

/-- The formula may use the smaller of the two complementary sizes. -/
theorem choose_min {n r : Nat} (inside : r ≤ n) : n.choose (min r (n - r)) = n.choose r := by
  rcases Nat.le_total r (n - r) with smaller | larger
  · rw [Nat.min_eq_left smaller]
  · rw [Nat.min_eq_right larger, Nat.choose_symm inside]

/-- The answer is the true binomial when every product fits. -/
theorem binomial_eq_choose {n r : Nat}
    (fits : ∀ j < min r (n - r), n.choose j * (n - j) ≤ wordMax128) :
    binomial n r = n.choose r := by
  rw [binomial]
  split
  · next outside => rw [Nat.choose_eq_zero_of_lt outside]
  · next inside =>
    have walk := binomialFactors_eq_choose n (min r (n - r)) 0
      fun j _ upper => fits j (by omega)
    rw [Nat.choose_zero_right, Nat.zero_add] at walk
    rw [walk, choose_min (by omega)]

/-- The answer is the largest word when a product does not fit. -/
theorem binomial_eq_wordMax128 {n r j : Nat} (inside : r ≤ n) (early : j < min r (n - r))
    (large : wordMax128 < n.choose j * (n - j)) : binomial n r = wordMax128 := by
  have walk := binomialFactors_eq_wordMax128 n (min r (n - r)) 0 j (Nat.zero_le j)
    (by omega) large
  rw [Nat.choose_zero_right] at walk
  rw [binomial, if_neg (by omega), walk]

/-- The binomials of a row grow up to its middle. -/
theorem choose_le_choose_of_le_half {n i r : Nat} (order : i ≤ r) (half : r ≤ n / 2) :
    n.choose i ≤ n.choose r := by
  induction r, order using Nat.le_induction with
  | base => exact Nat.le_refl _
  | succ r _ ih =>
    exact Nat.le_trans (ih (by omega)) (Nat.choose_le_succ_of_lt_half_left (by omega))

/-- A binomial whose formula leaves the 128-bit word is beyond every 64-bit number. The quotient
after the large product is at least `2 ^ 64` when the row is that short, and a longer row has no
smaller binomial than its own length. -/
theorem le_choose_of_large {n r j : Nat} (inside : r ≤ n) (early : j < min r (n - r))
    (large : wordMax128 < n.choose j * (n - j)) : 2 ^ 64 ≤ n.choose r := by
  rw [← choose_min inside]
  have grown : n.choose (j + 1) ≤ n.choose (min r (n - r)) :=
    choose_le_choose_of_le_half (by omega) (by omega)
  refine Nat.le_trans ?_ grown
  rcases Nat.lt_or_ge n (2 ^ 64) with short | long
  · by_contra small
    have exactProduct : n.choose (j + 1) * (j + 1) = n.choose j * (n - j) :=
      Nat.choose_succ_right_eq n j
    have bound : n.choose (j + 1) * (j + 1) ≤ (2 ^ 64 - 1) * 2 ^ 64 :=
      Nat.mul_le_mul (by omega) (by omega)
    have word : wordMax128 = 2 ^ 128 - 1 := rfl
    omega
  · have first : n.choose 1 ≤ n.choose (j + 1) :=
      choose_le_choose_of_le_half (by omega) (by omega)
    rw [Nat.choose_one_right] at first
    omega

/-- A 64-bit number is within the answer exactly when it is within the true binomial. -/
theorem le_binomial_iff {n r k : Nat} (word : k < 2 ^ 64) :
    k ≤ binomial n r ↔ k ≤ n.choose r := by
  by_cases fits : ∀ j < min r (n - r), n.choose j * (n - j) ≤ wordMax128
  · rw [binomial_eq_choose fits]
  · push Not at fits
    obtain ⟨j, early, large⟩ := fits
    have inside : r ≤ n := by omega
    have beyond := le_choose_of_large inside early large
    have largest : wordMax128 = 2 ^ 128 - 1 := rfl
    rw [binomial_eq_wordMax128 inside early large]
    omega

/-- A coefficient on the way to one whose formula leaves the 128-bit word is above `2 ^ 64` already,
since what it was multiplied with is a 64-bit number. -/
theorem lt_choose_of_large {n r j : Nat} (word : n < 2 ^ 64) (early : j < min r (n - r))
    (large : 2 ^ 128 ≤ n.choose j * (n - j)) : 2 ^ 64 < n.choose r := by
  have inside : r ≤ n := by omega
  have grown : n.choose j ≤ n.choose (min r (n - r)) :=
    choose_le_choose_of_le_half (by omega) (by omega)
  rw [choose_min inside] at grown
  refine Nat.lt_of_lt_of_le ?_ grown
  by_contra small
  have bound : n.choose j * (n - j) ≤ 2 ^ 64 * (2 ^ 64 - 1) :=
    Nat.mul_le_mul (by omega) (by omega)
  omega

/-- The calls of the recursion that computes a binomial: how many factors are left, the next of
them, and the product of those before it. -/
inductive BinomialCall (n r : Nat) : (count i product : Nat) → Prop
  /-- All factors of the shorter side are left. -/
  | first (inside : r ≤ n) : BinomialCall n r (min r (n - r)) 0 1
  /-- One factor has been multiplied and divided by. -/
  | next {count i product : Nat} (call : BinomialCall n r (count + 1) i product)
    (fits : product * (n - i) ≤ wordMax128) :
    BinomialCall n r count (i + 1) (product * (n - i) / (i + 1))

namespace BinomialCall

variable {n r count i product : Nat}

/-- A call ends in the answer. -/
theorem answer (call : BinomialCall n r count i product) :
    binomialFactors n count i product = binomial n r := by
  induction call with
  | first inside => rw [binomial, if_neg (by omega)]
  | next _ fits ih => rw [← ih, binomialFactors, if_pos fits]

/-- The product of a call is the binomial of the factors before it, and the factors before and
after it are those of the shorter side. -/
theorem product_eq (call : BinomialCall n r count i product) :
    product = n.choose i ∧ i + count = min r (n - r) := by
  induction call with
  | first inside => exact ⟨(Nat.choose_zero_right n).symm, Nat.zero_add _⟩
  | next _ _ ih =>
    obtain ⟨rfl, total⟩ := ih
    exact ⟨choose_mul_div n _, by omega⟩

/-- The division of a call leaves no remainder. -/
theorem dvd (call : BinomialCall n r (count + 1) i product) : i + 1 ∣ product * (n - i) := by
  rw [call.product_eq.1, ← Nat.choose_succ_right_eq]
  exact Nat.dvd_mul_left (i + 1) (n.choose (i + 1))

end BinomialCall

/-- What the product formula computes in 128-bit words. -/
structure BinomialLaw (n r : Nat) : Prop where
  /-- Every call works on a true binomial and ends in the answer. -/
  calls : ∀ count i product, BinomialCall n r count i product →
    product = n.choose i ∧ binomialFactors n count i product = binomial n r
  /-- No division leaves a remainder. -/
  divides : ∀ count i product, BinomialCall n r (count + 1) i product →
    i + 1 ∣ product * (n - i)
  /-- The answer is the true binomial where every product fits. -/
  fits : (∀ i < min r (n - r), n.choose i * (n - i) < 2 ^ 128) → binomial n r = n.choose r
  /-- Where a product does not fit the answer is the largest word, and the true binomial is above
  every 64-bit number. -/
  leaves : (∃ i < min r (n - r), 2 ^ 128 ≤ n.choose i * (n - i)) →
    binomial n r = 2 ^ 128 - 1 ∧ 2 ^ 64 < n.choose r
  /-- The answer is never too small for a comparison with a 64-bit number. -/
  bound : min (n.choose r) (2 ^ 64) ≤ binomial n r

/-- The law of the product formula for 64-bit sizes. -/
theorem binomialLaw_of_lt {n r : Nat} (word : n < 2 ^ 64) : BinomialLaw n r := by
  have largest : wordMax128 = 2 ^ 128 - 1 := rfl
  have fits (small : ∀ i < min r (n - r), n.choose i * (n - i) < 2 ^ 128) :
      binomial n r = n.choose r :=
    binomial_eq_choose fun i early => by
      have product := small i early
      omega
  have leaves : (∃ i < min r (n - r), 2 ^ 128 ≤ n.choose i * (n - i)) →
      binomial n r = 2 ^ 128 - 1 ∧ 2 ^ 64 < n.choose r := by
    rintro ⟨i, early, large⟩
    exact ⟨binomial_eq_wordMax128 (by omega) early (by omega), lt_choose_of_large word early large⟩
  refine ⟨fun _ _ _ call => ⟨call.product_eq.1, call.answer⟩, fun _ _ _ call => call.dvd, fits,
    leaves, ?_⟩
  by_cases small : ∀ i < min r (n - r), n.choose i * (n - i) < 2 ^ 128
  · rw [fits small]
    exact Nat.min_le_left _ _
  · push Not at small
    have saturated := (leaves small).1
    omega

end CopyOracle
