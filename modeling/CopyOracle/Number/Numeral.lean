import CopyOracle.Text.Basic

/-!
# Decimal numerals

A number is written with its decimal digits and no leading zero. A numeral is read with one
optional plus sign and any number of leading zeros, and only below the limit of the type it is
read for: a larger numeral is refused, never wrapped. Writing and reading agree on every number
below the limit.
-/
namespace CopyOracle.Numeral

/-- The decimal digits of a number, most significant first. -/
def digits (n : Nat) : Text := Nat.toDigits 10 n

/-- The value of a nonempty run of decimal digits. -/
def value? (token : Text) : Option Nat :=
  if !token.isEmpty && token.all Char.isDigit then some (Nat.ofDigitChars 10 token 0) else none

/-- The numeral without its one optional plus sign. -/
def unsigned : Text → Text
  | '+' :: rest => rest
  | token => token

/-- The number below `limit` that a numeral stands for. -/
def read? (limit : Nat) (token : Text) : Option Nat :=
  (value? (unsigned token)).filter (· < limit)

/-- A numeral of a 64-bit size: a vertex, a vertex count or a copy number. -/
def readSize? (token : Text) : Option Nat := read? UInt64.size token

/-- A numeral of a 32-bit word. -/
def readWord32? (token : Text) : Option UInt32 := (read? UInt32.size token).map UInt32.ofNat

/-- A numeral of a 64-bit word. -/
def readWord64? (token : Text) : Option UInt64 := (read? UInt64.size token).map UInt64.ofNat

/-- The integer of a signed 32-bit numeral, which may also have a minus sign. -/
def readStatus? : Text → Option Int
  | '-' :: rest => ((value? rest).filter (· ≤ Nat.pow 2 31)).map fun value => -(value : Int)
  | token => (read? (Nat.pow 2 31) token).map fun value => (value : Int)

/-- A written number is a nonempty run of digits. -/
theorem value?_digits (n : Nat) : value? (digits n) = some n := by
  have nonempty : (digits n).isEmpty = false := by
    simp [digits, Nat.toDigits_ne_nil]
  have allDigits : (digits n).all Char.isDigit = true := by
    simp only [List.all_eq_true]
    intro c member
    exact Nat.isDigit_of_mem_toDigits (by omega) (by omega) member
  have back : Nat.ofDigitChars 10 (digits n) 0 = n :=
    Nat.ofDigitChars_toDigits (by omega) (by omega)
  simp only [value?, nonempty, allDigits, back, Bool.not_false, Bool.and_self, ↓reduceIte]

/-- Reading what was written returns the number, below the limit. -/
theorem read?_digits {n limit : Nat} (below : n < limit) : read? limit (digits n) = some n := by
  have sign : unsigned (digits n) = digits n := by
    have read := value?_digits n
    generalize digits n = token at read
    unfold unsigned
    split
    · rename_i rest
      have notDigit : Char.isDigit '+' = false := by decide
      simp [value?, notDigit] at read
    · rfl
  simp [read?, sign, value?_digits, Option.filter, below]

end CopyOracle.Numeral
