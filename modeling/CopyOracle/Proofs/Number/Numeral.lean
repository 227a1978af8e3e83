import CopyOracle.Number.Numeral
import CopyOracle.Proofs.Text
import Mathlib.Algebra.Ring.Nat
/-!
# Numerals and the numbers they denote

`Numeral.Denotes` is the grammar of a numeral: one plus sign or none, then decimal digits. The
readers accept exactly the numerals of numbers below their limit, and the digits of a number are
a numeral of it. Digits are not white space, so a written number stands between any white space
as a word of its own. The first digits of a run are the quotient of the whole by a power of ten.
-/

namespace CopyOracle

namespace Numeral

/-- The token is one plus sign or none and then the decimal digits of the number, with any zeros
in front. -/
def Denotes (token : Text) (n : Nat) : Prop :=
  ∃ digits : Text, (token = digits ∨ token = '+' :: digits) ∧ digits ≠ [] ∧
    (∀ c ∈ digits, c.isDigit = true) ∧ Nat.ofDigitChars 10 digits 0 = n

/-- A nonempty run of digits has its value. -/
theorem value?_eq_some_iff {token : Text} {n : Nat} : value? token = some n ↔
    token ≠ [] ∧ (∀ c ∈ token, c.isDigit = true) ∧ Nat.ofDigitChars 10 token 0 = n := by
  rw [value?]
  split
  · next digits =>
    rw [Bool.and_eq_true, Bool.not_eq_true', List.isEmpty_eq_false_iff, List.all_eq_true] at digits
    rw [Option.some.injEq]
    exact ⟨fun value => ⟨digits.1, digits.2, value⟩, fun numeral => numeral.2.2⟩
  · next other =>
    rw [Bool.and_eq_true, Bool.not_eq_true', List.isEmpty_eq_false_iff, List.all_eq_true] at other
    simp only [reduceCtorEq, false_iff]
    exact fun numeral => other ⟨numeral.1, numeral.2.1⟩

/-- A text that does not begin with a plus sign has none taken off. -/
theorem unsigned_eq_self {token : Text} (digits : ∀ c ∈ token, c.isDigit = true) :
    unsigned token = token := by
  rw [unsigned.eq_def]
  split
  · next rest =>
    have plus := digits '+' List.mem_cons_self
    contradiction
  · rfl

/-- Exactly the numerals of numbers below the limit are read. -/
theorem read?_eq_some_iff {limit n : Nat} {token : Text} :
    read? limit token = some n ↔ Denotes token n ∧ n < limit := by
  rw [read?, Option.filter_eq_some_iff, value?_eq_some_iff, decide_eq_true_eq]
  refine and_congr_left fun _ => ?_
  constructor
  · rintro ⟨nonempty, digits, value⟩
    refine ⟨unsigned token, ?_, nonempty, digits, value⟩
    rw [unsigned.eq_def]
    split
    · exact .inr rfl
    · exact .inl rfl
  · rintro ⟨digits, rfl | rfl, nonempty, all, value⟩
    · rw [unsigned_eq_self all]
      exact ⟨nonempty, all, value⟩
    · exact ⟨nonempty, all, value⟩

/-- A size is read from exactly the numerals of 64-bit numbers. -/
theorem readSize?_eq_some_iff {n : Nat} {token : Text} :
    readSize? token = some n ↔ Denotes token n ∧ n < UInt64.size :=
  read?_eq_some_iff

/-- A 32-bit word is read from exactly its numerals. -/
theorem readWord32?_eq_some_iff {word : UInt32} {token : Text} :
    readWord32? token = some word ↔ Denotes token word.toNat := by
  rw [readWord32?, Option.map_eq_some_iff]
  constructor
  · rintro ⟨n, read, rfl⟩
    obtain ⟨denotes, bound⟩ := read?_eq_some_iff.mp read
    rwa [UInt32.toNat_ofNat_of_lt' bound]
  · intro denotes
    exact ⟨word.toNat, read?_eq_some_iff.mpr ⟨denotes, word.toNat_lt⟩, UInt32.ofNat_toNat⟩

/-- A 64-bit word is read from exactly its numerals. -/
theorem readWord64?_eq_some_iff {word : UInt64} {token : Text} :
    readWord64? token = some word ↔ Denotes token word.toNat := by
  rw [readWord64?, Option.map_eq_some_iff]
  constructor
  · rintro ⟨n, read, rfl⟩
    obtain ⟨denotes, bound⟩ := read?_eq_some_iff.mp read
    rwa [UInt64.toNat_ofNat_of_lt' bound]
  · intro denotes
    exact ⟨word.toNat, read?_eq_some_iff.mpr ⟨denotes, word.toNat_lt⟩, UInt64.ofNat_toNat⟩

/-- A written number holds digits only. -/
theorem isDigit_of_mem_digits {n : Nat} {c : Char} (member : c ∈ digits n) : c.isDigit = true :=
  (value?_eq_some_iff.mp (value?_digits n)).2.1 c member

/-- A written number has a digit. -/
theorem digits_ne_nil (n : Nat) : digits n ≠ [] := (value?_eq_some_iff.mp (value?_digits n)).1

/-- A written number is a numeral of the number. -/
theorem denotes_digits (n : Nat) : Denotes (digits n) n :=
  ⟨digits n, .inl rfl, value?_eq_some_iff.mp (value?_digits n)⟩

/-- A numeral denotes one number. -/
theorem Denotes.unique {token : Text} {n m : Nat} (here : Denotes token n)
    (there : Denotes token m) : n = m := by
  have first : read? (n + m + 1) token = some n := read?_eq_some_iff.mpr ⟨here, by omega⟩
  have second : read? (n + m + 1) token = some m := read?_eq_some_iff.mpr ⟨there, by omega⟩
  exact Option.some.inj (first.symm.trans second)

/-- A numeral holds digits and plus signs only. -/
theorem Denotes.plain {token : Text} {n : Nat} (denotes : Denotes token n) {c : Char}
    (member : c ∈ token) : c.isDigit = true ∨ c = '+' := by
  obtain ⟨digits, rfl | rfl, _, all, _⟩ := denotes
  · exact .inl (all c member)
  · rcases List.mem_cons.mp member with rfl | member
    · exact .inr rfl
    · exact .inl (all c member)

/-- A digit is not white space. -/
theorem isBlank_of_isDigit {c : Char} (digit : c.isDigit = true) : Text.isBlank c = false := by
  rw [Bool.eq_false_iff]
  intro blank
  have outside := Text.toNat_of_isBlank blank
  have inside := Text.isDigit_iff.mp digit
  omega

/-- A written number has nothing to trim. -/
theorem digits_trimmed (n : Nat) : (digits n).Trimmed :=
  have visible {c : Char} (member : c ∈ digits n) : Text.isBlank c = false :=
    isBlank_of_isDigit (isDigit_of_mem_digits member)
  Text.trimmed_of_ends (digits_ne_nil n) (visible (List.head_mem _)) (visible (List.getLast_mem _))

/-- Digits and spaces do not end a line. -/
theorem ne_lineEnd_of_plain {c : Char} (plain : c.isDigit = true ∨ c = ' ') :
    c ≠ '\n' ∧ c ≠ '\r' := by
  rcases plain with digit | rfl
  · constructor <;> rintro rfl <;> contradiction
  · decide

/-- A written number is one word. -/
theorem words_digits (n : Nat) : (digits n).words = [digits n] :=
  Text.words_eq_singleton (digits_ne_nil n) fun _ member =>
    isBlank_of_isDigit (isDigit_of_mem_digits member)

/-- A run of digits is below the power of ten with their number as its exponent. -/
theorem ofDigitChars_lt {run : Text} (all : ∀ c ∈ run, c.isDigit = true) :
    Nat.ofDigitChars 10 run 0 < 10 ^ run.length := by
  induction run with
  | nil => decide
  | cons c rest ih =>
    have later := ih fun d member => all d (List.mem_cons_of_mem c member)
    have digit : c.toNat - '0'.toNat ≤ 9 := by
      have bounds := Text.isDigit_iff.mp (all c List.mem_cons_self)
      have zero : '0'.toNat = 48 := rfl
      omega
    have first := Nat.mul_le_mul_left (10 ^ rest.length) digit
    rw [Nat.ofDigitChars_cons, Nat.ofDigitChars_eq_ofDigitChars_zero, Nat.mul_zero, Nat.zero_add,
      List.length_cons, Nat.pow_succ]
    omega

/-- The digits at the front of a run are the run divided by the power of ten of the other digits. -/
theorem ofDigitChars_take {run : Text} (all : ∀ c ∈ run, c.isDigit = true) (count : Nat) :
    Nat.ofDigitChars 10 (run.take count) 0 =
      Nat.ofDigitChars 10 run 0 / 10 ^ (run.length - count) := by
  have others := ofDigitChars_lt fun c member => all c (List.mem_of_mem_drop (i := count) member)
  rw [List.length_drop] at others
  have split : Nat.ofDigitChars 10 run 0 = 10 ^ (run.length - count) *
      Nat.ofDigitChars 10 (run.take count) 0 + Nat.ofDigitChars 10 (run.drop count) 0 := by
    conv_lhs => rw [← List.take_append_drop count run, Nat.ofDigitChars_append,
      Nat.ofDigitChars_eq_ofDigitChars_zero, List.length_drop]
  rw [split, Nat.mul_add_div (Nat.pow_pos (by decide)), Nat.div_eq_of_lt others, Nat.add_zero]

end Numeral

end CopyOracle
