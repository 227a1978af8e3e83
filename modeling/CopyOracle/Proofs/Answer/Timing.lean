import CopyOracle.Answer.Timing
import CopyOracle.Proofs.Number.Numeral
import CopyOracle.Proofs.Text.Occurrence
import Mathlib.Algebra.Order.Floor.Semifield
import Mathlib.Data.Rat.Floor
import Mathlib.Tactic.Linarith
import Mathlib.Tactic.NormNum
import Mathlib.Tactic.Positivity
import Mathlib.Tactic.Ring
/-!
# The reported time is exact

The time of a text is that of the first word behind the label, on the first line that has a word
there. A word is read exactly when it is a numeral of a 64-bit number, with a point and any number
of digits behind it or without, and then the time is that decimal number of milliseconds rounded
down to a nanosecond. The reader looks at six digits of the fraction only, but filling a fraction
with zeros and cutting it after six digits is the same as scaling it and rounding down. The number
is below the limit of 64 bits with any fraction, so its nanoseconds are always a duration.
-/

namespace CopyOracle

namespace Timing

/-- The word is the first one behind the first label of a line. -/
def StandsIn (token line : Text) : Prop :=
  ∃ before after, line = before ++ (label ++ after) ∧
    (∀ earlier later, line = earlier ++ (label ++ later) → before.length ≤ earlier.length) ∧
    after.words.head? = some token

/-- The word is that of the first line with a word behind its label. -/
def Announces (text token : Text) : Prop :=
  ∃ before line after, text.lines = before ++ line :: after ∧ StandsIn token line ∧
    ∀ earlier ∈ before, ∀ other, ¬StandsIn other earlier

/-- The word is a numeral of a 64-bit number with a decimal fraction of any length, which may be
empty and then also stand without its point. -/
def Milliseconds (token : Text) (value : ℚ) : Prop :=
  ∃ (whole fraction : Text) (n : Nat),
    (token = whole ∧ fraction = [] ∨ token = whole ++ '.' :: fraction) ∧
    Numeral.Denotes whole n ∧ n < UInt64.size ∧ (∀ c ∈ fraction, c.isDigit = true) ∧
    value = n + (Nat.ofDigitChars 10 fraction 0 : ℚ) / 10 ^ fraction.length

/-- The reader of a line finds the word that stands there. -/
theorem standsIn_iff {token line : Text} : StandsIn token line ↔
    ((line.after? label).bind fun rest => rest.words.head?) = some token := by
  simp only [Option.bind_eq_some_iff, Text.after?_eq_some_iff]
  constructor
  · rintro ⟨before, after, split, first, found⟩
    exact ⟨after, ⟨before, split, first⟩, found⟩
  · rintro ⟨after, ⟨before, split, first⟩, found⟩
    exact ⟨before, after, split, first, found⟩

/-- The reader of a text finds the word that it announces. -/
theorem token?_eq_some_iff {text token : Text} :
    token? text = some token ↔ Announces text token := by
  simp only [token?, List.findSome?_eq_some_iff, Announces, standsIn_iff,
    Option.eq_none_iff_forall_ne_some, ne_eq]

/-- Six digits of a fraction are its nanoseconds, rounded down. -/
theorem fractionNanoseconds_eq {fraction : Text} (all : ∀ c ∈ fraction, c.isDigit = true) :
    fractionNanoseconds fraction =
      10 ^ 6 * Nat.ofDigitChars 10 fraction 0 / 10 ^ fraction.length := by
  have filled : ∀ c ∈ fraction ++ List.replicate 6 '0', c.isDigit = true := by
    intro c member
    rcases List.mem_append.mp member with digit | zero
    · exact all c digit
    · rw [List.eq_of_mem_replicate zero]
      rfl
  rw [fractionNanoseconds, Numeral.ofDigitChars_take filled, List.length_append,
    List.length_replicate, Nat.add_sub_cancel, Nat.ofDigitChars_append,
    Nat.ofDigitChars_replicate_zero]

/-- Rounding down the nanoseconds of a decimal number rounds down those of its fraction. -/
theorem floor_nanoseconds (whole digits places : Nat) :
    ⌊(1000000 : ℚ) * (whole + digits / 10 ^ places)⌋₊ =
      whole * Duration.perMillisecond + 10 ^ 6 * digits / 10 ^ places := by
  have apart : (1000000 : ℚ) * (whole + digits / 10 ^ places) =
      ((10 ^ 6 * digits : Nat) : ℚ) / ((10 ^ places : Nat) : ℚ) +
        ((whole * Duration.perMillisecond : Nat) : ℚ) := by
    push_cast [Duration.perMillisecond]
    ring
  rw [apart, Nat.floor_add_natCast (by positivity), Nat.floor_div_eq_div, Nat.add_comm]

/-- A numeral has no point. -/
theorem point_not_mem {token : Text} {n : Nat} (denotes : Numeral.Denotes token n) :
    '.' ∉ token := by
  intro member
  rcases denotes.plain member with digit | plus <;> contradiction

/-- A word is taken apart at its first point; without a point all of it is the whole part. -/
theorem parts_eq_iff {token whole fraction : Text} (plain : '.' ∉ whole) :
    (token.cut? ['.']).getD (token, []) = (whole, fraction) ↔
      token = whole ∧ fraction = [] ∨ token = whole ++ '.' :: fraction := by
  cases found : token.cut? ['.'] with
  | none =>
    have absent := (Text.cut?_eq_none_iff (List.cons_ne_nil _ _)).mp found
    have uncut : token ≠ whole ++ '.' :: fraction := by
      rintro rfl
      exact absent ⟨whole, fraction, by rw [List.append_assoc, List.singleton_append]⟩
    rw [Option.getD_none, Prod.mk.injEq, or_iff_left uncut, eq_comm (a := fraction)]
  | some parts =>
    obtain ⟨before, after⟩ := parts
    obtain ⟨rfl, first⟩ := Text.cut?_singleton_eq_some_iff.mp found
    rw [Option.getD_some]
    constructor
    · intro same
      obtain ⟨rfl, rfl⟩ := Prod.mk.inj same
      exact .inr rfl
    · rintro (⟨same, _⟩ | same)
      · exact absurd (same ▸ List.mem_append_right _ List.mem_cons_self) plain
      · have cut := Text.cut?_singleton_eq_some_iff.mpr ⟨same, plain⟩
        exact Option.some.inj (found.symm.trans cut)

/-- Exactly the decimal numbers of milliseconds are read, each as its nanoseconds rounded down. -/
theorem ofToken?_eq_some_iff {token : Text} {time : Duration} : ofToken? token = some time ↔
    ∃ value, Milliseconds token value ∧ time = ⟨⌊1000000 * value⌋₊⟩ := by
  constructor
  · intro read
    rw [ofToken?] at read
    cases parts : (token.cut? ['.']).getD (token, []) with
    | mk whole fraction =>
      simp only [parts] at read
      split at read
      · contradiction
      · next n number =>
        split at read
        · next digits =>
          obtain ⟨denotes, bound⟩ := Numeral.readSize?_eq_some_iff.mp number
          have shape := (parts_eq_iff (point_not_mem denotes)).mp parts
          have all := List.all_eq_true.mp digits
          refine ⟨_, ⟨whole, fraction, n, shape, denotes, bound, all, rfl⟩, ?_⟩
          rw [floor_nanoseconds, ← fractionNanoseconds_eq all]
          exact (Option.some.inj read).symm
        · contradiction
  · rintro ⟨_, ⟨whole, fraction, n, shape, denotes, bound, all, rfl⟩, rfl⟩
    have parts := (parts_eq_iff (point_not_mem denotes)).mpr shape
    have number := Numeral.readSize?_eq_some_iff.mpr ⟨denotes, bound⟩
    rw [floor_nanoseconds, ← fractionNanoseconds_eq all, ofToken?]
    simp only [parts, number, List.all_eq_true.mpr all, if_true]

/-- A time is reported exactly where a decimal number of milliseconds is announced. -/
theorem reported?_eq_some_iff {text : Text} {time : Duration} : reported? text = some time ↔
    ∃ token value, Announces text token ∧ Milliseconds token value ∧
      time = ⟨⌊1000000 * value⌋₊⟩ := by
  simp only [reported?, Option.bind_eq_some_iff, token?_eq_some_iff, ofToken?_eq_some_iff,
    exists_and_left]

/-- No fraction brings a number of milliseconds to the limit of 64 bits. -/
theorem Milliseconds.lt {token : Text} {value : ℚ} (number : Milliseconds token value) :
    value < UInt64.size := by
  obtain ⟨_, fraction, n, _, _, bound, all, rfl⟩ := number
  have part : (Nat.ofDigitChars 10 fraction 0 : ℚ) / 10 ^ fraction.length < 1 := by
    rw [div_lt_one (by positivity)]
    exact_mod_cast Numeral.ofDigitChars_lt all
  have whole : (n : ℚ) + 1 ≤ UInt64.size := by exact_mod_cast bound
  exact ((add_lt_add_iff_left _).mpr part).trans_le whole

/-- Less than the limit of 64 bits in milliseconds is a duration. -/
theorem floor_le_largest {value : ℚ} (bound : value < UInt64.size) :
    ⌊1000000 * value⌋₊ ≤ Duration.largest.nanoseconds := by
  have scaled : 1000000 * value ≤ ((1000000 * UInt64.size : Nat) : ℚ) := by
    rw [Nat.cast_mul]
    exact mul_le_mul_of_nonneg_left bound.le (by norm_num)
  calc ⌊1000000 * value⌋₊
      ≤ ⌊((1000000 * UInt64.size : Nat) : ℚ)⌋₊ := Nat.floor_le_floor scaled
    _ = 1000000 * UInt64.size := Nat.floor_natCast _
    _ ≤ Duration.largest.nanoseconds := by decide

/-- A text reports a time exactly where it announces a decimal number of milliseconds, and the time
is the number rounded down to a nanosecond, always a duration. Of two texts that announce numbers,
the one with the larger number never reports the smaller time. -/
theorem reported_exact (text : Text) :
    (∀ time, reported? text = some time ↔ ∃ token value, Announces text token ∧
      Milliseconds token value ∧ time = ⟨⌊1000000 * value⌋₊⟩) ∧
    (∀ time, reported? text = some time → time.nanoseconds ≤ Duration.largest.nanoseconds) ∧
    ∀ token value, Announces text token → Milliseconds token value →
      ∀ other more greater, Announces other more → Milliseconds more greater → value ≤ greater →
        ∃ time later, reported? text = some time ∧ reported? other = some later ∧
          time.nanoseconds ≤ later.nanoseconds := by
  refine ⟨fun time => reported?_eq_some_iff, fun time reported => ?_, ?_⟩
  · obtain ⟨token, value, _, number, rfl⟩ := reported?_eq_some_iff.mp reported
    exact floor_le_largest number.lt
  · intro token value here number other more greater there larger order
    have first := reported?_eq_some_iff.mpr ⟨token, value, here, number, rfl⟩
    have second := reported?_eq_some_iff.mpr ⟨more, greater, there, larger, rfl⟩
    refine ⟨_, _, first, second, Nat.floor_le_floor ?_⟩
    exact mul_le_mul_of_nonneg_left order (by norm_num)

/-- A line with nothing behind its label is passed over, digits after the sixth place are cut off,
and the largest number of milliseconds with a fraction is still a duration. -/
theorem reported_exact_longest :
    let text : Text := "TIME_MS: \nrun TIME_MS:+0012.34567891 TIME_MS: 7\r\nTIME_MS: 1\n".toList
    let other : Text := "TIME_MS:\t18446744073709551615.9999999 ms".toList
    let token : Text := "+0012.34567891".toList
    let more : Text := "18446744073709551615.9999999".toList
    (∃ token value, Announces text token ∧ Milliseconds token value ∧
      (⟨12345678⟩ : Duration) = ⟨⌊1000000 * value⌋₊⟩) ∧
    Announces text token ∧ Milliseconds token (12 + 34567891 / 10 ^ 8) ∧
    Announces other more ∧ Milliseconds more (18446744073709551615 + 9999999 / 10 ^ 7) ∧
    ∃ time later, reported? text = some time ∧ reported? other = some later ∧
      time.nanoseconds ≤ later.nanoseconds ∧
      later.nanoseconds ≤ Duration.largest.nanoseconds := by
  intro text other token more
  have shown : reported? text = some ⟨12345678⟩ := by decide +kernel
  have first : Announces text token := token?_eq_some_iff.mp (by decide +kernel)
  have second : Announces other more := token?_eq_some_iff.mp (by decide +kernel)
  have small : Milliseconds token (12 + 34567891 / 10 ^ 8) := by
    obtain ⟨denotes, bound⟩ := Numeral.readSize?_eq_some_iff.mp
      (show Numeral.readSize? "+0012".toList = some 12 by decide +kernel)
    exact ⟨_, "34567891".toList, 12, .inr rfl, denotes, bound, by decide, by norm_cast⟩
  have large : Milliseconds more (18446744073709551615 + 9999999 / 10 ^ 7) := by
    obtain ⟨denotes, bound⟩ := Numeral.readSize?_eq_some_iff.mp
      (show Numeral.readSize? "18446744073709551615".toList = some 18446744073709551615 by
        decide +kernel)
    exact ⟨_, "9999999".toList, _, .inr rfl, denotes, bound, by decide, by norm_cast⟩
  obtain ⟨time, later, here, there, order⟩ :=
    (reported_exact text).2.2 _ _ first small other _ _ second large (by norm_num)
  exact ⟨((reported_exact text).1 _).mp shown, first, small, second, large, time, later, here,
    there, order, (reported_exact other).2.1 later there⟩

end Timing

end CopyOracle
