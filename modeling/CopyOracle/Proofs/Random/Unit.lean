import CopyOracle.Proofs.Random.Draw
import Mathlib
/-!
# The double that is drawn from zero to one

The density of a random graph is a double, and the chance of an edge is that of this double. The
density is drawn as a chance straight from its 53 bits. Here the same double is followed through
its arithmetic: a whole number of at most 53 bits is a double without rounding, and scaling a
double by a power of two changes nothing but its exponent. So the density lies from zero to below
one, and its chance is the one that is drawn.
-/

namespace CopyOracle

open Float.Model (Format UnpackedFloat totalExponent)
open Float.Model.UnpackedFloat

section Comparison

variable {x y : Float}

/-- A double is smaller exactly when comparing says so. -/
theorem lt_iff_compare : x < y ↔ x.toModel.unpack.compare y.toModel.unpack = some .lt :=
  decide_eq_true_iff.trans beq_iff_eq

/-- Doubles are equal exactly when comparing says so. -/
theorem beq_iff_compare :
    (x == y) = true ↔ x.toModel.unpack.compare y.toModel.unpack = some .eq := by
  change (x.toModel.unpack.compare y.toModel.unpack == some .eq) = true ↔ _
  rw [beq_iff_eq]

/-- A smaller double is not equal. -/
theorem beq_eq_false_of_lt (smaller : x < y) : (x == y) = false := by
  rw [Bool.eq_false_iff, ne_eq, beq_iff_compare, lt_iff_compare.mp smaller]
  simp

/-- A double is at most another exactly when it is smaller or equal. -/
theorem le_iff_lt_or_beq : x ≤ y ↔ x < y ∨ (x == y) = true := by
  rw [lt_iff_compare, beq_iff_compare]
  refine decide_eq_true_iff.trans ?_
  change (x.toModel.unpack.compare y.toModel.unpack).any (·.isLE) = true ↔ _
  rcases x.toModel.unpack.compare y.toModel.unpack with _ | order
  · simp
  · cases order <;> simp

end Comparison

namespace Significand

/-- The mantissa has its full 53 bits, and the exponent is one of those of such mantissas. -/
structure Fits (m : Nat) (e : Int) : Prop where
  /-- The first of the 53 bits is set. -/
  lower : 2 ^ 52 ≤ m
  /-- There are no more bits. -/
  upper : m < 2 ^ 53
  /-- The exponent is no smaller than the least one. -/
  low : -1074 ≤ e
  /-- The exponent is no larger than the largest one. -/
  high : e ≤ 971

variable {m : Nat} {e : Int}

theorem Fits.positive (fits : Fits m e) : 0 < m := by
  have lower := fits.lower
  omega

/-- Shifting out zeros loses nothing. -/
theorem shiftRight_scaled (m shift : Nat) :
    ExtendedMantissa.ofMantissaAndAccuracy (m * 2 ^ shift) .exact >>> shift =
      ⟨m, false, false⟩ := by
  have peel (em : ExtendedMantissa) (n : Nat) : em >>> (n + 1) = (em >>> n).shiftRightOne := rfl
  induction shift generalizing m with
  | zero =>
    rw [Nat.pow_zero, Nat.mul_one]
    rfl
  | succ shift ih =>
    have scaled : m * 2 ^ (shift + 1) = 2 * m * 2 ^ shift := by ring
    rw [scaled, peel, ih]
    simp [ExtendedMantissa.shiftRightOne]

/-- A scaled mantissa of full length is shifted to its own length. -/
theorem shiftToTargetExponent_scaled (shift : Nat) (fits : Fits m (e + shift)) :
    shiftToTargetExponent Format.binary64 (m * 2 ^ shift) e .exact =
      (⟨m, false, false⟩, e + shift) := by
  have log : (m * 2 ^ shift).log2 = 52 + shift := by
    have positive : 0 < m * 2 ^ shift := Nat.mul_pos fits.positive (Nat.two_pow_pos shift)
    refine (Nat.log2_eq_iff positive.ne').mpr ⟨?_, ?_⟩
    · rw [Nat.pow_add]
      exact Nat.mul_le_mul_right _ fits.lower
    · rw [Nat.add_right_comm, Nat.pow_add]
      exact Nat.mul_lt_mul_of_pos_right fits.upper (Nat.two_pow_pos shift)
  have target : Format.binary64.targetExponent (totalExponent (m * 2 ^ shift) e) = e + shift := by
    have low := fits.low
    simp only [Format.targetExponent, totalExponent, log, Format.mantissaBits, Format.minExponent]
    omega
  have amount : (e + shift - e).toNat = shift := by omega
  simp only [shiftToTargetExponent, target, shiftToExponent, amount, shiftRight_scaled]

/-- A scaled mantissa of full length is rounded to itself. -/
theorem round_scaled (sign : Sign) (shift : Nat) (fits : Fits m (e + shift)) :
    roundWithAccuracy Format.binary64 sign (m * 2 ^ shift) e .exact =
      .finite sign m (e + shift) fits.positive := by
  have again : shiftToTargetExponent Format.binary64 m (e + shift) .exact =
      (⟨m, false, false⟩, e + shift) := by
    simpa using shiftToTargetExponent_scaled (m := m) (e := e + shift) 0 (by simpa using fits)
  have rounded : (⟨m, false, false⟩ : ExtendedMantissa).roundedMantissa = m := rfl
  simp only [roundWithAccuracy, shiftToTargetExponent_scaled shift fits, rounded, again,
    dif_neg fits.positive.ne']

/-- The parts of a double that is neither small nor infinite are unpacked from their fields. -/
theorem unpack_packComponents (sign : Sign) {exponent : BitVec 11} (mantissa : BitVec 52)
    (finite : exponent ≠ -1#11) (normal : exponent ≠ 0#11) :
    unpack Format.binary64 (packComponents Format.binary64 sign exponent mantissa) =
      .finite sign (2 ^ 52 + mantissa.toNat) (exponent.toNat - 1075) (by omega) := by
  have leading : (1#1 ++ mantissa).toNat = 2 ^ 52 + mantissa.toNat := by
    rw [BitVec.toNat_append, ← Nat.shiftLeft_add_eq_or_of_lt mantissa.isLt]
    rfl
  simp only [unpack, unpackMantissa_packComponents, unpackExponent_packComponents,
    unpackSign_packComponents, if_neg finite, if_neg normal, Sign.ofBitVec_toBitVec, leading]
  rfl

/-- What is packed is unpacked. -/
theorem unpack_pack (sign : Sign) (fits : Fits m e) :
    (Float.Model.pack (.finite sign m e fits.positive)).unpack =
      .finite sign m e fits.positive := by
  obtain ⟨lower, upper, low, high⟩ := fits
  have log : m.log2 + 1 = Format.binary64.mantissaBits :=
    congrArg (· + 1) ((Nat.log2_eq_iff (by omega)).mpr ⟨lower, upper⟩)
  obtain ⟨biased, same⟩ : ∃ biased : Nat, e + 1023 + 52 = biased :=
    ⟨_, (Int.toNat_of_nonneg (by omega)).symm⟩
  have number : (e + Format.binary64.exponentBias +
      Format.binary64.mantissaBitsWithoutImplicit).toNat = biased := by
    change (e + 1023 + 52).toNat = biased
    omega
  have field : (BitVec.ofNat 11 biased).toNat = biased := by
    rw [BitVec.toNat_ofNat]
    omega
  have finite : BitVec.ofNat 11 biased ≠ -1#11 := by
    intro ones
    have := congrArg BitVec.toNat ones
    rw [field] at this
    change biased = 2047 at this
    omega
  have normal : BitVec.ofNat 11 biased ≠ 0#11 := by
    intro zero
    have := congrArg BitVec.toNat zero
    rw [field] at this
    change biased = 0 at this
    omega
  have room : ¬2 ^ Format.binary64.exponentBits ≤ biased + 1 := by
    change ¬2048 ≤ biased + 1
    omega
  change unpack Format.binary64 (pack Format.binary64 _) = _
  simp only [pack, number, if_neg room, log, ↓reduceIte]
  refine (unpack_packComponents sign _ finite normal).trans ?_
  have mantissa : 2 ^ 52 + (BitVec.ofNat 52 m).toNat = m := by
    rw [BitVec.toNat_ofNat]
    omega
  simp only [mantissa, field]
  congr 1
  omega

/-- The double is the positive number of the mantissa and the exponent. -/
structure Of (x : Float) (m : Nat) (e : Int) : Prop where
  /-- The mantissa has its full length. -/
  fits : Fits m e
  /-- The double has these parts. -/
  parts : x.toModel.unpack = .finite .positive m e fits.positive

/-- A whole number of at most 53 bits is a double without rounding. -/
theorem Of.toFloat {word : UInt64} {length : Nat} (lower : 2 ^ length ≤ word.toNat)
    (upper : word.toNat < 2 ^ (length + 1)) (short : length ≤ 52) :
    Of word.toFloat (word.toNat * 2 ^ (52 - length)) (length - 52) := by
  have full : 2 ^ 52 = 2 ^ length * 2 ^ (52 - length) := by
    rw [← Nat.pow_add, Nat.add_sub_cancel' short]
  have fits : Fits (word.toNat * 2 ^ (52 - length)) (length - 52) := by
    refine ⟨?_, ?_, by omega, by omega⟩
    · rw [full]
      exact Nat.mul_le_mul_right _ lower
    · have longer : 2 ^ 53 = 2 ^ (length + 1) * 2 ^ (52 - length) := by
        rw [← Nat.pow_add]
        congr 1
        omega
      rw [longer]
      exact Nat.mul_lt_mul_of_pos_right upper (Nat.two_pow_pos _)
  have positive : 0 < word.toNat := Nat.lt_of_lt_of_le (Nat.two_pow_pos length) lower
  have log : word.toNat.log2 = length := (Nat.log2_eq_iff positive.ne').mpr ⟨lower, upper⟩
  have target : Format.binary64.targetExponent (totalExponent word.toNat 0) = length - 52 := by
    simp only [Format.targetExponent, totalExponent, log, Format.mantissaBits, Format.minExponent]
    omega
  have amount : (0 - ((length : Int) - 52)).toNat = 52 - length := by omega
  have exponent : (0 : Int) - (52 - length : Nat) = length - 52 := by omega
  have sign : compare (word.toNat : Int) 0 = .gt := by
    rw [Int.compare_eq_gt]
    omega
  have rounded : roundWithAccuracy Format.binary64 .positive (word.toNat * 2 ^ (52 - length))
      (length - 52) .exact =
        .finite .positive (word.toNat * 2 ^ (52 - length)) (length - 52) fits.positive := by
    simpa using round_scaled (e := length - 52) .positive 0 (by simpa using fits)
  refine ⟨fits, ?_⟩
  change (Float.Model.pack (UnpackedFloat.normalize Format.binary64 word.toNat 0
    .positive)).unpack = _
  simp only [UnpackedFloat.normalize, sign, UnpackedFloat.round, Int.toNat_natCast, target,
    decreaseExponent, amount, exponent, Nat.shiftLeft_eq, rounded]
  exact unpack_pack .positive fits

/-- Scaling by a power of two changes the exponent only. -/
theorem Of.mul {x y : Float} {d : Int} (number : Of x m e) (scale : Of y (2 ^ 52) d)
    (fits : Fits m (e + d + 52)) : Of (x * y) m (e + d + 52) := by
  refine ⟨fits, ?_⟩
  change (Float.Model.pack (UnpackedFloat.mul Format.binary64 x.toModel.unpack
    y.toModel.unpack)).unpack = _
  rw [number.parts, scale.parts]
  have rounded := round_scaled (e := e + d) .positive 52 (by simpa using fits)
  change (Float.Model.pack (roundWithAccuracy Format.binary64 .positive (m * 2 ^ 52) (e + d)
    .exact)).unpack = _
  rw [rounded]
  exact unpack_pack .positive fits

/-- Of two numbers the one with the smaller exponent is the smaller. -/
theorem Of.lt {x y : Float} {n : Nat} {d : Int} (number : Of x m e) (other : Of y n d)
    (smaller : e < d) : x < y := by
  rw [lt_iff_compare, number.parts, other.parts]
  change some ((compare e d).then (compare m n)) = some .lt
  rw [Int.compare_eq_lt.mpr smaller]
  rfl

/-- A number is above zero. -/
theorem Of.positive {x : Float} (number : Of x m e) : 0.0 < x := by
  rw [lt_iff_compare, number.parts]
  rfl

/-- A number below `2 ^ 64` that has no fraction is the word of its value. -/
theorem Of.toNat_toUInt64 {x : Float} {value : Nat} (number : Of x m e)
    (whole : m * 2 ^ e.toNat = value * 2 ^ (-e).toNat) (small : value < UInt64.size) :
    x.toUInt64.toNat = value := by
  have shift : (0 - (e - (e.toNat : Int))).toNat = (-e).toNat := by omega
  have integer : roundToInt .positive m e = value := by
    simp only [roundToInt, decreaseExponent, shiftToExponent, shift, Nat.shiftLeft_eq, Int.sub_zero,
      whole, shiftRight_scaled]
    rfl
  change (UInt64.ofNatClamp (toInt 0 (UInt64.size - 1 : Nat) x.toModel.unpack).toNat).toNat = _
  rw [number.parts]
  change (UInt64.ofNatClamp (roundToInt .positive m e).toNat).toNat = _
  rw [integer, Int.toNat_natCast, UInt64.ofNatClamp, dif_pos small]
  rfl

end Significand

namespace Draw

open Significand

/-- The double of 53 bits, a multiple of `2 ^ -53`. -/
def fraction (bits : UInt64) : Float := bits.toFloat * 1.1102230246251565e-16

/-- The number one. -/
theorem of_one : Of 1.0 (2 ^ 52) (-52) := ⟨⟨by decide, by decide, by decide, by decide⟩, rfl⟩

/-- The unit of the fractions is `2 ^ -53`. -/
theorem of_step : Of 1.1102230246251565e-16 (2 ^ 52) (-105) :=
  ⟨⟨by decide, by decide, by decide, by decide⟩, rfl⟩

/-- The number of words is `2 ^ 64`. -/
theorem of_words : Of 18446744073709551616.0 (2 ^ 52) 12 :=
  ⟨⟨by decide, by decide, by decide, by decide⟩, rfl⟩

variable {bits : UInt64} {length : Nat}

/-- A fraction of so many bits. -/
theorem of_fraction (lower : 2 ^ length ≤ bits.toNat) (upper : bits.toNat < 2 ^ (length + 1))
    (short : length ≤ 52) :
    Of (fraction bits) (bits.toNat * 2 ^ (52 - length)) (length - 105) := by
  have number := Of.toFloat lower upper short
  have fits := number.fits
  have exponent : (length : Int) - 52 + -105 + 52 = length - 105 := by omega
  rw [← exponent]
  exact number.mul of_step ⟨fits.lower, fits.upper, by omega, by omega⟩

/-- A fraction is zero or has so many bits. -/
theorem eq_zero_or_length (small : bits.toNat < 2 ^ 53) :
    bits = 0 ∨ ∃ length ≤ 52, 2 ^ length ≤ bits.toNat ∧ bits.toNat < 2 ^ (length + 1) := by
  rcases Nat.eq_zero_or_pos bits.toNat with zero | positive
  · exact .inl (UInt64.toNat_inj.mp zero)
  · have upper := Nat.lt_log2_self (n := bits.toNat)
    have lower := Nat.log2_self_le positive.ne'
    refine .inr ⟨bits.toNat.log2, ?_, lower, upper⟩
    exact Nat.lt_succ_iff.mp ((Nat.log2_lt positive.ne').mpr small)

/-- A fraction lies from zero to below one. -/
theorem fraction_mem (small : bits.toNat < 2 ^ 53) :
    0.0 ≤ fraction bits ∧ fraction bits < 1.0 := by
  rcases eq_zero_or_length small with rfl | ⟨length, short, lower, upper⟩
  · decide +kernel
  · have number := of_fraction lower upper short
    exact ⟨le_iff_lt_or_beq.mpr (.inl number.positive), number.lt of_one (by omega)⟩

/-- The words below the multiple of `2 ^ 64` by a fraction are its bits in front of 11 zeros. -/
theorem toUInt64_fraction (small : bits.toNat < 2 ^ 53) :
    (fraction bits * 18446744073709551616.0).toUInt64 = bits <<< 11 := by
  rcases eq_zero_or_length small with rfl | ⟨length, short, lower, upper⟩
  · decide +kernel
  · have number := of_fraction lower upper short
    have fits := number.fits
    have scaled := number.mul of_words (e := length - 105)
      ⟨fits.lower, fits.upper, by omega, by omega⟩
    have words : bits.toNat * 2 ^ 11 < UInt64.size := by
      have size : UInt64.size = 2 ^ 64 := rfl
      omega
    have shifted : (bits <<< 11).toNat = bits.toNat * 2 ^ 11 := by
      rw [UInt64.toNat_shiftLeft, Nat.shiftLeft_eq]
      exact Nat.mod_eq_of_lt words
    refine UInt64.toNat_inj.mp (shifted ▸ scaled.toNat_toUInt64 ?_ words)
    rw [Nat.mul_assoc, Nat.mul_assoc, ← Nat.pow_add, ← Nat.pow_add]
    congr 2
    omega

/-- The chance of a fraction is that of its bits in front of 11 zeros. -/
theorem ofProbability_fraction (small : bits.toNat < 2 ^ 53) :
    Chance.ofProbability (fraction bits) =
      ⟨(bits <<< 11).toNat, Nat.le_of_lt (bits <<< 11).toNat_lt⟩ := by
  have below := beq_eq_false_of_lt (fraction_mem small).2
  simp only [Chance.ofProbability, below, Bool.false_eq_true, if_false, toUInt64_fraction small]

/-- So many bits are drawn for a fraction. -/
theorem bits53_lt : bits53.Ensures (·.toNat < 2 ^ 53) :=
  Ensures.bind (Ensures.of_forall fun _ => trivial) fun drawn _ => Ensures.pure (by
    have word := drawn.toNat_lt
    have shifted : (drawn >>> 11).toNat = drawn.toNat / 2 ^ 11 := by
      rw [UInt64.toNat_shiftRight, Nat.shiftRight_eq_div_pow]
      rfl
    omega)

/-- A double from zero to below one is drawn. -/
theorem unit_mem : unit.Ensures fun drawn => 0.0 ≤ drawn ∧ drawn < 1.0 :=
  bits53_lt.bind fun _ small => .pure (fraction_mem small)

/-- The density that is drawn is the chance of the double that is drawn from the same bits. -/
theorem density_eq : density = Chance.ofProbability <$> unit := by
  funext g
  exact congrArg (·, (bits53.run g).2) (ofProbability_fraction (bits53_lt g)).symm

end Draw

/-- The chance of the probability zero is that of no word. -/
theorem Chance.ofProbability_zero {probability : Float} (zero : (probability == 0.0) = true) :
    (ofProbability probability).threshold = 0 := by
  obtain rfl | ⟨rfl, _⟩ | ⟨rfl, _⟩ := (Float.beq_iff_ne_nan_and_eq.mp zero).2.2
  all_goals decide +kernel

/-- What has the probability zero never happens. -/
theorem Draw.flip_never {probability : Float} (zero : (probability == 0.0) = true) :
    (flip (.ofProbability probability)).Ensures (· = false) := by
  have some : ¬(0 : Nat) = UInt64.size := by decide
  rw [flip, Chance.ofProbability_zero zero, if_neg some]
  exact .bind (.of_forall fun _ => trivial) fun drawn _ =>
    .pure (decide_eq_false (Nat.not_lt_zero drawn.toNat))

end CopyOracle
