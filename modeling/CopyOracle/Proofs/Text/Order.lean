import Mathlib.Data.List.Lex
import Mathlib.Tactic.Common
/-!
# The order of texts and the order of their bytes

Texts are compared by their characters. The bytes of a character with a smaller code point come
before those of one with a larger code point, whatever follows them, so the bytes of texts are in
the order of the texts.
-/

namespace CopyOracle

namespace Text

/-- The larger of two numbers has the larger front digits, or the same and a larger last digit. -/
theorem div_lt_or_mod_lt {n m : Nat} (less : n < m) (base : Nat) :
    n / base < m / base ∨ n / base = m / base ∧ n % base < m % base := by
  rcases Nat.lt_or_ge (n / base) (m / base) with smaller | atLeast
  · exact .inl smaller
  · have same := Nat.le_antisymm (Nat.div_le_div_right (Nat.le_of_lt less)) atLeast
    refine .inr ⟨same, ?_⟩
    have first := Nat.div_add_mod n base
    have second := Nat.div_add_mod m base
    rw [same] at first
    omega

/-- The larger of two numbers is larger at the first of their four digits to the base 64 at which
they differ. -/
theorem digits_lt {n m : Nat} (less : n < m) : n / 262144 < m / 262144 ∨
    n / 262144 = m / 262144 ∧ (n / 4096 % 64 < m / 4096 % 64 ∨
      n / 4096 % 64 = m / 4096 % 64 ∧ (n / 64 % 64 < m / 64 % 64 ∨
        n / 64 % 64 = m / 64 % 64 ∧ n % 64 < m % 64)) := by
  have digits (n : Nat) : n / 64 / 64 = n / 4096 ∧ n / 4096 / 64 = n / 262144 := by
    simp only [Nat.div_div_eq_div_mul, Nat.reduceMul, and_self]
  rcases div_lt_or_mod_lt less 64 with front | last
  · rcases div_lt_or_mod_lt front 64 with front | last
    · rw [(digits n).1, (digits m).1] at front
      rcases div_lt_or_mod_lt front 64 with front | last
      · rw [(digits n).2, (digits m).2] at front
        exact .inl front
      · rw [(digits n).2, (digits m).2] at last
        exact .inr ⟨last.1, .inl last.2⟩
    · rw [(digits n).1, (digits m).1] at last
      rw [← (digits n).2, ← (digits m).2, last.1]
      exact .inr ⟨rfl, .inr ⟨rfl, .inl last.2⟩⟩
  · rw [← (digits n).2, ← (digits m).2, ← (digits n).1, ← (digits m).1, last.1]
    exact .inr ⟨rfl, .inr ⟨rfl, .inr ⟨rfl, last.2⟩⟩⟩

/-- The bytes of a smaller character come first, whatever follows. -/
theorem utf8EncodeChar_append_lt {c d : Char} (smaller : c < d) (front back : List UInt8) :
    String.utf8EncodeChar c ++ front < String.utf8EncodeChar d ++ back := by
  have less : c.val.toNat < d.val.toNat := UInt32.lt_iff_toNat_lt.mp smaller
  have bound : d.val.toNat < 1114112 := by
    have valid := d.valid
    simp only [UInt32.isValidChar, Nat.isValidChar] at valid
    omega
  have byte (n base offset : Nat) (positive : 0 < base) (small : base + offset ≤ 256) :
      (n % base + offset) % 256 = n % base + offset := by
    have := Nat.mod_lt n positive
    omega
  have leading (n : Nat) (within : n < 1114112) :
      (n / 262144 % 8 + 240) % 256 = n / 262144 + 240 := by omega
  have digits := digits_lt less
  simp only [String.utf8EncodeChar]
  -- The cases are the lengths of the two encodings.
  repeat' split
  all_goals
    simp only [List.cons_append, List.nil_append, List.cons_lt_cons_iff, UInt8.lt_iff_toNat_lt,
      ← UInt8.toNat_inj, UInt8.toNat_ofNat', Nat.reducePow, byte _ 64 128 (by decide) (by decide),
      byte _ 32 192 (by decide) (by decide), byte _ 16 224 (by decide) (by decide),
      leading _ bound, leading _ (Nat.lt_trans less bound)]
    omega

/-- The bytes of a smaller text come first. -/
theorem flatMap_utf8EncodeChar_lt {left right : List Char} (less : left < right) :
    left.flatMap String.utf8EncodeChar < right.flatMap String.utf8EncodeChar := by
  induction left generalizing right with
  | nil =>
    obtain _ | ⟨d, right⟩ := right
    · exact absurd less (List.lt_irrefl [])
    · obtain ⟨byte, rest, same⟩ := List.exists_cons_of_ne_nil (@String.utf8EncodeChar_ne_nil d)
      rw [List.flatMap_cons, same]
      exact List.nil_lt_cons _ _
  | cons c left ih =>
    obtain _ | ⟨d, right⟩ := right
    · exact absurd less (List.not_lt_nil _)
    · rw [List.flatMap_cons, List.flatMap_cons]
      rcases List.cons_lt_cons_iff.mp less with smaller | ⟨rfl, later⟩
      · exact utf8EncodeChar_append_lt smaller _ _
      · exact List.append_left_lt (ih later)

/-- The bytes of a text are those of its characters. -/
theorem toList_toUTF8 (text : String) :
    text.toUTF8.data.toList = text.toList.flatMap String.utf8EncodeChar := by
  rw [String.toUTF8, ← String.utf8Encode_toList, List.utf8Encode]
  simp

/-- The bytes of a smaller text come first. -/
theorem toUTF8_lt {left right : String} (less : left < right) :
    left.toUTF8.data.toList < right.toUTF8.data.toList := by
  rw [toList_toUTF8, toList_toUTF8]
  exact flatMap_utf8EncodeChar_lt less

end Text

end CopyOracle
