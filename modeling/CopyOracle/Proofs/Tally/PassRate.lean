import CopyOracle.Proofs.Number.Numeral
import CopyOracle.Proofs.Tally.Records
import CopyOracle.Proofs.Text.Occurrence
/-!
# The pass rate never flatters

The rate in tenths of a percent is rounded down, and the product it is taken from stops at the
largest 64-bit word, so it is never above the true rate and full marks are shown only when every
run passed. While a thousand times the number of runs is a 64-bit word the rate is the true one
rounded down; beyond that it can be lower, also when every run passed. Over no run there is no
rate, and the written one says so.

The brackets of a written rate hold the percentage. Different tenths are written as different
percentages, so what is shown tells the rate.
-/

namespace CopyOracle

namespace PassRate

variable {rate : PassRate} {tenths : Nat}

/-- A percentage with one decimal, of its tenths. -/
def percentage (tenths : Nat) : String := s!"{tenths / 10}.{tenths % 10}%"

/-- The percentage of a rate, or that there is none. -/
def shown (rate : PassRate) : String := (rate.perMille?.map percentage).getD "n/a"

/-- The written rate has the text in its brackets. -/
def Shows (rate : PassRate) (text : String) : Prop :=
  rate.describe = s!"{rate.passed}/{rate.total} ({text})"

/-- A percentage is its whole part, the point, its tenth, and the sign. -/
theorem toList_percentage (tenths : Nat) : (percentage tenths).toList =
    Numeral.digits (tenths / 10) ++ '.' :: (Numeral.digits (tenths % 10) ++ ['%']) := by
  simp only [percentage, String.toList_append, Nat.toString_eq_repr, Nat.toList_repr,
    List.append_assoc]
  rfl

/-- A thousand tenths are full marks. -/
theorem percentage_thousand : percentage 1000 = "100.0%" := by decide +kernel

/-- Different tenths are written as different percentages. -/
theorem percentage_injective : Function.Injective percentage := by
  intro left right same
  have cut (tenths : Nat) : Text.cut? (percentage tenths).toList ['.'] =
      some (Numeral.digits (tenths / 10), Numeral.digits (tenths % 10) ++ ['%']) := by
    refine Text.cut?_singleton_eq_some_iff.mpr ⟨toList_percentage tenths, fun point => ?_⟩
    exact absurd (Numeral.isDigit_of_mem_digits point) (by decide)
  have parts := (cut left).symm.trans (same ▸ cut right)
  obtain ⟨wholes, rests⟩ := Prod.mk.inj (Option.some.inj parts)
  have whole := (Numeral.denotes_digits (left / 10)).unique
    (wholes ▸ Numeral.denotes_digits (right / 10))
  have tenth := (Numeral.denotes_digits (left % 10)).unique
    (List.append_cancel_right rests ▸ Numeral.denotes_digits (right % 10))
  omega

/-- A percentage does not say that there is none. -/
theorem percentage_ne_missing (tenths : Nat) : percentage tenths ≠ "n/a" := by
  intro same
  have slash : '/' ∈ (percentage tenths).toList := same ▸ by decide
  simp only [toList_percentage, List.mem_append, List.mem_cons, List.not_mem_nil, or_false]
    at slash
  rcases slash with digit | point | digit | sign
  · exact absurd (Numeral.isDigit_of_mem_digits digit) (by decide)
  · contradiction
  · exact absurd (Numeral.isDigit_of_mem_digits digit) (by decide)
  · contradiction

/-- The brackets of a written rate hold its percentage, or that there is none. -/
theorem describe_eq (rate : PassRate) :
    rate.describe = s!"{rate.passed}/{rate.total} ({rate.shown})" := by
  have plain (text : String) : toString text = text := rfl
  rw [describe, shown]
  cases rate.perMille? with
  | none =>
    simp only [Option.map_none, Option.getD_none, String.append_assoc]
    rfl
  | some tenths =>
    simp only [Option.map_some, Option.getD_some, percentage, plain, String.append_assoc]
    rfl

/-- The percentage that is shown is that of the rate. -/
theorem shows_percentage_iff :
    rate.Shows (percentage tenths) ↔ rate.perMille? = some tenths := by
  rw [Shows, describe_eq, String.append_left_inj, String.append_right_inj]
  change rate.shown = percentage tenths ↔ _
  rw [shown]
  cases rate.perMille? with
  | none => simp [(percentage_ne_missing tenths).symm]
  | some found => simp [percentage_injective.eq_iff]

/-- The rate is over some runs, and is rounded down from a product that stops at a 64-bit word. -/
theorem perMille?_eq_some_iff : rate.perMille? = some tenths ↔
    rate.total ≠ 0 ∧ tenths = min (1000 * rate.passed) (UInt64.size - 1) / rate.total := by
  rw [perMille?, Nat.mul_comm 1000]
  split
  · next empty => simp [empty]
  · next some => simp [some, eq_comm]

/-- There is no rate exactly over no run. -/
theorem perMille?_eq_none_iff : rate.perMille? = none ↔ rate.total = 0 := by
  rw [perMille?, ite_eq_left_iff]
  simp

/-- The rate is at most the whole, and at most the true rate. -/
theorem le_of_perMille? (inside : rate.passed ≤ rate.total)
    (found : rate.perMille? = some tenths) :
    tenths ≤ 1000 ∧ tenths ≤ 1000 * rate.passed / rate.total := by
  obtain ⟨_, rfl⟩ := perMille?_eq_some_iff.mp found
  have rounded : min (1000 * rate.passed) (UInt64.size - 1) / rate.total ≤
      1000 * rate.passed / rate.total := Nat.div_le_div_right (Nat.min_le_left _ _)
  have most : 1000 * rate.passed / rate.total ≤ 1000 := by
    refine Nat.div_le_of_le_mul ?_
    rw [Nat.mul_comm rate.total]
    exact Nat.mul_le_mul_left 1000 inside
  exact ⟨rounded.trans most, rounded⟩

/-- The rate is the true one rounded down, while the product is a 64-bit word. -/
theorem eq_of_perMille? (few : rate.passed ≤ (UInt64.size - 1) / 1000)
    (found : rate.perMille? = some tenths) : tenths = 1000 * rate.passed / rate.total := by
  obtain ⟨_, rfl⟩ := perMille?_eq_some_iff.mp found
  rw [Nat.min_eq_left (by omega)]

/-- Full marks are shown only when every run passed. -/
theorem all_passed_of_shows (inside : rate.passed ≤ rate.total) (full : rate.Shows "100.0%") :
    rate.passed = rate.total := by
  have found : rate.perMille? = some 1000 := shows_percentage_iff.mp (percentage_thousand ▸ full)
  have reached : 1000 ≤ 1000 * rate.passed / rate.total := (le_of_perMille? inside found).2
  have positive := Nat.pos_of_ne_zero (perMille?_eq_some_iff.mp found).1
  have enough : 1000 * rate.total ≤ 1000 * rate.passed :=
    (Nat.le_div_iff_mul_le positive).mp reached
  omega

/-- Full marks are shown when every run passed, if there is one and they are not too many. -/
theorem shows_of_all_passed (some : 0 < rate.total) (all : rate.passed = rate.total)
    (few : rate.total ≤ (UInt64.size - 1) / 1000) : rate.Shows "100.0%" := by
  have found : rate.perMille? = .some 1000 := by
    refine perMille?_eq_some_iff.mpr ⟨some.ne', ?_⟩
    rw [all, Nat.min_eq_left (by omega), Nat.mul_div_cancel _ some]
  rw [← percentage_thousand]
  exact shows_percentage_iff.mpr found

/-- Out of as many runs, if they are not too many, fewer that passed show no larger percentage. -/
theorem shown_mono {fewer less more : Nat} (few : rate.passed ≤ (UInt64.size - 1) / 1000)
    (order : fewer ≤ rate.passed) (lower : Shows ⟨fewer, rate.total⟩ (percentage less))
    (upper : rate.Shows (percentage more)) : less ≤ more := by
  have first := eq_of_perMille? (order.trans few) (shows_percentage_iff.mp lower)
  have second := eq_of_perMille? few (shows_percentage_iff.mp upper)
  rw [first, second]
  exact Nat.div_le_div_right (Nat.mul_le_mul_left 1000 order)

/-- What a rate and its written form say of the runs. -/
structure Modest (rate : PassRate) : Prop where
  /-- There is no rate exactly over no run. -/
  missing : rate.perMille? = none ↔ rate.total = 0
  /-- The rate is at most the whole, and at most the true rate. -/
  below : ∀ tenths, rate.perMille? = some tenths →
    tenths ≤ 1000 ∧ tenths ≤ 1000 * rate.passed / rate.total
  /-- It is the true rate rounded down, while the product is a 64-bit word. -/
  exact : rate.passed ≤ (UInt64.size - 1) / 1000 → ∀ tenths, rate.perMille? = some tenths →
    tenths = 1000 * rate.passed / rate.total
  /-- Full marks are shown only when every run passed. -/
  full : rate.Shows "100.0%" → rate.passed = rate.total
  /-- Full marks are shown when every run passed, if there is one and they are not too many. -/
  whole : 0 < rate.total → rate.passed = rate.total →
    rate.total ≤ (UInt64.size - 1) / 1000 → rate.Shows "100.0%"
  /-- Out of as many runs, if they are not too many, fewer that passed show no larger percentage. -/
  monotone : rate.total ≤ (UInt64.size - 1) / 1000 → ∀ fewer ≤ rate.passed, ∀ less more,
    Shows ⟨fewer, rate.total⟩ (percentage less) → rate.Shows (percentage more) → less ≤ more

end PassRate

/-- The pass rate of recorded runs has no more runs passed than all, and all of them exactly when
every verdict passes. -/
theorem Counts.passRate_ofRecords (records : List Record) :
    (ofRecords records).passRate.passed ≤ (ofRecords records).passRate.total ∧
      ((ofRecords records).passRate.passed = (ofRecords records).passRate.total ↔
        ∀ record ∈ records, record.verdict.isPass = true) := by
  rw [passRate, passed_ofRecords, total_ofRecords]
  exact ⟨List.countP_le_length, List.countP_eq_length⟩

namespace PassRate

/-- A rate with no more runs passed than all is modest, and that of recorded runs is one, with all
passed exactly when every verdict passes. -/
theorem never_flatters :
    (∀ rate : PassRate, rate.passed ≤ rate.total → rate.Modest) ∧
    ∀ records : List Record,
      (Counts.ofRecords records).passRate.passed ≤ (Counts.ofRecords records).passRate.total ∧
      ((Counts.ofRecords records).passRate.passed = (Counts.ofRecords records).passRate.total ↔
        ∀ record ∈ records, record.verdict.isPass = true) := by
  refine ⟨fun rate inside => ?_, Counts.passRate_ofRecords⟩
  exact
    { missing := perMille?_eq_none_iff
      below := fun _ => le_of_perMille? inside
      exact := fun few _ => eq_of_perMille? few
      full := all_passed_of_shows inside
      whole := shows_of_all_passed
      monotone := fun few _ order _ _ => shown_mono (inside.trans few) order }

/-- The largest number of runs that all passed and show full marks; one more shows less. -/
theorem never_flatters_largest :
    let rate : PassRate := ⟨18446744073709551, 18446744073709551⟩
    let next : PassRate := ⟨18446744073709552, 18446744073709552⟩
    rate.passed ≤ rate.total ∧ rate.Modest ∧ rate.Shows "100.0%" ∧
      next.passed ≤ next.total ∧ next.Modest ∧ next.Shows "99.9%" := by
  intro rate next
  have modest : rate.Modest := never_flatters.1 rate (Nat.le_refl _)
  have modestNext : next.Modest := never_flatters.1 next (Nat.le_refl _)
  refine ⟨Nat.le_refl _, modest, modest.whole (by decide) rfl (by decide), Nat.le_refl _,
    modestNext, ?_⟩
  have written : percentage 999 = "99.9%" := by decide +kernel
  rw [← written]
  exact shows_percentage_iff.mpr (by decide)

/-- Of no run all passed, and no percentage is shown. -/
theorem nothing_shows_no_percentage :
    let rate : PassRate := ⟨0, 0⟩
    rate.passed ≤ rate.total ∧ rate.passed = rate.total ∧
      rate.total ≤ (UInt64.size - 1) / 1000 ∧ ¬rate.Shows "100.0%" ∧
      rate.describe = "0/0 (n/a)" := by
  intro rate
  refine ⟨Nat.le_refl _, rfl, Nat.zero_le _, fun shown => ?_, by decide +kernel⟩
  have found := shows_percentage_iff.mp (percentage_thousand ▸ shown)
  contradiction

end PassRate

end CopyOracle
