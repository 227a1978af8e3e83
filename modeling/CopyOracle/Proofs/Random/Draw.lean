import CopyOracle.Random.Draw
import Mathlib.Data.Finset.Card
import Mathlib.Data.List.Forall2
import Mathlib.Data.List.Sort
/-!
# What draws ensure

A draw ensures a property when every value that it can give has it, whatever the state of the
generator. A number drawn from a range lies in the range, a shuffled list has the members of the
list, and a subset is drawn as different numbers in ascending order, by each of the ways in which
it can be drawn. Which way is taken is a comparison of numbers of single precision, and nothing
depends on its outcome.
-/

namespace CopyOracle.Draw

variable {α β : Type}

/-- Whatever the state of the generator, the value that is drawn has the property. -/
def Ensures (draw : Draw α) (property : α → Prop) : Prop := ∀ g, property (draw.run g).1

/-- A value that is given has the properties that it has. -/
theorem Ensures.pure {value : α} {property : α → Prop} (holds : property value) :
    Ensures (pure value) property := fun _ => holds

/-- What the second of two draws ensures on every value that the first ensures, both ensure. -/
theorem Ensures.bind {draw : Draw α} {next : α → Draw β} {property : α → Prop}
    {result : β → Prop} (first : draw.Ensures property)
    (second : ∀ value, property value → (next value).Ensures result) :
    Ensures (draw >>= next) result := fun g => second _ (first g) _

/-- The second of two draws goes on with the value of the first, from the state after it. -/
theorem run_bind (draw : Draw α) (next : α → Draw β) (g : Generator) :
    (draw >>= next).run g = (next (draw.run g).1).run (draw.run g).2 := rfl

/-- What is ensured may be weakened. -/
theorem Ensures.weaken {draw : Draw α} {property weaker : α → Prop}
    (ensured : draw.Ensures property) (weaken : ∀ value, property value → weaker value) :
    draw.Ensures weaker := fun g => weaken _ (ensured g)

/-- Every draw ensures what always holds. -/
theorem Ensures.of_forall {draw : Draw α} {property : α → Prop}
    (always : ∀ value, property value) : draw.Ensures property := fun _ => always _

/-- What the draw for each item ensures, the draws for all items ensure one by one. -/
theorem Ensures.mapM {step : α → Draw β} {property : α → β → Prop} {items : List α}
    (each : ∀ item ∈ items, (step item).Ensures (property item)) :
    (items.mapM step).Ensures (List.Forall₂ property items) := by
  induction items with
  | nil => exact Ensures.pure .nil
  | cons item items ih =>
    obtain ⟨first, others⟩ := List.forall_mem_cons.mp each
    rw [List.mapM_cons]
    refine first.bind fun value holds => (ih others).bind fun values hold => ?_
    exact Ensures.pure (.cons holds hold)

/-- A 64-bit number has 64 bits. -/
theorem bits64_lt : bits64.Ensures (· < Nat.pow 2 64) :=
  Ensures.bind (Ensures.of_forall fun _ => trivial) fun drawn _ => Ensures.pure drawn.toNat_lt

/-- A 32-bit number has 32 bits. -/
theorem bits32_lt : bits32.Ensures (· < Nat.pow 2 32) :=
  Ensures.bind (Ensures.of_forall fun _ => trivial) fun drawn _ => Ensures.pure (by
    have word := drawn.toNat_lt
    have shifted : (drawn >>> 32).toNat = drawn.toNat / 2 ^ 32 := by
      rw [UInt64.toNat_shiftRight, Nat.shiftRight_eq_div_pow]
      rfl
    change (drawn >>> 32).toNat < 2 ^ 32
    omega)

variable {width zone : Nat} {draw : Draw Nat}

/-- A word scaled to a range lies below its size. -/
theorem scaled_lt {drawn range : Nat} (word : drawn < Nat.pow 2 width) (positive : 0 < range) :
    drawn * range / Nat.pow 2 width < range :=
  Nat.div_lt_of_lt_mul (Nat.mul_lt_mul_of_pos_right word positive)

/-- A number below the size of a range is below it, however many words are refused. -/
theorem below_lt (words : draw.Ensures (· < Nat.pow 2 width)) {range : Nat} (positive : 0 < range)
    (refusals : Nat) : (below width draw zone range refusals).Ensures (· < range) := by
  induction refusals with
  | zero => exact words.bind fun drawn word => Ensures.pure (scaled_lt word positive)
  | succ refusals ih =>
    refine words.bind fun drawn word => ?_
    split
    · exact Ensures.pure (scaled_lt word positive)
    · exact ih

/-- A number of a range lies in the range. -/
theorem between_mem (words : draw.Ensures (· < Nat.pow 2 width)) {low high : Nat}
    (nonempty : low ≤ high) :
    (between width draw low high).Ensures fun drawn => low ≤ drawn ∧ drawn ≤ high := by
  have offset : Ensures (if high + 1 - low = Nat.pow 2 width then draw
      else below width draw (Draw.zone width (high + 1 - low)) (high + 1 - low) patience)
      (· < high + 1 - low) := by
    split
    · next full => exact full ▸ words
    · exact below_lt words (by omega) patience
  refine offset.bind fun drawn inside => Ensures.pure ?_
  omega

/-- A 64-bit number of a range lies in the range. -/
theorem size_mem {low high : Nat} (nonempty : low ≤ high) :
    (size low high).Ensures fun drawn => low ≤ drawn ∧ drawn ≤ high :=
  between_mem bits64_lt nonempty

/-- A 32-bit number of a range lies in the range. -/
theorem number_mem {low high : Nat} (nonempty : low ≤ high) :
    (number low high).Ensures fun drawn => low ≤ drawn ∧ drawn ≤ high :=
  between_mem bits32_lt nonempty

/-- The certain chance is true. -/
theorem flip_always : (flip .always).Ensures (· = true) :=
  Ensures.pure rfl

/-- Exchanging two places keeps all members. -/
theorem swapIfInBounds_perm (members : Array α) (i j : Nat) :
    (members.swapIfInBounds i j).Perm members := by
  rw [Array.swapIfInBounds_def]
  split
  · split
    · exact Array.swap_perm _ _
    · exact .refl _
  · exact .refl _

/-- Exchanging each of the places down to the second keeps all members. -/
theorem shuffleDown_perm (index : Nat) (members : Array α) :
    (shuffleDown index members).Ensures fun result => result.Perm members := by
  induction index generalizing members with
  | zero => exact Ensures.pure (.refl _)
  | succ index ih =>
    refine Ensures.bind (Ensures.of_forall fun _ => trivial) fun chosen _ => ?_
    exact (ih _).weaken fun result kept => kept.trans (swapIfInBounds_perm members _ chosen)

/-- A shuffled list has the members of the list. -/
theorem shuffle_perm (members : List α) :
    (shuffle members).Ensures fun result => result.Perm members := by
  refine (shuffleDown_perm _ members.toArray).bind fun shuffled kept => Ensures.pure ?_
  rw [Array.perm_iff_toList_perm] at kept
  exact kept

/-- Exchanging each of the first places keeps all members. -/
theorem exchange_perm (length count index : Nat) (members : Array Nat) :
    (exchange length count index members).Ensures fun result => result.Perm members := by
  induction count generalizing index members with
  | zero => exact Ensures.pure (.refl _)
  | succ count ih =>
    refine Ensures.bind (Ensures.of_forall fun _ => trivial) fun chosen _ => ?_
    exact (ih (index + 1) _).weaken fun result kept =>
      kept.trans (swapIfInBounds_perm members index chosen)

/-- Different numbers below a bound. -/
structure Distinct (count bound : Nat) (members : List Nat) : Prop where
  /-- There are so many. -/
  count : members.length = count
  /-- No two are the same. -/
  nodup : members.Nodup
  /-- They are below the bound. -/
  below : ∀ member ∈ members, member < bound

/-- An empty list holds different numbers below every bound. -/
theorem Distinct.nil (bound : Nat) : Distinct 0 bound [] := ⟨rfl, List.nodup_nil, by simp⟩

/-- Different numbers stay different in another order. -/
theorem Distinct.perm {count bound : Nat} {members others : List Nat}
    (distinct : Distinct count bound members) (perm : others.Perm members) :
    Distinct count bound others where
  count := perm.length_eq.trans distinct.count
  nodup := perm.nodup_iff.mpr distinct.nodup
  below := fun member listed => distinct.below member (perm.mem_iff.mp listed)

/-- A number that is not taken makes one more different number. -/
theorem Distinct.add {count bound chosen : Nat} {taken : List Nat}
    (distinct : Distinct count bound taken) (inside : chosen < bound) (free : chosen ∉ taken) :
    Distinct (count + 1) bound (chosen :: taken) where
  count := by rw [List.length_cons, distinct.count]
  nodup := List.nodup_cons.mpr ⟨free, distinct.nodup⟩
  below := List.forall_mem_cons.mpr ⟨inside, distinct.below⟩

/-- One more number up to the bound, or the bound itself where the number is taken, gives one more
different number below the next bound. -/
theorem Distinct.cons {count top chosen : Nat} {taken : List Nat}
    (distinct : Distinct count top taken) (inside : chosen ≤ top) :
    Distinct (count + 1) (top + 1) ((if chosen ∈ taken then top else chosen) :: taken) := by
  have widened : Distinct count (top + 1) taken :=
    { distinct with below := fun member listed => Nat.lt_succ_of_lt (distinct.below member listed) }
  split
  · exact widened.add (Nat.lt_succ_self top) fun member =>
      Nat.lt_irrefl top (distinct.below top member)
  · next free => exact widened.add (Nat.lt_succ_of_le inside) free

/-- Collecting under growing bounds takes different numbers. -/
theorem collect_distinct (count : Nat) {taken top : Nat} {members : List Nat}
    (distinct : Distinct taken top members) :
    (collect count top members).Ensures (Distinct (taken + count) (top + count)) := by
  induction count generalizing taken top members with
  | zero => exact Ensures.pure distinct
  | succ count ih =>
    refine (number_mem (Nat.zero_le top)).bind fun chosen inside => ?_
    rw [Nat.add_comm count 1, ← Nat.add_assoc, ← Nat.add_assoc]
    exact ih (distinct.cons inside.2)

/-- Different numbers put in order. -/
theorem Distinct.mergeSort {count bound : Nat} {members : List Nat}
    (distinct : Distinct count bound members) :
    Distinct count bound members.mergeSort ∧ members.mergeSort.Pairwise (· < ·) := by
  have sorted := distinct.perm (List.mergeSort_perm members fun a b => decide (a ≤ b))
  have ordered : members.mergeSort.Pairwise (· ≤ ·) := by
    simpa using @List.pairwise_mergeSort _ (fun a b => decide (a ≤ b))
      (by simpa using fun _ _ _ => Nat.le_trans) (by simpa using Nat.le_total) members
  exact ⟨sorted, (ordered.and sorted.nodup).imp fun pair => Nat.lt_of_le_of_ne pair.1 pair.2⟩

variable {length count : Nat}

/-- The front of a table holds different numbers. -/
theorem front_distinct (room : count ≤ length) :
    (front length count).Ensures (Distinct count length) := by
  refine (exchange_perm length count 0 (.range length)).bind fun members perm => Ensures.pure ?_
  rw [Array.perm_iff_toList_perm, Array.toList_range] at perm
  refine ⟨?_, (perm.nodup_iff.mpr List.nodup_range).sublist (List.take_sublist _ _),
    fun member listed => ?_⟩
  · rw [List.length_take, perm.length_eq, List.length_range, Nat.min_eq_left room]
  · exact List.mem_range.mp (perm.mem_iff.mp (List.mem_of_mem_take listed))

/-- What is collected and shuffled are different numbers. -/
theorem gather_distinct (room : count ≤ length) :
    (gather length count).Ensures (Distinct count length) := by
  refine (collect_distinct count (.nil (length - count))).bind fun members distinct => ?_
  rw [Nat.zero_add, Nat.sub_add_cancel room] at distinct
  split
  · exact Ensures.pure distinct
  · exact (shuffle_perm members.reverse).weaken fun shuffled perm =>
      distinct.perm (perm.trans members.reverse_perm)

/-- While fewer numbers are taken than there are, one of them is not taken. -/
theorem exists_free {taken : List Nat} (room : taken.length < length) :
    ∃ number ∈ List.range length, number ∉ taken := by
  have fewer : taken.toFinset.card < (Finset.range length).card := by
    rw [Finset.card_range]
    exact (List.toFinset_card_le taken).trans_lt room
  obtain ⟨number, inside, free⟩ := Finset.exists_mem_notMem_of_card_lt_card fewer
  exact ⟨number, List.mem_range.mpr (Finset.mem_range.mp inside),
    fun member => free (List.mem_toFinset.mpr member)⟩

/-- A fresh number is not taken, even where the passes come to their end. -/
theorem fresh_free (numbers : draw.Ensures (· < length)) {taken : List Nat}
    (room : taken.length < length) (passes : Nat) :
    (fresh draw length taken passes).Ensures fun chosen => chosen < length ∧ chosen ∉ taken := by
  induction passes with
  | zero =>
    -- No number is drawn any more, but the search for one that is not taken finds one.
    refine Ensures.pure ?_
    cases found : (List.range length).find? (· ∉ taken) with
    | some number =>
      have free := List.find?_some found
      exact ⟨List.mem_range.mp (List.mem_of_find?_eq_some found), of_decide_eq_true free⟩
    | none =>
      obtain ⟨number, inside, free⟩ := exists_free room
      exact absurd (decide_eq_true free) (List.find?_eq_none.mp found number inside)
  | succ passes ih =>
    refine numbers.bind fun chosen inside => ?_
    split
    · exact ih
    · next free => exact Ensures.pure ⟨inside, free⟩

/-- Drawing until the numbers are different gives different numbers. -/
theorem reject_distinct (numbers : draw.Ensures (· < length)) (count : Nat) {taken : Nat}
    {members : List Nat} (distinct : Distinct taken length members)
    (room : taken + count ≤ length) :
    (reject draw length count members).Ensures (Distinct (taken + count) length) := by
  induction count generalizing taken members with
  | zero => exact Ensures.pure distinct
  | succ count ih =>
    have left : members.length < length := by rw [distinct.count]; omega
    refine (fresh_free numbers left _).bind fun chosen ⟨inside, free⟩ => ?_
    rw [Nat.add_comm count 1, ← Nat.add_assoc]
    exact ih (distinct.add inside free) (by omega)

/-- Drawing from the first number on until the numbers are different gives different numbers. -/
theorem reject_uniform_distinct (words : draw.Ensures (· < Nat.pow 2 width)) (positive : 0 < length)
    (room : count ≤ length) :
    (reject (uniform width draw length) length count []).Ensures (Distinct count length) := by
  have numbers : (uniform width draw length).Ensures (· < length) :=
    below_lt words positive patience
  have drawn := reject_distinct numbers count (.nil length) (by omega)
  rwa [Nat.zero_add] at drawn

/-- Each way of drawing a sample gives different numbers. -/
theorem sample_distinct (room : count ≤ length) :
    (sample length count).Ensures (Distinct count length) := by
  rw [sample]
  split
  · next long =>
    have positive : 0 < length := Nat.lt_of_lt_of_le (by decide) long
    exact reject_uniform_distinct bits64_lt positive room
  · split
    · exact front_distinct room
    · split
      · exact gather_distinct room
      · exact reject_uniform_distinct bits32_lt (by omega) room

/-- A subset is drawn as so many different numbers below the length, in ascending order. -/
theorem subset_ascending (room : count ≤ length) :
    (subset length count).Ensures fun members =>
      Distinct count length members ∧ members.Pairwise (· < ·) :=
  (sample_distinct room).bind fun _ distinct => Ensures.pure distinct.mergeSort

end CopyOracle.Draw
