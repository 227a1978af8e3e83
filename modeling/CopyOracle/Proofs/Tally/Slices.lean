import CopyOracle.Proofs.Search
import CopyOracle.Tally.Basic
import Mathlib.Algebra.Ring.Nat
import Mathlib.Data.List.Pairwise
import Mathlib.Data.List.Perm.Basic
/-!
# What advancing a slice does

Slices are kept in ascending order of their keys, each key once. Advancing the counters of one key
changes what is found under that key and nothing else, and slices under which the same is found
are equal. A counter that a step advances by some number is advanced by that number in its sum over
all slices.
-/

namespace CopyOracle

instance : Std.TransOrd Algorithm where
  eq_swap {left right} := by cases left <;> cases right <;> rfl
  isLE_trans {left middle right} := by cases left <;> cases middle <;> cases right <;> decide

instance : Std.LawfulEqOrd Algorithm where
  compare_self {algorithm} := by cases algorithm <;> rfl
  eq_of_compare {left right} := by cases left <;> cases right <;> decide

namespace Slices

variable {κ : Type} [Ord κ]

/-- The keys ascend, so each stands once. -/
def Ascending (slices : Slices κ) : Prop :=
  slices.Pairwise fun earlier later => compare earlier.1 later.1 = .lt

/-- The keys after an advance are those before it and the one that is advanced. -/
theorem mem_keys_advance [Std.LawfulEqOrd κ] {slices : Slices κ} {key other : κ}
    {step : Counts → Counts} :
    other ∈ (slices.advance key step).map Prod.fst ↔
      other = key ∨ other ∈ slices.map Prod.fst := by
  induction slices with
  | nil => simp [advance]
  | cons slice rest ih =>
    obtain ⟨first, counts⟩ := slice
    rw [advance]
    split
    · simp
    · next same =>
      obtain rfl := Std.LawfulEqOrd.eq_of_compare same
      simp
    · simp only [List.map_cons, List.mem_cons, ih]
      exact or_left_comm

/-- Nothing is found under a key before all others. -/
theorem lookup_eq_none [Std.LawfulEqOrd κ] [DecidableEq κ] {slices : Slices κ} {other : κ}
    (before : ∀ slice ∈ slices, compare other slice.1 = .lt) : slices.lookup other = none := by
  refine List.lookup_eq_none_iff.mpr fun slice member => ?_
  have different : other ≠ slice.1 := fun same => by
    have less := before slice member
    rw [same, Std.ReflOrd.compare_self] at less
    contradiction
  simpa using different

section Lawful

variable [Std.TransOrd κ] [Std.LawfulEqOrd κ] {slices : Slices κ} {key : κ}
  {step : Counts → Counts}

/-- Advancing keeps the keys in order. -/
theorem Ascending.advance (ascending : slices.Ascending) :
    (slices.advance key step).Ascending := by
  induction slices with
  | nil => exact List.pairwise_singleton _ _
  | cons slice rest ih =>
    obtain ⟨first, counts⟩ := slice
    obtain ⟨before, later⟩ := List.pairwise_cons.mp ascending
    rw [Slices.advance]
    split
    · next less =>
      refine List.pairwise_cons.mpr ⟨fun other member => ?_, ascending⟩
      rcases List.mem_cons.mp member with rfl | member
      · exact less
      · exact Std.TransCmp.lt_trans less (before other member)
    · exact List.pairwise_cons.mpr ⟨before, later⟩
    · next greater =>
      refine List.pairwise_cons.mpr ⟨fun other member => ?_, ih later⟩
      rcases mem_keys_advance.mp (List.mem_map_of_mem member) with same | listed
      · rw [same]
        exact Std.OrientedCmp.gt_iff_lt.mp greater
      · obtain ⟨slice, member, same⟩ := List.mem_map.mp listed
        exact same ▸ before slice member

variable [DecidableEq κ]

/-- Advancing a key changes what is found under it and nothing else; a new key starts from zero. -/
theorem lookup_advance (ascending : slices.Ascending) (other : κ) :
    (slices.advance key step).lookup other =
      if other = key then some (step ((slices.lookup key).getD {})) else slices.lookup other := by
  induction slices with
  | nil => exact lookup_cons_eq key other (step {}) []
  | cons slice rest ih =>
    obtain ⟨first, counts⟩ := slice
    obtain ⟨before, later⟩ := List.pairwise_cons.mp ascending
    rw [Slices.advance]
    split
    · next less =>
      have fresh : List.lookup key ((first, counts) :: rest) = none :=
        lookup_eq_none fun slice member => by
          rcases List.mem_cons.mp member with rfl | member
          · exact less
          · exact Std.TransCmp.lt_trans less (before slice member)
      rw [lookup_cons_eq key other, fresh]
      rfl
    · next same =>
      obtain rfl := Std.LawfulEqOrd.eq_of_compare same
      simp only [lookup_cons_eq, if_true, Option.getD_some]
      split <;> rfl
    · next greater =>
      have different : key ≠ first := fun same => by
        rw [same, Std.ReflOrd.compare_self] at greater
        contradiction
      rw [lookup_cons_eq first other, ih later, lookup_cons_eq first key, if_neg different,
        lookup_cons_eq first other]
      by_cases same : other = first
      · rw [if_pos same, if_neg (same ▸ different.symm), if_pos same]
      · rw [if_neg same, if_neg same]

omit [Std.TransOrd κ] in
/-- A slice is listed exactly when it is found under its key. -/
theorem mem_iff_lookup (ascending : slices.Ascending) {other : κ} {counts : Counts} :
    (other, counts) ∈ slices ↔ slices.lookup other = some counts := by
  induction slices with
  | nil => simp
  | cons slice rest ih =>
    obtain ⟨first, standing⟩ := slice
    obtain ⟨before, later⟩ := List.pairwise_cons.mp ascending
    rw [lookup_cons_eq, List.mem_cons, Prod.mk.injEq, ih later]
    by_cases same : other = first
    · subst same
      rw [lookup_eq_none before]
      simp [eq_comm]
    · simp [same]

/-- Slices under which the same is found are equal. -/
theorem eq_of_lookup_eq {left right : Slices κ} (ascendingLeft : left.Ascending)
    (ascendingRight : right.Ascending) (same : ∀ other, left.lookup other = right.lookup other) :
    left = right := by
  have irreflexive (slices : Slices κ) (ascending : slices.Ascending) : slices.Nodup :=
    ascending.imp fun {earlier later} less equal => by
      rw [equal, Std.ReflOrd.compare_self] at less
      contradiction
  have perm : left.Perm right :=
    (List.perm_ext_iff_of_nodup (irreflexive left ascendingLeft)
      (irreflexive right ascendingRight)).mpr fun slice => by
        rw [mem_iff_lookup ascendingLeft, mem_iff_lookup ascendingRight, same]
  refine perm.eq_of_pairwise (fun first second _ _ less greater => ?_) ascendingLeft ascendingRight
  rw [Std.OrientedCmp.gt_iff_lt.mpr greater] at less
  contradiction

end Lawful

/-- A counter is advanced in its sum over all slices as in the one that is advanced. -/
theorem sum_advance {counter : Counts → Nat} {step : Counts → Counts} {gain : Nat}
    (gains : ∀ counts, counter (step counts) = counter counts + gain) (zero : counter {} = 0)
    (slices : Slices κ) (key : κ) :
    ((slices.advance key step).map fun slice => counter slice.2).sum =
      (slices.map fun slice => counter slice.2).sum + gain := by
  induction slices with
  | nil => simp [advance, gains, zero]
  | cons slice rest ih =>
    rw [advance]
    split <;> simp only [List.map_cons, List.sum_cons, gains, zero, ih] <;> omega

end Slices

end CopyOracle
