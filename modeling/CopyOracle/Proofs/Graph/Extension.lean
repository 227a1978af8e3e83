import CopyOracle.Graph.Extension
import CopyOracle.Proofs.Result
import Mathlib.Algebra.BigOperators.Group.Finset.Basic
import Mathlib.Algebra.Order.BigOperators.Group.Finset
/-!
# Extensions and their exact cost

`Graph.Extends` says that one graph has the vertices of another and at least its edges, and
`Graph.increase` is the sum of what the entries gained, without a bound. The recomputed cost is
a 64-bit word. Up to `2 ^ 16` vertices the increase of an extension fits that word, so a cost is
accepted exactly when the graph is an extension with that increase.
-/

namespace CopyOracle

namespace Graph

/-- Outside the matrix there are no edges. -/
theorem edgeCount_eq_zero {graph : Graph} {u v : Nat}
    (outside : ¬(u < graph.order ∧ v < graph.order)) : graph.edgeCount u v = 0 := by
  rw [edgeCount]
  split
  · next hu => exact dif_neg fun hv => outside ⟨hu, hv⟩
  · rfl

/-- The other graph has the same vertices and no entry decreased. -/
structure Extends (base extended : Graph) : Prop where
  /-- The vertices are the same. -/
  order : base.order = extended.order
  /-- No entry decreased. -/
  keeps : ∀ u < base.order, ∀ v < base.order, base.edgeCount u v ≤ extended.edgeCount u v

/-- No entry of an extension is smaller, inside the matrix and outside. -/
theorem Extends.edgeCount_le {base extended : Graph} (kept : base.Extends extended) (u v : Nat) :
    base.edgeCount u v ≤ extended.edgeCount u v := by
  by_cases inside : u < base.order ∧ v < base.order
  · exact kept.keeps u inside.1 v inside.2
  · rw [edgeCount_eq_zero inside]
    exact UInt32.zero_le

/-- What the entries gained, summed over all pairs of vertices. -/
def increase (base extended : Graph) : Nat :=
  ∑ u ∈ Finset.range base.order, ∑ v ∈ Finset.range base.order,
    ((extended.edgeCount u v).toNat - (base.edgeCount u v).toNat)

/-- The entries of a graph given by its entries. -/
theorem edgeCount_ofFn {order u v : Nat} (entry : Nat → Nat → UInt32) (hu : u < order)
    (hv : v < order) : (ofFn order entry).edgeCount u v = entry u v := by
  simp [edgeCount, ofFn, hu, hv]

/-- The cells of a matrix are the pairs of its indices. -/
theorem mem_cells {order u v : Nat} : (u, v) ∈ cells order ↔ u < order ∧ v < order := by
  simp [cells]

/-- A sum row by row over the cells is the double sum. -/
theorem total_cells (order : Nat) (value : Nat → Nat → Nat) :
    total ((cells order).map fun (u, v) => value u v) =
      ∑ u ∈ Finset.range order, ∑ v ∈ Finset.range order, value u v := by
  change ((cells order).map fun (u, v) => value u v).sum = _
  rw [cells, List.map_flatMap, List.flatMap, List.sum_flatten, List.map_map]
  simp only [List.map_map]
  rfl

/-- The edges counted entry by entry are the increase. -/
theorem added_eq_increase (base extended : Graph) : base.added extended = base.increase extended :=
  total_cells base.order fun u v =>
    (extended.edgeCount u v).toNat - (base.edgeCount u v).toNat

/-- A sum over the cells is at most a bound for each cell. -/
theorem sum_cells_le (order : Nat) {bound : Nat} {value : Nat → Nat → Nat}
    (small : ∀ u v, value u v ≤ bound) :
    ∑ u ∈ Finset.range order, ∑ v ∈ Finset.range order, value u v ≤ order * (order * bound) := by
  have row (u : Nat) : ∑ v ∈ Finset.range order, value u v ≤ order * bound := by
    have entries := Finset.sum_le_card_nsmul (Finset.range order) (value u) bound fun v _ =>
      small u v
    rwa [Finset.card_range, Nat.nsmul_eq_mul] at entries
  have rows := Finset.sum_le_card_nsmul (Finset.range order) _ _ fun u _ => row u
  rwa [Finset.card_range, Nat.nsmul_eq_mul] at rows

/-- Up to `2 ^ 16` vertices every sum of 32-bit words over the cells fits a 64-bit word. -/
theorem sum_cells_lt {order : Nat} (bound : order ≤ 2 ^ 16) {value : Nat → Nat → Nat}
    (word : ∀ u v, value u v < 2 ^ 32) :
    ∑ u ∈ Finset.range order, ∑ v ∈ Finset.range order, value u v < 2 ^ 64 := by
  calc
    _ ≤ order * (order * (2 ^ 32 - 1)) :=
      sum_cells_le order fun u v => Nat.le_pred_of_lt (word u v)
    _ ≤ 2 ^ 16 * (2 ^ 16 * (2 ^ 32 - 1)) :=
      Nat.mul_le_mul bound (Nat.mul_le_mul_right _ bound)
    _ < 2 ^ 64 := by decide

/-- Up to `2 ^ 16` vertices every increase fits a 64-bit word. -/
theorem increase_lt {base : Graph} (bound : base.order ≤ 2 ^ 16) (extended : Graph) :
    base.increase extended < 2 ^ 64 :=
  sum_cells_lt bound fun u v => Nat.lt_of_le_of_lt (Nat.sub_le _ _)
    (extended.edgeCount u v).toNat_lt

/-- No entry is reported as removed exactly when none decreased. -/
theorem firstRemoved?_eq_none_iff {base extended : Graph} :
    firstRemoved? base extended = none ↔
      ∀ u < base.order, ∀ v < base.order, base.edgeCount u v ≤ extended.edgeCount u v := by
  simp only [firstRemoved?, List.find?_eq_none, Prod.forall, mem_cells, decide_eq_true_eq,
    UInt32.not_lt]
  exact ⟨fun kept u hu v hv => kept u v ⟨hu, hv⟩, fun kept u v inside =>
    kept u inside.1 v inside.2⟩

/-- A cost is computed exactly for extensions, and it is the increase modulo the word. -/
theorem extensionCost_eq_ok_iff {base extended : Graph} {cost : UInt64} :
    base.extensionCost extended = .ok cost ↔
      base.Extends extended ∧ cost = .ofNat (base.increase extended) := by
  rw [extensionCost, ← added_eq_increase]
  by_cases same : base.order = extended.order
  · rw [if_neg (not_not_intro same)]
    cases removed : firstRemoved? base extended with
    | some cell =>
      have decreased : ¬base.Extends extended := fun kept => by
        rw [firstRemoved?_eq_none_iff.mpr kept.keeps] at removed
        contradiction
      simp [decreased]
    | none =>
      have kept : base.Extends extended := ⟨same, firstRemoved?_eq_none_iff.mp removed⟩
      simp [kept, eq_comm]
  · have different : ¬base.Extends extended := fun kept => same kept.order
    rw [if_pos same]
    simp [different]

/-- A reported cost is accepted exactly when it is the computed one. -/
theorem checkCost_eq_ok_iff {base extended : Graph} {reported cost : UInt64} :
    base.checkCost extended reported = .ok cost ↔
      base.extensionCost extended = .ok cost ∧ cost = reported := by
  rw [checkCost, bind_eq_ok_iff]
  constructor
  · rintro ⟨actual, computed, agreed⟩
    split at agreed
    · next same =>
      obtain rfl := Except.ok.inj agreed
      exact ⟨computed, same⟩
    · contradiction
  · rintro ⟨computed, rfl⟩
    exact ⟨cost, computed, if_pos rfl⟩

/-- Up to `2 ^ 16` vertices a reported cost is accepted exactly when the graph is an extension
whose increase is that cost. -/
theorem checkCost_eq_ok_iff_increase {base extended : Graph} {reported cost : UInt64}
    (bound : base.order ≤ 2 ^ 16) : base.checkCost extended reported = .ok cost ↔
      base.Extends extended ∧ base.increase extended = reported.toNat ∧ cost = reported := by
  have word : (UInt64.ofNat (base.increase extended)).toNat = base.increase extended :=
    UInt64.toNat_ofNat_of_lt' (increase_lt bound extended)
  rw [checkCost_eq_ok_iff, extensionCost_eq_ok_iff]
  constructor
  · rintro ⟨⟨extension, rfl⟩, rfl⟩
    exact ⟨extension, word.symm, rfl⟩
  · rintro ⟨extension, same, rfl⟩
    exact ⟨⟨extension, by rw [same, UInt64.ofNat_toNat]⟩, rfl⟩

end Graph

end CopyOracle
