import CopyOracle.Proofs.Graph.Extension
import CopyOracle.Proofs.Graph.Reader
import CopyOracle.Proofs.Search
import Mathlib.Algebra.BigOperators.ModEq
/-!
# The laws of sizes, degrees and costs

Each edge has a tail and a head, so the degrees count every edge twice. The size and the degrees are
64-bit words; as words the law holds for every graph, and up to `2 ^ 16` vertices no word wraps.

The cost of an extension is the difference of the sizes. So nothing but the graph itself costs
nothing, and the costs of two extensions in a row add up. A cost that is refused is refused for
different vertices or else for the least entry, row by row, that decreased.
-/

namespace CopyOracle

/-- What is wrong first with a graph that is no extension of another one. -/
inductive FirstCostViolation (base extended : Graph) : CostViolation → Prop where
  /-- The graphs have different vertices. -/
  | orderMismatch (differs : base.order ≠ extended.order) :
    FirstCostViolation base extended (.orderMismatch base.order extended.order)
  /-- This is the least entry, row by row, that decreased. -/
  | edgeRemoved {u v : Nat} (order : base.order = extended.order) (hu : u < base.order)
      (hv : v < base.order) (removed : extended.edgeCount u v < base.edgeCount u v)
      (least : ∀ u' < base.order, ∀ v' < base.order, Prod.Lex (· < ·) (· < ·) (u', v') (u, v) →
        base.edgeCount u' v' ≤ extended.edgeCount u' v') :
    FirstCostViolation base extended
      (.edgeRemoved u v (base.edgeCount u v) (extended.edgeCount u v))

namespace Graph

variable {base extended last : Graph}

/-- The number of edges, counted with multiplicity and without a bound. -/
def edges (graph : Graph) : Nat :=
  ∑ u ∈ Finset.range graph.order, ∑ v ∈ Finset.range graph.order, (graph.edgeCount u v).toNat

/-- The entries row after row are those of the cells. -/
theorem flatMap_toRows (graph : Graph) : (graph.toRows.flatMap fun row => row.map UInt32.toNat) =
    (cells graph.order).map fun (u, v) => (graph.edgeCount u v).toNat := by
  simp only [toRows_eq_map, cells, List.flatMap_map, List.map_flatMap, List.map_map,
    Function.comp_def]

/-- The size is the word of the edges. -/
theorem size_eq_ofNat (graph : Graph) : graph.size = .ofNat graph.edges := by
  rw [size, flatMap_toRows, total_cells graph.order fun u v => (graph.edgeCount u v).toNat]
  rfl

/-- Up to `2 ^ 16` vertices the size is the number of edges. -/
theorem toNat_size {graph : Graph} (bound : graph.order ≤ 2 ^ 16) :
    graph.size.toNat = graph.edges := by
  rw [size_eq_ofNat]
  exact UInt64.toNat_ofNat_of_lt' (sum_cells_lt bound fun u v => (graph.edgeCount u v).toNat_lt)

/-- The edges out of and into a vertex, without a bound; a loop counts twice. -/
def ends (graph : Graph) (v : Nat) : Nat :=
  ∑ w ∈ Finset.range graph.order, ((graph.edgeCount v w).toNat + (graph.edgeCount w v).toNat)

/-- The degree is the word of the edges at the vertex. -/
theorem degree_eq_ofNat (graph : Graph) (v : Nat) : graph.degree v = .ofNat (graph.ends v) := rfl

/-- Every edge is counted at its tail and at its head. -/
theorem sum_ends (graph : Graph) :
    ∑ v ∈ Finset.range graph.order, graph.ends v = 2 * graph.edges := by
  have tails : ∑ v ∈ Finset.range graph.order, ∑ w ∈ Finset.range graph.order,
      (graph.edgeCount v w).toNat = graph.edges := rfl
  have heads : ∑ v ∈ Finset.range graph.order, ∑ w ∈ Finset.range graph.order,
      (graph.edgeCount w v).toNat = graph.edges := Finset.sum_comm
  simp only [ends, Finset.sum_add_distrib, tails, heads, Nat.two_mul]

/-- Up to `2 ^ 16` vertices the edges at a vertex fit a 64-bit word. -/
theorem ends_lt {graph : Graph} (bound : graph.order ≤ 2 ^ 16) (v : Nat) :
    graph.ends v < 2 ^ 64 := by
  have each : graph.ends v ≤ graph.order * (2 * (2 ^ 32 - 1)) := by
    have sum := Finset.sum_le_card_nsmul (Finset.range graph.order)
      (fun w => (graph.edgeCount v w).toNat + (graph.edgeCount w v).toNat) (2 * (2 ^ 32 - 1))
      fun w _ => by
        have out := (graph.edgeCount v w).toNat_lt
        have into := (graph.edgeCount w v).toNat_lt
        omega
    rwa [Finset.card_range, Nat.nsmul_eq_mul] at sum
  have words := Nat.mul_le_mul_right (2 * (2 ^ 32 - 1)) bound
  omega

/-- As 64-bit words the degrees sum up to twice the size. -/
theorem sum_degree_modEq (graph : Graph) :
    (∑ v ∈ Finset.range graph.order, (graph.degree v).toNat) ≡ 2 * graph.size.toNat
      [MOD 2 ^ 64] := by
  have word (number : Nat) : (UInt64.ofNat number).toNat ≡ number [MOD 2 ^ 64] :=
    Nat.mod_modEq number (2 ^ 64)
  have degrees : (∑ v ∈ Finset.range graph.order, (graph.degree v).toNat) ≡
      ∑ v ∈ Finset.range graph.order, graph.ends v [MOD 2 ^ 64] :=
    Nat.ModEq.sum fun v _ => word (graph.ends v)
  rw [size_eq_ofNat]
  calc
    _ ≡ ∑ v ∈ Finset.range graph.order, graph.ends v [MOD 2 ^ 64] := degrees
    _ = 2 * graph.edges := graph.sum_ends
    _ ≡ 2 * (UInt64.ofNat graph.edges).toNat [MOD 2 ^ 64] := ((word graph.edges).symm).mul_left 2

/-- Up to `2 ^ 16` vertices the degrees sum up to twice the size. -/
theorem sum_degree {graph : Graph} (bound : graph.order ≤ 2 ^ 16) :
    ∑ v ∈ Finset.range graph.order, (graph.degree v).toNat = 2 * graph.size.toNat := by
  rw [toNat_size bound, ← sum_ends]
  refine Finset.sum_congr rfl fun v _ => ?_
  rw [degree_eq_ofNat]
  exact UInt64.toNat_ofNat_of_lt' (ends_lt bound v)

/-- An extension has its increase more edges. -/
theorem Extends.increase_add_edges (kept : base.Extends extended) :
    base.increase extended + base.edges = extended.edges := by
  rw [increase, edges, edges, ← kept.order, ← Finset.sum_add_distrib]
  refine Finset.sum_congr rfl fun u hu => ?_
  rw [← Finset.sum_add_distrib]
  refine Finset.sum_congr rfl fun v hv => ?_
  have grown := kept.keeps u (Finset.mem_range.mp hu) v (Finset.mem_range.mp hv)
  exact Nat.sub_add_cancel (UInt32.le_iff_toNat_le.mp grown)

/-- A graph extends itself. -/
theorem Extends.refl (graph : Graph) : graph.Extends graph := ⟨rfl, fun _ _ _ _ => UInt32.le_refl _⟩

/-- An extension of an extension is an extension. -/
theorem Extends.trans (first : base.Extends extended) (second : extended.Extends last) :
    base.Extends last where
  order := first.order.trans second.order
  keeps u hu v hv := UInt32.le_trans (first.keeps u hu v hv)
    (second.keeps u (first.order ▸ hu) v (first.order ▸ hv))

/-- An extension without an increase is the graph itself. -/
theorem Extends.eq_of_increase (kept : base.Extends extended) (none : base.increase extended = 0) :
    base = extended := by
  refine eq_of_edgeCount kept.order fun u hu v hv => UInt32.le_antisymm (kept.keeps u hu v hv) ?_
  have row := Finset.sum_eq_zero_iff.mp none u (Finset.mem_range.mpr hu)
  have cell := Finset.sum_eq_zero_iff.mp row v (Finset.mem_range.mpr hv)
  exact UInt32.le_iff_toNat_le.mpr (Nat.sub_eq_zero_iff_le.mp cell)

/-- The cells are listed row by row. -/
theorem cells_ascending (order : Nat) : (cells order).Pairwise (Prod.Lex (· < ·) (· < ·)) :=
  pairwise_lex_pairs List.pairwise_lt_range List.pairwise_lt_range

/-- No cell is listed twice. -/
theorem nodup_cells (order : Nat) : (cells order).Nodup := by
  refine (cells_ascending order).imp fun {left right} before same => ?_
  subst same
  cases before with
  | left _ _ less => exact Nat.lt_irrefl _ less
  | right _ less => exact Nat.lt_irrefl _ less

/-- The entry that is reported as removed is the least one that decreased. -/
theorem firstRemoved?_eq_some_iff {u v : Nat} : firstRemoved? base extended = some (u, v) ↔
    u < base.order ∧ v < base.order ∧ extended.edgeCount u v < base.edgeCount u v ∧
      ∀ u' < base.order, ∀ v' < base.order, Prod.Lex (· < ·) (· < ·) (u', v') (u, v) →
        base.edgeCount u' v' ≤ extended.edgeCount u' v' := by
  rw [firstRemoved?, find?_eq_some_iff_least (cells_ascending _), mem_cells, and_assoc]
  simp only [Prod.forall, mem_cells, decide_eq_true_eq, decide_eq_false_iff_not, UInt32.not_lt]
  refine and_congr_right fun _ => and_congr_right fun _ => and_congr_right fun _ => ?_
  exact ⟨fun least u hu v hv before => least u v ⟨hu, hv⟩ before,
    fun least u v inside before => least u inside.1 v inside.2 before⟩

/-- A violation is reported exactly when it is the first one. -/
theorem extensionCost_eq_error_iff {violation : CostViolation} :
    base.extensionCost extended = .error violation ↔
      FirstCostViolation base extended violation := by
  constructor
  · intro refused
    rw [extensionCost] at refused
    split at refused
    · next differs =>
      obtain rfl := Except.error.inj refused
      exact .orderMismatch differs
    · next order =>
      split at refused
      · next u v removed =>
        obtain rfl := Except.error.inj refused
        obtain ⟨hu, hv, decreased, least⟩ := firstRemoved?_eq_some_iff.mp removed
        exact .edgeRemoved (not_not.mp order) hu hv decreased least
      · contradiction
  · intro violated
    cases violated with
    | orderMismatch differs => rw [extensionCost, if_pos differs]
    | edgeRemoved order hu hv removed least =>
      rw [extensionCost, if_neg (not_not.mpr order),
        firstRemoved?_eq_some_iff.mpr ⟨hu, hv, removed, least⟩]

/-- Up to `2 ^ 16` vertices a cost is computed exactly for extensions, and it is their increase. -/
theorem extensionCost_eq_ok_iff_increase (bound : base.order ≤ 2 ^ 16) {cost : UInt64} :
    base.extensionCost extended = .ok cost ↔
      base.Extends extended ∧ cost.toNat = base.increase extended := by
  have word : (UInt64.ofNat (base.increase extended)).toNat = base.increase extended :=
    UInt64.toNat_ofNat_of_lt' (increase_lt bound extended)
  rw [extensionCost_eq_ok_iff, ← UInt64.toNat_inj, word]

/-- A cost is the difference of the sizes. -/
theorem extensionCost_add_size (bound : base.order ≤ 2 ^ 16) {cost : UInt64}
    (priced : base.extensionCost extended = .ok cost) :
    cost.toNat + base.size.toNat = extended.size.toNat := by
  obtain ⟨kept, value⟩ := (extensionCost_eq_ok_iff_increase bound).mp priced
  rw [toNat_size bound, toNat_size (kept.order ▸ bound), value, kept.increase_add_edges]

/-- Exactly the graph itself costs nothing. -/
theorem extensionCost_eq_ok_zero_iff (bound : base.order ≤ 2 ^ 16) :
    base.extensionCost extended = .ok 0 ↔ base = extended := by
  rw [extensionCost_eq_ok_iff_increase bound]
  constructor
  · rintro ⟨kept, none⟩
    exact kept.eq_of_increase none.symm
  · rintro rfl
    refine ⟨.refl base, ?_⟩
    have same := (Extends.refl base).increase_add_edges
    rw [UInt64.toNat_zero]
    omega

/-- The costs of an extension and of an extension of it add up, and the sum does not wrap. -/
theorem extensionCost_trans (bound : base.order ≤ 2 ^ 16) {cost more : UInt64}
    (priced : base.extensionCost extended = .ok cost)
    (again : extended.extensionCost last = .ok more) :
    base.extensionCost last = .ok (cost + more) ∧
      (cost + more).toNat = cost.toNat + more.toNat := by
  obtain ⟨kept, value⟩ := (extensionCost_eq_ok_iff_increase bound).mp priced
  obtain ⟨grown, worth⟩ := (extensionCost_eq_ok_iff_increase (kept.order ▸ bound)).mp again
  have whole := kept.trans grown
  have first := kept.increase_add_edges
  have second := grown.increase_add_edges
  have both := whole.increase_add_edges
  have small := increase_lt bound last
  have total : (cost + more).toNat = cost.toNat + more.toNat := by
    rw [UInt64.toNat_add]
    exact Nat.mod_eq_of_lt (by omega)
  exact ⟨(extensionCost_eq_ok_iff_increase bound).mpr ⟨whole, by omega⟩, total⟩

/-- What the cost says about a graph and another one. -/
structure CostLaws (base extended : Graph) : Prop where
  /-- There is a cost exactly when the other graph has the same vertices and no entry decreased. -/
  computed : (∃ cost, base.extensionCost extended = .ok cost) ↔ base.order = extended.order ∧
    ∀ u < base.order, ∀ v < base.order, base.edgeCount u v ≤ extended.edgeCount u v
  /-- The cost is the difference of the sizes. -/
  difference : ∀ cost, base.extensionCost extended = .ok cost →
    cost.toNat + base.size.toNat = extended.size.toNat
  /-- Otherwise different vertices or else the least decreased entry, row by row, is reported. -/
  refused : ∀ violation, base.extensionCost extended = .error violation ↔
    FirstCostViolation base extended violation
  /-- Exactly the graph itself costs nothing. -/
  free : base.extensionCost extended = .ok 0 ↔ base = extended
  /-- The costs of an extension and of an extension of it add up. -/
  additive : ∀ last cost more, base.extensionCost extended = .ok cost →
    extended.extensionCost last = .ok more →
    base.extensionCost last = .ok (cost + more) ∧ (cost + more).toNat = cost.toNat + more.toNat
  /-- A reported cost is accepted exactly when it is the cost. -/
  accepted : ∀ reported, (∃ cost, base.checkCost extended reported = .ok cost) ↔
    base.extensionCost extended = .ok reported

/-- Up to `2 ^ 16` vertices the cost is exact: it is the difference of the sizes for an extension,
and for any other graph the first violation is reported. -/
theorem extensionCost_exact (base extended : Graph) (bound : base.order ≤ 2 ^ 16) :
    base.CostLaws extended where
  computed := by
    constructor
    · rintro ⟨cost, priced⟩
      obtain ⟨kept, _⟩ := extensionCost_eq_ok_iff.mp priced
      exact ⟨kept.order, kept.keeps⟩
    · rintro ⟨order, keeps⟩
      exact ⟨_, extensionCost_eq_ok_iff.mpr ⟨⟨order, keeps⟩, rfl⟩⟩
  difference _ priced := extensionCost_add_size bound priced
  refused _ := extensionCost_eq_error_iff
  free := extensionCost_eq_ok_zero_iff bound
  additive _ _ _ priced again := extensionCost_trans bound priced again
  accepted reported := by
    simp only [checkCost_eq_ok_iff]
    constructor
    · rintro ⟨cost, priced, rfl⟩
      exact priced
    · intro priced
      exact ⟨reported, priced, rfl⟩

/-- Two parallel edges and a loop more cost three, the difference of the sizes. -/
theorem extensionCost_exact_parallel :
    (ofSquare [[0, 2], [1, 0]] (by decide)).order ≤ 2 ^ 16 ∧
    (ofSquare [[0, 2], [1, 0]] (by decide)).extensionCost
      (ofSquare [[1, 4], [1, 0]] (by decide)) = .ok 3 ∧
    (3 : UInt64).toNat + (ofSquare [[0, 2], [1, 0]] (by decide)).size.toNat =
      (ofSquare [[1, 4], [1, 0]] (by decide)).size.toNat := by
  have bound : (ofSquare [[0, 2], [1, 0]] (by decide)).order ≤ 2 ^ 16 := by decide
  have priced : (ofSquare [[0, 2], [1, 0]] (by decide)).extensionCost
      (ofSquare [[1, 4], [1, 0]] (by decide)) = .ok 3 := by decide +kernel
  exact ⟨bound, priced, (extensionCost_exact _ _ bound).difference 3 priced⟩

end Graph

end CopyOracle
