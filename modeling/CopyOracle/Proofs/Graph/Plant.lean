import CopyOracle.Proofs.Embedding
import CopyOracle.Proofs.Graph.Extension
/-!
# A planted pattern is embedded

Planting raises the entries between the given positions and no others, so the planted graph extends
the target. Where the positions are different vertices of the target, one for each pattern vertex,
the pattern is embedded at them. An entry of the planted graph is one of the target or one of the
pattern, so no bound on both is exceeded.
-/

namespace CopyOracle

namespace Graph

variable {pattern target : Graph} {positions : List Nat}

/-- The larger of two entries is the larger number. -/
theorem toNat_max (left right : UInt32) : (max left right).toNat = max left.toNat right.toNat := by
  change (if left ≤ right then right else left).toNat = _
  rw [apply_ite UInt32.toNat, Nat.max_def]
  rfl

/-- What the pattern needs between two vertices when it is planted at the positions. -/
def neededAt (pattern : Graph) (positions : List Nat) (x y : Nat) : UInt32 :=
  match positions.idxOf? x, positions.idxOf? y with
  | some u, some v => pattern.edgeCount u v
  | _, _ => 0

/-- Planting raises an entry to what the pattern needs there. -/
theorem edgeCount_plant {x y : Nat} (hx : x < target.order) (hy : y < target.order) :
    (plant pattern target positions).edgeCount x y =
      max (target.edgeCount x y) (neededAt pattern positions x y) :=
  edgeCount_ofFn _ hx hy

/-- The index of a position is found where the positions are different. -/
theorem idxOf?_of_nodup (distinct : positions.Nodup) {u x : Nat} (at_u : positions[u]? = some x) :
    positions.idxOf? x = some u := by
  obtain ⟨inside, same⟩ := List.getElem?_eq_some_iff.mp at_u
  refine List.idxOf?_eq_some_iff.mpr ⟨inside, same, fun v before again => ?_⟩
  have equal : v = u := (List.Nodup.getElem_inj_iff distinct).mp (again.trans same.symm)
  omega

/-- Between two positions the pattern needs its own edges. -/
theorem neededAt_positions (distinct : positions.Nodup) {u v x y : Nat}
    (at_u : positions[u]? = some x) (at_v : positions[v]? = some y) :
    neededAt pattern positions x y = pattern.edgeCount u v := by
  rw [neededAt, idxOf?_of_nodup distinct at_u, idxOf?_of_nodup distinct at_v]

/-- Positions are different vertices of a host, one for each vertex of the pattern. -/
structure Places (pattern host : Graph) (positions : List Nat) : Prop where
  /-- No two are the same. -/
  distinct : positions.Nodup
  /-- There is one for each vertex of the pattern. -/
  count : positions.length = pattern.order
  /-- They are vertices of the host. -/
  inside : ∀ x ∈ positions, x < host.order

/-- Places in a graph are places in every graph with its vertices. -/
theorem Places.of_order {host other : Graph} (places : pattern.Places host positions)
    (order : host.order = other.order) : pattern.Places other positions :=
  ⟨places.distinct, places.count, fun x listed => order ▸ places.inside x listed⟩

/-- The host has the edges that the pattern needs between the positions. -/
def HasEdgesAt (pattern host : Graph) (positions : List Nat) : Prop :=
  ∀ u v x y, positions[u]? = some x → positions[v]? = some y →
    pattern.edgeCount u v ≤ host.edgeCount x y

/-- A pattern is embedded at its places exactly when the host has the edges that it needs there. -/
theorem Places.embeds_iff {host : Graph} (places : pattern.Places host positions) :
    Embeds pattern host (.ofTargets positions) ↔ pattern.HasEdgesAt host positions := by
  have target (u : Nat) : (Mapping.ofTargets positions).get? u = positions[u]? :=
    Mapping.get?_ofTargets positions u
  constructor
  · intro embeds u v x y at_u at_v
    exact embeds.edges u v x y ((target u).trans at_u) ((target v).trans at_v)
  · intro edges
    refine ⟨?_, fun u hu => ?_, fun u v x at_u at_v => ?_, fun u v x y at_u at_v => ?_⟩
    · rw [Mapping.sources, Mapping.ofTargets, List.length_map, places.count]
    · have bound : u < positions.length := places.count ▸ hu
      exact ⟨positions[u], places.inside _ (List.getElem_mem bound),
        (target u).trans (List.getElem?_eq_getElem bound)⟩
    · rw [target] at at_u at_v
      have bound := (List.getElem?_eq_some_iff.mp at_u).1
      exact (List.getElem?_inj bound places.distinct).mp (at_u.trans at_v.symm)
    · exact edges u v x y ((target u).symm.trans at_u) ((target v).symm.trans at_v)

/-- A pattern planted at different vertices is embedded there. -/
theorem embeds_plant (distinct : positions.Nodup) (count : positions.length = pattern.order)
    (inside : ∀ x ∈ positions, x < target.order) :
    Embeds pattern (plant pattern target positions) (.ofTargets positions) := by
  have places : pattern.Places (plant pattern target positions) positions :=
    ⟨distinct, count, inside⟩
  refine places.embeds_iff.mpr fun u v x y at_u at_v => ?_
  have hx := inside x (List.mem_of_getElem? at_u)
  have hy := inside y (List.mem_of_getElem? at_v)
  rw [edgeCount_plant hx hy, neededAt_positions distinct at_u at_v, UInt32.le_iff_toNat_le,
    toNat_max]
  exact Nat.le_max_right _ _

/-- The entries of a graph are at most a bound. -/
def EntriesLe (graph : Graph) (bound : UInt32) : Prop :=
  ∀ u v, graph.edgeCount u v ≤ bound

variable {bound : UInt32}

/-- A graph whose entries are given has no larger ones. -/
theorem entriesLe_ofFn {order : Nat} {entry : Nat → Nat → UInt32}
    (small : ∀ u v, entry u v ≤ bound) : (ofFn order entry).EntriesLe bound := by
  intro u v
  by_cases inside : u < order ∧ v < order
  · rw [edgeCount_ofFn entry inside.1 inside.2]
    exact small u v
  · rw [edgeCount_eq_zero inside]
    exact UInt32.zero_le

/-- The larger of two entries is at most a bound when both are. -/
theorem max_entry_le {left right : UInt32} (first : left ≤ bound) (second : right ≤ bound) :
    max left right ≤ bound := by
  rw [UInt32.le_iff_toNat_le] at first second ⊢
  rw [toNat_max]
  exact Nat.max_le.mpr ⟨first, second⟩

/-- Two entries are at most the larger of them. -/
theorem le_max_entry {left right : UInt32} : left ≤ max left right ∧ right ≤ max left right := by
  rw [UInt32.le_iff_toNat_le, UInt32.le_iff_toNat_le, toNat_max]
  exact ⟨Nat.le_max_left _ _, Nat.le_max_right _ _⟩

/-- Planting a pattern gives no entries above those of the pattern and the target. -/
theorem entriesLe_plant (ofPattern : pattern.EntriesLe bound) (ofTarget : target.EntriesLe bound) :
    (plant pattern target positions).EntriesLe bound := by
  refine entriesLe_ofFn fun x y => max_entry_le (ofTarget x y) ?_
  split
  · exact ofPattern _ _
  · exact UInt32.zero_le

end Graph

end CopyOracle
