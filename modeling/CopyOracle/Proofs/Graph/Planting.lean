import CopyOracle.Proofs.Graph.Change
import CopyOracle.Proofs.Graph.Plant
/-!
# A planted pattern is the least extension that embeds it

Planting is defined cell by cell: it looks the places of two vertices up among the positions.
Another way to the same graph is to raise one entry after the other, a pair of pattern vertices at a
time. To compare the two, and both with the check of embeddings, it is enough to know their
extensions. A graph extends the planted one exactly when it extends the target and the pattern is
embedded in it at the positions; and the same graphs extend the raised one, whatever the order of
the raises.
-/

namespace CopyOracle

namespace Graph

variable {pattern target host : Graph} {positions : List Nat}

/-- Graphs with the same extensions are the same. -/
theorem eq_of_extends_iff {left right : Graph}
    (same : ∀ other, left.Extends other ↔ right.Extends other) : left = right :=
  Extends.antisymm ((same right).mpr (.refl right)) ((same left).mp (.refl left))

/-- A pattern needs at most an entry where this is enough for all pairs that are placed there. -/
theorem neededAt_le_iff (distinct : positions.Nodup) {x y : Nat} {entry : UInt32} :
    neededAt pattern positions x y ≤ entry ↔
      ∀ u v, positions[u]? = some x → positions[v]? = some y → pattern.edgeCount u v ≤ entry := by
  constructor
  · intro enough u v at_u at_v
    rwa [neededAt_positions distinct at_u at_v] at enough
  · intro enough
    rw [neededAt]
    split
    · next u v found_u found_v =>
      obtain ⟨inside_u, same_u, -⟩ := List.idxOf?_eq_some_iff.mp found_u
      obtain ⟨inside_v, same_v, -⟩ := List.idxOf?_eq_some_iff.mp found_v
      exact enough u v (List.getElem?_eq_some_iff.mpr ⟨inside_u, same_u⟩)
        (List.getElem?_eq_some_iff.mpr ⟨inside_v, same_v⟩)
    · exact UInt32.zero_le

/-- The extensions of the planted graph are those of the target with the edges of the pattern. -/
theorem extends_plant_iff (places : pattern.Places target positions) :
    (plant pattern target positions).Extends host ↔
      target.Extends host ∧ pattern.HasEdgesAt host positions := by
  constructor
  · intro kept
    refine ⟨⟨kept.order, fun x hx y hy => ?_⟩, fun u v x y at_u at_v => ?_⟩
    · have entry := kept.keeps x hx y hy
      rw [edgeCount_plant hx hy] at entry
      exact UInt32.le_trans le_max_entry.1 entry
    · have hx := places.inside x (List.mem_of_getElem? at_u)
      have hy := places.inside y (List.mem_of_getElem? at_v)
      have entry := kept.keeps x hx y hy
      rw [edgeCount_plant hx hy] at entry
      have needed := UInt32.le_trans le_max_entry.2 entry
      exact (neededAt_le_iff places.distinct).mp needed u v at_u at_v
  · rintro ⟨kept, edges⟩
    refine ⟨kept.order, fun x (hx : x < target.order) y (hy : y < target.order) => ?_⟩
    rw [edgeCount_plant hx hy]
    exact max_entry_le (kept.keeps x hx y hy)
      ((neededAt_le_iff places.distinct).mpr fun u v at_u at_v => edges u v x y at_u at_v)

/-- The raise that gives the host the edges of a pair of pattern vertices between their positions.
-/
def raiseBetween (pattern : Graph) (positions : List Nat) (pair : Nat × Nat) : GraphChange :=
  .raise (positions.getD pair.1 0) (positions.getD pair.2 0) (pattern.edgeCount pair.1 pair.2)

/-- All pairs of pattern vertices are raised exactly where the host has the edges of the pattern. -/
theorem Places.reaches_iff (places : pattern.Places host positions) {pairs : List (Nat × Nat)}
    (all : pairs.Perm (cells pattern.order)) :
    host.Reaches (pairs.map (pattern.raiseBetween positions)) ↔
      pattern.HasEdgesAt host positions := by
  constructor
  · intro reached u v x y at_u at_v
    have hu := (List.getElem?_eq_some_iff.mp at_u).1
    have hv := (List.getElem?_eq_some_iff.mp at_v).1
    have listed : (u, v) ∈ pairs :=
      all.mem_iff.mpr (mem_cells.mpr ⟨places.count ▸ hu, places.count ▸ hv⟩)
    refine reached x y _ ?_ (places.inside x (List.mem_of_getElem? at_u))
      (places.inside y (List.mem_of_getElem? at_v))
    refine List.mem_map.mpr ⟨(u, v), listed, ?_⟩
    simp only [raiseBetween, List.getD_eq_getElem?_getD, at_u, at_v, Option.getD_some]
  · intro edges x y minimum listed _ _
    obtain ⟨⟨u, v⟩, member, same⟩ := List.mem_map.mp listed
    obtain ⟨hu, hv⟩ := mem_cells.mp (all.mem_iff.mp member)
    rw [← places.count] at hu hv
    obtain ⟨rfl, rfl, rfl⟩ := GraphChange.raise.inj same
    refine edges u v _ _ ?_ ?_
    · simp [hu]
    · simp [hv]

/-- Raising all pairs of pattern vertices, in any order, is never refused and gives the planted
graph. -/
theorem foldlM_raise_eq_plant (places : pattern.Places target positions)
    {pairs : List (Nat × Nat)} (all : pairs.Perm (cells pattern.order)) :
    (pairs.map (pattern.raiseBetween positions)).foldlM change target =
      .ok (plant pattern target positions) := by
  have raises : AllRaises (pairs.map (pattern.raiseBetween positions)) := fun change listed => by
    obtain ⟨pair, -, rfl⟩ := List.mem_map.mp listed
    exact ⟨_, _, _, rfl⟩
  have inside : ∀ change ∈ pairs.map (pattern.raiseBetween positions), ∃ x y minimum,
      change = .raise x y minimum ∧ x < target.order ∧ y < target.order := fun change listed => by
    obtain ⟨⟨u, v⟩, member, rfl⟩ := List.mem_map.mp listed
    obtain ⟨hu, hv⟩ := mem_cells.mp (all.mem_iff.mp member)
    rw [← places.count] at hu hv
    refine ⟨_, _, _, rfl, ?_, ?_⟩
    · simpa [hu] using places.inside _ (List.getElem_mem hu)
    · simpa [hv] using places.inside _ (List.getElem_mem hv)
  rw [foldlM_change_eq_ok inside]
  refine congrArg Except.ok (eq_of_extends_iff fun host => ?_)
  rw [extends_changedBy_iff raises, extends_plant_iff places]
  refine and_congr_right fun kept => ?_
  exact (places.of_order kept.order).reaches_iff all

/-- An extension of an extension has gained at least as much. -/
theorem Extends.increase_le {base extended : Graph} (kept : base.Extends extended)
    (grown : extended.Extends host) : base.increase extended ≤ base.increase host := by
  refine Finset.sum_le_sum fun u hu => Finset.sum_le_sum fun v hv => ?_
  rw [Finset.mem_range, kept.order] at hu hv
  have entry := UInt32.le_iff_toNat_le.mp (grown.keeps u hu v hv)
  exact Nat.sub_le_sub_right entry _

/-- What planting a pattern at its places does to a target. -/
structure PlantLaws (pattern target : Graph) (positions : List Nat) : Prop where
  /-- The planted graph comes from the target by raising the entry of every pair of pattern
  vertices, loops included and in any order, and no raise is refused. -/
  raised : ∀ pairs : List (Nat × Nat), pairs.Perm (cells pattern.order) →
    (pairs.map (pattern.raiseBetween positions)).foldlM change target =
      .ok (plant pattern target positions)
  /-- The pattern is embedded at its places. -/
  embedded : checkEmbedding pattern (plant pattern target positions) (.ofTargets positions) = .ok ()
  /-- The planted graph is an extension, whose cost is the word of its increase. -/
  priced : target.extensionCost (plant pattern target positions) =
    .ok (.ofNat (target.increase (plant pattern target positions)))
  /-- Every extension in which the pattern is embedded there has at least its entries. -/
  least : ∀ host cost, target.extensionCost host = .ok cost →
    checkEmbedding pattern host (.ofTargets positions) = .ok () →
    ∀ x y, (plant pattern target positions).edgeCount x y ≤ host.edgeCount x y
  /-- Every such extension has gained at least as much, and its cost is the word of that. -/
  cheapest : ∀ host cost, target.extensionCost host = .ok cost →
    checkEmbedding pattern host (.ofTargets positions) = .ok () →
    target.increase (plant pattern target positions) ≤ target.increase host ∧
      cost = .ofNat (target.increase host)
  /-- So its cost is at least as large, unless the sum of what it gained leaves its word, which it
  does not up to `2 ^ 16` vertices. -/
  cheapestWord : ∀ host least cost,
    target.extensionCost (plant pattern target positions) = .ok least →
    target.extensionCost host = .ok cost →
    checkEmbedding pattern host (.ofTargets positions) = .ok () →
    target.increase host < 2 ^ 64 ∨ target.order ≤ 2 ^ 16 → least ≤ cost

/-- Every extension of the target in which the pattern is embedded at its places extends the planted
graph. -/
theorem Places.extends_of_accepted (places : pattern.Places target positions) {cost : UInt64}
    (priced : target.extensionCost host = .ok cost)
    (accepted : checkEmbedding pattern host (.ofTargets positions) = .ok ()) :
    (plant pattern target positions).Extends host := by
  have kept := (extensionCost_eq_ok_iff.mp priced).1
  have there : pattern.Places host positions := places.of_order kept.order
  have edges := there.embeds_iff.mp (checkEmbedding_eq_ok_iff.mp accepted)
  exact (extends_plant_iff places).mpr ⟨kept, edges⟩

/-- At different vertices of the target, one for each vertex of the pattern, planting gives the
least extension of the target in which the pattern is embedded there. -/
theorem plant_least (places : pattern.Places target positions) :
    pattern.PlantLaws target positions := by
  have planted : target.Extends (plant pattern target positions) :=
    ((extends_plant_iff places).mp (.refl _)).1
  have priced : target.extensionCost (plant pattern target positions) =
      .ok (.ofNat (target.increase (plant pattern target positions))) :=
    extensionCost_eq_ok_iff.mpr ⟨planted, rfl⟩
  have gained {host : Graph} {cost : UInt64} (asked : target.extensionCost host = .ok cost)
      (accepted : checkEmbedding pattern host (.ofTargets positions) = .ok ()) :
      target.increase (plant pattern target positions) ≤ target.increase host :=
    planted.increase_le (places.extends_of_accepted asked accepted)
  have embeds : Embeds pattern (plant pattern target positions) (.ofTargets positions) :=
    embeds_plant places.distinct places.count places.inside
  refine ⟨fun pairs all => foldlM_raise_eq_plant places all, checkEmbedding_eq_ok_iff.mpr embeds,
    priced,
    fun host cost asked accepted => (places.extends_of_accepted asked accepted).edgeCount_le,
    fun host cost asked accepted => ⟨gained asked accepted, (extensionCost_eq_ok_iff.mp asked).2⟩,
    fun host least cost own asked accepted fits => ?_⟩
  have word : target.increase host < 2 ^ 64 := fits.elim id fun bound => increase_lt bound host
  have order := gained asked accepted
  obtain rfl := Except.ok.inj (priced.symm.trans own)
  obtain ⟨-, rfl⟩ := extensionCost_eq_ok_iff.mp asked
  rw [UInt64.le_iff_toNat_le, UInt64.toNat_ofNat_of_lt' (Nat.lt_of_le_of_lt order word),
    UInt64.toNat_ofNat_of_lt' word]
  exact order

/-- An edge of three with a loop at its tail is planted where there are five edges already, and
costs one. It is raised from its last pair to its first one, and costs less than in a graph that has
more loops. -/
theorem plant_least_loop :
    let pattern := ofSquare [[1, 3], [0, 0]] (by decide)
    let target := ofSquare [[0, 0, 0], [0, 0, 0], [5, 0, 0]] (by decide)
    let host := ofSquare [[2, 0, 0], [0, 0, 0], [5, 0, 2]] (by decide)
    pattern.Places target [2, 0] ∧
    ([(1, 1), (1, 0), (0, 1), (0, 0)].map (pattern.raiseBetween [2, 0])).foldlM change target =
      .ok (plant pattern target [2, 0]) ∧
    target.extensionCost (plant pattern target [2, 0]) = .ok 1 ∧
    target.extensionCost host = .ok 4 ∧ (1 : UInt64) ≤ 4 := by
  intro pattern target host
  have places : pattern.Places target [2, 0] := ⟨by decide, rfl, by decide⟩
  have laws := plant_least places
  have least : target.extensionCost (plant pattern target [2, 0]) = .ok 1 := by decide +kernel
  have asked : target.extensionCost host = .ok 4 := by decide +kernel
  have accepted : checkEmbedding pattern host (.ofTargets [2, 0]) = .ok () := by decide +kernel
  exact ⟨places, laws.raised _ (by decide), least, asked,
    laws.cheapestWord host 1 4 least asked accepted (.inr (by decide))⟩

end Graph

end CopyOracle
