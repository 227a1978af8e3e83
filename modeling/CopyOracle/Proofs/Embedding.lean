import CopyOracle.Embedding.Copies
import CopyOracle.Embedding.Order
import CopyOracle.Proofs.Mapping
import Mathlib.Data.List.Chain
/-!
# The checks of copies decide their predicates

`checkEmbedding` accepts exactly the mappings that embed the pattern, `checkCopies` exactly the
lists of so many embeddings on pairwise distinct vertex sets, and `checkOrder` exactly the lists
that are strictly ascending in the lexicographic order of their tuples. Each check looks for the
first fault of some kinds; the lemmas say for each kind what it means that there is none.
-/

namespace CopyOracle

/-- No vertex is reported as unmapped exactly when every pattern vertex has a target. -/
theorem firstUnmapped?_eq_none_iff {order : Nat} {mapping : Mapping} :
    firstUnmapped? order mapping = none ↔ ∀ u < order, ∃ x, mapping.get? u = some x := by
  simp [firstUnmapped?, List.find?_eq_none, Option.ne_none_iff_exists']

/-- No target is reported as outside exactly when all of them are host vertices. -/
theorem firstOutside?_eq_none_iff {host : Graph} {mapping : Mapping} :
    firstOutside? host mapping = none ↔ ∀ u x, mapping.get? u = some x → x < host.order := by
  simp [firstOutside?, List.find?_eq_none, Mapping.mem_assignments]

/-- No shortfall is reported exactly when every pair of images has the edges it needs. -/
theorem firstShortfall?_eq_none_iff {pattern host : Graph} {mapping : Mapping} :
    firstShortfall? pattern host mapping = none ↔
      ∀ u v x y, mapping.get? u = some x → mapping.get? v = some y →
        pattern.edgeCount u v ≤ host.edgeCount x y := by
  simp only [firstShortfall?, List.find?_eq_none, List.mem_flatMap, List.mem_map, Prod.forall,
    decide_eq_true_eq, UInt32.not_lt]
  constructor
  · intro enough u v x y atU atV
    exact enough u x v y ⟨(u, x), Mapping.mem_assignments.mpr atU, (v, y),
      Mapping.mem_assignments.mpr atV, rfl⟩
  · rintro enough u x v y ⟨_, listed, _, found, same⟩
    obtain ⟨rfl, rfl⟩ := Prod.mk.inj same
    exact enough u v x y (Mapping.mem_assignments.mp listed) (Mapping.mem_assignments.mp found)

/-- An embedding has host vertices as its targets only. -/
theorem Embeds.target_lt {pattern host : Graph} {mapping : Mapping}
    (embeds : Embeds pattern host mapping) {u x : Nat} (entry : mapping.get? u = some x) :
    x < host.order := by
  obtain ⟨y, bound, same⟩ :=
    embeds.assigned u (embeds.sources ▸ Mapping.lt_sources_of_get? entry)
  rw [entry, Option.some.injEq] at same
  exact same ▸ bound

/-- A mapping is accepted exactly when it embeds the pattern. -/
theorem checkEmbedding_eq_ok_iff {pattern host : Graph} {mapping : Mapping} :
    checkEmbedding pattern host mapping = .ok () ↔ Embeds pattern host mapping := by
  rw [checkEmbedding]
  constructor
  · intro accepted
    split at accepted
    · contradiction
    · next sources =>
      split at accepted
      · contradiction
      · next unmapped =>
        split at accepted
        · contradiction
        · next collision =>
          split at accepted
          · contradiction
          · next outside =>
            split at accepted
            · contradiction
            · next shortfall =>
              have inside := firstOutside?_eq_none_iff.mp outside
              refine ⟨by omega, fun u hu => ?_, Mapping.firstCollision?_eq_none_iff.mp collision,
                firstShortfall?_eq_none_iff.mp shortfall⟩
              obtain ⟨x, entry⟩ := firstUnmapped?_eq_none_iff.mp unmapped u hu
              exact ⟨x, inside u x entry, entry⟩
  · intro embeds
    have unmapped : firstUnmapped? pattern.order mapping = none :=
      firstUnmapped?_eq_none_iff.mpr fun u hu => by
        obtain ⟨x, _, entry⟩ := embeds.assigned u hu
        exact ⟨x, entry⟩
    have collision := Mapping.firstCollision?_eq_none_iff.mpr embeds.injective
    have outside : firstOutside? host mapping = none :=
      firstOutside?_eq_none_iff.mpr fun _ _ entry => embeds.target_lt entry
    have shortfall := firstShortfall?_eq_none_iff.mpr embeds.edges
    simp only [embeds.sources, ne_eq, not_true_eq_false, ↓reduceIte, unmapped, collision, outside,
      shortfall]

/-- No copy is reported as invalid exactly when each embeds the pattern. -/
theorem firstInvalid?_eq_none_iff {pattern host : Graph} {number : Nat} {mappings : List Mapping} :
    firstInvalid? pattern host number mappings = none ↔
      ∀ mapping ∈ mappings, Embeds pattern host mapping := by
  induction mappings generalizing number with
  | nil => simp [firstInvalid?]
  | cons mapping later ih =>
    cases checked : checkEmbedding pattern host mapping with
    | error violation =>
      have refused : ¬Embeds pattern host mapping := fun embeds => by
        rw [checkEmbedding_eq_ok_iff.mpr embeds] at checked
        contradiction
      simp [firstInvalid?, checked, refused]
    | ok _ =>
      have embeds := checkEmbedding_eq_ok_iff.mp checked
      simp [firstInvalid?, checked, embeds, ih]

/-- No repeated vertex set is reported exactly when they are pairwise different. -/
theorem firstRepeat?_eq_none_iff {number : Nat} {images : List (List Nat)} :
    firstRepeat? number images = none ↔ images.Pairwise (· ≠ ·) := by
  induction images generalizing number with
  | nil => simp [firstRepeat?]
  | cons image later ih =>
    cases found : later.findIdx? (· == image) with
    | some offset =>
      obtain ⟨inside, same, _⟩ := List.findIdx?_eq_some_iff_getElem.mp found
      have repeated : later[offset] = image := by simpa using same
      simp only [firstRepeat?, found, reduceCtorEq, List.pairwise_cons, false_iff, not_and]
      exact fun fresh => absurd repeated.symm (fresh _ (List.getElem_mem inside))
    | none =>
      have fresh : ∀ other ∈ later, image ≠ other := fun other member same => by
        have differs := List.findIdx?_eq_none_iff.mp found other member
        simp [same] at differs
      simp only [firstRepeat?, found, ih, List.pairwise_cons]
      exact ⟨fun distinct => ⟨fresh, distinct⟩, And.right⟩

/-- So many embeddings of the pattern, no two on one vertex set. -/
structure DistinctCopies (pattern host : Graph) (copies : Nat) (mappings : List Mapping) :
    Prop where
  /-- There are as many as were asked for. -/
  count : mappings.length = copies
  /-- Each embeds the pattern. -/
  embeds : ∀ mapping ∈ mappings, Embeds pattern host mapping
  /-- No two use the same vertices. -/
  distinct : mappings.Pairwise fun left right => left.vertexSet ≠ right.vertexSet

/-- A list of mappings is accepted exactly when it is so many distinct copies. -/
theorem checkCopies_eq_ok_iff {pattern host : Graph} {mappings : List Mapping} {copies : Nat} :
    checkCopies pattern host mappings copies = .ok () ↔
      DistinctCopies pattern host copies mappings := by
  have images : (mappings.map Mapping.image).Pairwise (· ≠ ·) ↔
      mappings.Pairwise fun left right => left.vertexSet ≠ right.vertexSet := by
    simp only [List.pairwise_map, ne_eq, Mapping.image_eq_image_iff]
  rw [checkCopies]
  constructor
  · intro accepted
    split at accepted
    · contradiction
    · next count =>
      split at accepted
      · contradiction
      · next valid =>
        split at accepted
        · contradiction
        · next fresh =>
          exact ⟨by omega, firstInvalid?_eq_none_iff.mp valid,
            images.mp (firstRepeat?_eq_none_iff.mp fresh)⟩
  · intro distinct
    have valid : firstInvalid? pattern host 1 mappings = none :=
      firstInvalid?_eq_none_iff.mpr distinct.embeds
    have fresh : firstRepeat? 1 (mappings.map Mapping.image) = none :=
      firstRepeat?_eq_none_iff.mpr (images.mpr distinct.distinct)
    simp only [distinct.count, ne_eq, not_true_eq_false, ↓reduceIte, valid, fresh]

/-- The lexicographic order of tuples is transitive. -/
theorem Mapping.targets_lt_trans {left middle right : Mapping}
    (first : left.targets < middle.targets) (second : middle.targets < right.targets) :
    left.targets < right.targets := by
  rw [← compare_targets_eq_lt_iff] at first second ⊢
  exact Std.TransCmp.lt_trans first second

/-- The lexicographic order of tuples is irreflexive. -/
theorem Mapping.targets_lt_irrefl (mapping : Mapping) : ¬mapping.targets < mapping.targets := by
  simp [← compare_targets_eq_lt_iff]

instance : IsTrans Mapping fun left right => left.targets < right.targets :=
  ⟨fun _ _ _ => Mapping.targets_lt_trans⟩

/-- No descent is reported exactly when neighbours ascend. -/
theorem firstDescent?_eq_none_iff (number : Nat) (mappings : List Mapping) :
    firstDescent? number mappings = none ↔
      mappings.IsChain fun left right => left.targets < right.targets := by
  induction mappings generalizing number with
  | nil => simp [firstDescent?]
  | cons first rest ih =>
    cases rest with
    | nil => simp [firstDescent?]
    | cons second rest =>
      rw [firstDescent?, List.isChain_cons_cons, ← Mapping.compare_isLT_iff]
      split
      · next ascends => simp [ih, ascends]
      · next descends => simp [descends]

/-- A list is accepted exactly when it is strictly ascending as a whole. -/
theorem checkOrder_eq_ok_iff {mappings : List Mapping} :
    checkOrder mappings = .ok () ↔
      mappings.Pairwise fun left right => left.targets < right.targets := by
  rw [← List.isChain_iff_pairwise, ← firstDescent?_eq_none_iff 1, checkOrder]
  cases firstDescent? 1 mappings <;> simp

end CopyOracle
