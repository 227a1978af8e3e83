import CopyOracle.Mapping
import Mathlib.Data.List.Nodup
import Mathlib.Data.Set.Defs
/-!
# Assignments, collisions and vertex sets

The assignments of a mapping are its pairs `(source, target)` in the order of the sources. No
collision is found exactly when no two sources share a target. The image lists the vertex set of
the mapping in ascending order, so two images are equal exactly when the vertex sets are. The
order of mappings is the lexicographic order of their tuples.
-/

namespace CopyOracle

namespace Mapping

/-- The vertices that the mapping uses. -/
def vertexSet (mapping : Mapping) : Set Nat := {x | ∃ u, mapping.get? u = some x}

/-- A source has a target when its entry is one. -/
theorem get?_eq_some_iff {mapping : Mapping} {u x : Nat} :
    mapping.get? u = some x ↔ mapping.targets[u]? = some (some x) :=
  Option.join_eq_some_iff

/-- The target of a source of a mapping given by its targets. -/
theorem get?_ofTargets (targets : List Nat) (u : Nat) :
    (ofTargets targets).get? u = targets[u]? := by
  rw [get?, ofTargets, List.getElem?_map]
  cases targets[u]? <;> rfl

/-- Only a source has a target. -/
theorem lt_sources_of_get? {mapping : Mapping} {u x : Nat} (entry : mapping.get? u = some x) :
    u < mapping.sources :=
  (List.getElem?_eq_some_iff.mp (get?_eq_some_iff.mp entry)).1

/-- Nothing is assigned at first. -/
theorem get?_unassigned (sources u : Nat) : (unassigned sources).get? u = none := by
  rw [get?, unassigned, List.getElem?_replicate]
  split <;> rfl

/-- Assigning succeeds for sources only, keeps their number, and changes one target. -/
theorem of_set?_eq_some {mapping made : Mapping} {source target : Nat}
    (set : mapping.set? source target = some made) : source < mapping.sources ∧
      made.sources = mapping.sources ∧
      ∀ u, made.get? u = if u = source then some target else mapping.get? u := by
  rw [set?] at set
  split at set
  · next inside =>
    obtain rfl := Option.some.inj set
    refine ⟨inside, List.length_set, fun u => ?_⟩
    by_cases same : u = source
    · subst same
      have entry := List.getElem?_set_self (a := some target) inside
      rw [if_pos rfl, get?, entry]
      rfl
    · rw [if_neg same, get?, get?, List.getElem?_set_ne (Ne.symm same)]
  · contradiction

/-- Mappings of the same sources that assign the same are the same. -/
theorem eq_of_get? {left right : Mapping} (sources : left.sources = right.sources)
    (entries : ∀ u x, left.get? u = some x ↔ right.get? u = some x) : left = right := by
  have same : left.targets = right.targets := by
    refine List.ext_getElem sources fun u inLeft inRight => ?_
    have entry : left.get? u = right.get? u := Option.ext (entries u)
    rw [get?, get?, List.getElem?_eq_getElem inLeft, List.getElem?_eq_getElem inRight] at entry
    exact entry
  exact congrArg Mapping.mk same

/-- A vertex is used when a source has it as its target. -/
theorem mem_vertexSet {mapping : Mapping} {x : Nat} :
    x ∈ mapping.vertexSet ↔ ∃ u, mapping.get? u = some x :=
  Iff.rfl

/-- The assignments are the pairs of a source and its target. -/
theorem mem_assignments {mapping : Mapping} {u x : Nat} :
    (u, x) ∈ mapping.assignments ↔ mapping.get? u = some x := by
  rw [get?_eq_some_iff, assignments, List.mem_filterMap]
  constructor
  · rintro ⟨⟨target, source⟩, listed, made⟩
    obtain ⟨t, rfl, same⟩ := Option.map_eq_some_iff.mp made
    obtain ⟨rfl, rfl⟩ := Prod.mk.inj same
    exact List.mk_mem_zipIdx_iff_getElem?.mp listed
  · intro entry
    exact ⟨(some x, u), List.mk_mem_zipIdx_iff_getElem?.mpr entry, rfl⟩

/-- The assignments stand in the order of their sources. -/
theorem assignments_ascending (mapping : Mapping) :
    mapping.assignments.Pairwise fun earlier later => earlier.1 < later.1 := by
  have indices : mapping.targets.zipIdx.Pairwise fun earlier later => earlier.2 < later.2 := by
    have numbers : (List.range' 0 mapping.targets.length).Pairwise (· < ·) :=
      List.pairwise_lt_range'
    rw [← List.zipIdx_map_snd, List.pairwise_map] at numbers
    exact numbers
  rw [assignments, List.pairwise_filterMap]
  refine indices.imp fun {earlier later} before first made second found => ?_
  obtain ⟨_, _, rfl⟩ := Option.map_eq_some_iff.mp made
  obtain ⟨_, _, rfl⟩ := Option.map_eq_some_iff.mp found
  exact before

/-- No later assignment collides exactly when the targets to come are distinct and new. -/
theorem collisionAfter_eq_none_iff (seen rest : List (Nat × Nat)) :
    collisionAfter seen rest = none ↔
      (rest.map Prod.snd).Nodup ∧ ∀ earlier ∈ seen, ∀ later ∈ rest, earlier.2 ≠ later.2 := by
  induction rest generalizing seen with
  | nil => simp [collisionAfter]
  | cons pair rest ih =>
    obtain ⟨source, target⟩ := pair
    cases found : seen.find? fun earlier => earlier.2 == target with
    | some earlier =>
      have member := List.mem_of_find?_eq_some found
      have shared : earlier.2 = target := by simpa using List.find?_some found
      simp only [collisionAfter, found, reduceCtorEq, false_iff, not_and]
      exact fun _ fresh => fresh earlier member (source, target) List.mem_cons_self shared
    | none =>
      have fresh : ∀ earlier ∈ seen, earlier.2 ≠ target := by
        simpa using List.find?_eq_none.mp found
      simp only [collisionAfter, found, ih, List.map_cons, List.nodup_cons, List.mem_map,
        List.forall_mem_cons]
      grind

/-- No collision is found exactly when no two sources share a target. -/
theorem firstCollision?_eq_none_iff {mapping : Mapping} :
    mapping.firstCollision? = none ↔
      ∀ u v x, mapping.get? u = some x → mapping.get? v = some x → u = v := by
  rw [firstCollision?, collisionAfter_eq_none_iff]
  simp only [List.not_mem_nil, false_implies, implies_true, and_true]
  constructor
  · intro distinct u v x atU atV
    have same := List.inj_on_of_nodup_map distinct (mem_assignments.mpr atU)
      (mem_assignments.mpr atV) rfl
    exact congrArg Prod.fst same
  · intro injective
    have sources : mapping.assignments.Nodup :=
      mapping.assignments_ascending.imp fun before same => by simp [same] at before
    refine List.Nodup.map_on (fun left atLeft right atRight same => ?_) sources
    have atLeft := mem_assignments.mp atLeft
    have atRight := mem_assignments.mp atRight
    rw [← same] at atRight
    exact Prod.ext (injective _ _ _ atLeft atRight) same

/-- Inserting a number adds that number. -/
theorem mem_insertAscending {n x : Nat} {numbers : List Nat} :
    x ∈ insertAscending n numbers ↔ x = n ∨ x ∈ numbers := by
  induction numbers with
  | nil => simp [insertAscending]
  | cons m rest ih =>
    rw [insertAscending]
    split
    · simp
    · split
      · next same => simp [same]
      · simp only [List.mem_cons, ih]
        tauto

/-- Inserting keeps a list ascending without repetition. -/
theorem insertAscending_ascending {n : Nat} {numbers : List Nat}
    (ascending : numbers.Pairwise (· < ·)) : (insertAscending n numbers).Pairwise (· < ·) := by
  induction numbers with
  | nil => simp [insertAscending]
  | cons m rest ih =>
    obtain ⟨first, later⟩ := List.pairwise_cons.mp ascending
    rw [insertAscending]
    split
    · next smaller =>
      refine List.pairwise_cons.mpr ⟨fun x member => ?_, ascending⟩
      rcases List.mem_cons.mp member with rfl | member
      · exact smaller
      · exact Nat.lt_trans smaller (first x member)
    · split
      · exact ascending
      · refine List.pairwise_cons.mpr ⟨fun x member => ?_, ih later⟩
        rcases mem_insertAscending.mp member with rfl | member
        · omega
        · exact first x member

/-- The image holds the vertices that the mapping uses. -/
theorem mem_image {mapping : Mapping} {x : Nat} : x ∈ mapping.image ↔ x ∈ mapping.vertexSet := by
  have folded : ∀ targets : List Nat,
      x ∈ targets.foldr insertAscending [] ↔ x ∈ targets := by
    intro targets
    induction targets with
    | nil => simp
    | cons target rest ih => simp [mem_insertAscending, ih]
  rw [image, folded, List.mem_map]
  constructor
  · rintro ⟨⟨u, _⟩, listed, rfl⟩
    exact ⟨u, mem_assignments.mp listed⟩
  · rintro ⟨u, entry⟩
    exact ⟨(u, x), mem_assignments.mpr entry, rfl⟩

/-- The image is ascending without repetition. -/
theorem image_ascending (mapping : Mapping) : mapping.image.Pairwise (· < ·) := by
  rw [image]
  induction mapping.assignments.map Prod.snd with
  | nil => exact List.Pairwise.nil
  | cons target rest ih => exact insertAscending_ascending ih

/-- Two ascending lists with the same members are equal. -/
theorem eq_of_ascending {left right : List Nat} (first : left.Pairwise (· < ·))
    (second : right.Pairwise (· < ·)) (same : ∀ x, x ∈ left ↔ x ∈ right) : left = right := by
  have members : left.Perm right :=
    (List.perm_ext_iff_of_nodup (first.imp Nat.ne_of_lt) (second.imp Nat.ne_of_lt)).mpr same
  exact members.eq_of_pairwise (fun a b _ _ less greater => absurd greater (Nat.lt_asymm less))
    first second

/-- Two images are equal exactly when the vertex sets are. -/
theorem image_eq_image_iff {left right : Mapping} :
    left.image = right.image ↔ left.vertexSet = right.vertexSet := by
  constructor
  · intro same
    ext x
    rw [← mem_image, ← mem_image, same]
  · intro same
    exact eq_of_ascending left.image_ascending right.image_ascending fun x => by
      rw [mem_image, mem_image, same]

/-- The comparison of entries puts an unassigned one first and compares the targets of others. -/
theorem compare_entry_eq_lt_iff {left right : Option Nat} :
    compare left right = .lt ↔ left < right := by
  cases left <;> cases right <;> simp [compare]

/-- The comparison of tuples is their lexicographic order. -/
theorem compare_targets_eq_lt_iff {left right : List (Option Nat)} :
    compare left right = .lt ↔ left < right := by
  induction left generalizing right with
  | nil => cases right <;> simp
  | cons first left ih =>
    cases right with
    | nil => simp
    | cons second right =>
      rw [List.compare_cons_cons, List.cons_lt_cons_iff, Ordering.then_eq_lt,
        compare_entry_eq_lt_iff, Std.compare_eq_iff_eq, ih]

/-- One mapping is before another exactly when its tuple is lexicographically smaller. -/
theorem compare_isLT_iff {left right : Mapping} :
    (compare left right).isLT ↔ left.targets < right.targets := by
  rw [Ordering.isLT_iff_eq_lt, ← compare_targets_eq_lt_iff]
  rfl

end Mapping

end CopyOracle
