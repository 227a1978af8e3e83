import CopyOracle.Proofs.Answer.Check
import CopyOracle.Proofs.Case
import Mathlib.Data.Finset.Powerset
import Mathlib.Data.List.Sublists
/-!
# Impossible cases are the unsatisfiable ones

Distinct copies use different vertex sets of the size of the pattern, so there are at most as
many as such sets: an impossible case has no accepted list of copies. Conversely the extension
with every entry at its largest holds the pattern at every choice of vertices. Its ascending
choices, in lexicographic order, are as many distinct copies in canonical order as there are
vertex sets, and a satisfiable case takes the first of them.
-/

namespace CopyOracle

/-- The vertex set of an embedding has one vertex for each pattern vertex. -/
theorem Embeds.card_image {pattern host : Graph} {mapping : Mapping}
    (embeds : Embeds pattern host mapping) : mapping.image.toFinset.card = pattern.order := by
  have images : mapping.image.toFinset =
      (Finset.range pattern.order).image fun u => (mapping.get? u).getD 0 := by
    ext x
    rw [List.mem_toFinset, Mapping.mem_image, Finset.mem_image]
    constructor
    · rintro ⟨u, entry⟩
      have inside := Mapping.lt_sources_of_get? entry
      exact ⟨u, Finset.mem_range.mpr (embeds.sources ▸ inside), by rw [entry]; rfl⟩
    · rintro ⟨u, inside, rfl⟩
      obtain ⟨x, _, entry⟩ := embeds.assigned u (Finset.mem_range.mp inside)
      exact ⟨u, by rw [entry]; rfl⟩
  rw [images, Finset.card_image_of_injOn, Finset.card_range]
  intro u hu v hv same
  obtain ⟨x, _, atU⟩ := embeds.assigned u (Finset.mem_range.mp hu)
  obtain ⟨y, _, atV⟩ := embeds.assigned v (Finset.mem_range.mp hv)
  simp only [atU, atV, Option.getD_some] at same
  subst same
  exact embeds.injective u v x atU atV

/-- An embedding uses host vertices only. -/
theorem Embeds.image_subset {pattern host : Graph} {mapping : Mapping}
    (embeds : Embeds pattern host mapping) :
    mapping.image.toFinset ⊆ Finset.range host.order := by
  intro x member
  obtain ⟨u, entry⟩ := Mapping.mem_image.mp (List.mem_toFinset.mp member)
  exact Finset.mem_range.mpr (embeds.target_lt entry)

/-- There are at most as many distinct copies as vertex sets of the size of the pattern. -/
theorem DistinctCopies.le_choose {pattern host : Graph} {copies : Nat} {mappings : List Mapping}
    (distinct : DistinctCopies pattern host copies mappings) :
    copies ≤ host.order.choose pattern.order := by
  have nodup : (mappings.map fun mapping => mapping.image.toFinset).Nodup := by
    rw [List.nodup_iff_pairwise_ne, List.pairwise_map]
    refine distinct.distinct.imp fun {left right} different same => different ?_
    ext x
    rw [← Mapping.mem_image, ← Mapping.mem_image, ← List.mem_toFinset, same, List.mem_toFinset]
  have subsets : (mappings.map fun mapping => mapping.image.toFinset).toFinset ⊆
      (Finset.range host.order).powersetCard pattern.order := by
    intro set member
    obtain ⟨mapping, listed, rfl⟩ := List.mem_map.mp (List.mem_toFinset.mp member)
    have embeds := distinct.embeds mapping listed
    exact Finset.mem_powersetCard.mpr ⟨embeds.image_subset, embeds.card_image⟩
  have counted := Finset.card_le_card subsets
  rw [List.toFinset_card_of_nodup nodup, List.length_map, distinct.count,
    Finset.card_powersetCard, Finset.card_range] at counted
  exact counted

namespace Answer

/-- An accepted answer that lists copies belongs to a satisfiable case, whatever the order of the
target. -/
theorem satisfiable_of_check {problem : Case} {strict : Bool} {answer : Answer} {cost : UInt64}
    (listed : answer.copies.isSome = true) (accepted : answer.check problem strict = .ok cost) :
    problem.Satisfiable := by
  obtain ⟨copies, present⟩ := Option.isSome_iff_exists.mp listed
  obtain ⟨priced, copied, _⟩ := check_eq_ok_iff_checks.mp accepted
  have extension := (Graph.extensionCost_eq_ok_iff.mp (Graph.checkCost_eq_ok_iff.mp priced).1).1
  have images := (checkCopies_eq_ok_iff.mp copied copies present).le_choose
  rw [← extension.order] at images
  refine ⟨?_, images⟩
  by_contra small
  rw [Nat.choose_eq_zero_of_lt (by omega)] at images
  have asked : 0 < problem.copies.toNat := UInt64.lt_iff_toNat_lt.mp problem.copies_positive
  omega

end Answer

/-- The choices of `n` numbers from an ascending list are listed in descending order. -/
theorem sublistsLen_descending {l : List Nat} (ascending : l.Pairwise (· < ·)) (n : Nat) :
    (l.sublistsLen n).Pairwise fun left right => right < left := by
  induction l generalizing n with
  | nil => cases n <;> simp
  | cons a l ih =>
    obtain ⟨first, later⟩ := List.pairwise_cons.mp ascending
    cases n with
    | zero => simp
    | succ n =>
      rw [List.sublistsLen_succ_cons, List.pairwise_append, List.pairwise_map]
      refine ⟨ih later (n + 1), ?_, ?_⟩
      · exact (ih later n).imp fun smaller => List.cons_lt_cons_iff.mpr (.inr ⟨rfl, smaller⟩)
      · intro left without right withFirst
        obtain ⟨rest, _, rfl⟩ := List.mem_map.mp withFirst
        obtain ⟨sublist, length⟩ := List.mem_sublistsLen.mp without
        cases left with
        | nil => simp at length
        | cons b left =>
          have member : b ∈ l := sublist.subset List.mem_cons_self
          exact List.cons_lt_cons_iff.mpr (.inl (first b member))

/-- The mappings of `n` sources to ascending vertices below `order`, in lexicographic order. -/
def ascendingMappings (n order : Nat) : List Mapping :=
  ((List.range order).sublistsLen n).reverse.map Mapping.ofTargets

/-- There is one ascending mapping for each vertex set. -/
theorem length_ascendingMappings (n order : Nat) :
    (ascendingMappings n order).length = order.choose n := by
  simp [ascendingMappings]

/-- An ascending mapping is given by ascending vertices below the bound. -/
theorem exists_of_mem_ascendingMappings {n order : Nat} {mapping : Mapping}
    (member : mapping ∈ ascendingMappings n order) :
    ∃ targets : List Nat, mapping = .ofTargets targets ∧ targets.length = n ∧
      targets.Pairwise (· < ·) ∧ ∀ x ∈ targets, x < order := by
  obtain ⟨targets, chosen, rfl⟩ := List.mem_map.mp member
  obtain ⟨sublist, length⟩ := List.mem_sublistsLen.mp (List.mem_reverse.mp chosen)
  exact ⟨targets, rfl, length, List.pairwise_lt_range.sublist sublist, fun x inside =>
    List.mem_range.mp (sublist.subset inside)⟩

/-- The tuples of targets are ordered as the lists of targets. -/
theorem map_some_lt_map_some_iff {left right : List Nat} :
    left.map some < right.map some ↔ left < right := by
  induction left generalizing right with
  | nil => cases right <;> simp
  | cons a left ih =>
    cases right with
    | nil => simp
    | cons b right => simp [List.cons_lt_cons_iff, ih]

/-- The ascending mappings are in canonical order. -/
theorem ascendingMappings_canonical (n order : Nat) :
    (ascendingMappings n order).Pairwise fun left right => left.targets < right.targets := by
  rw [ascendingMappings, List.pairwise_map, List.pairwise_reverse]
  exact (sublistsLen_descending List.pairwise_lt_range n).imp map_some_lt_map_some_iff.mpr

/-- An ascending mapping is determined by its vertex set. -/
theorem eq_of_vertexSet_eq {left right : List Nat} (ascendingLeft : left.Pairwise (· < ·))
    (ascendingRight : right.Pairwise (· < ·))
    (same : (Mapping.ofTargets left).vertexSet = (Mapping.ofTargets right).vertexSet) :
    left = right := by
  have members : ∀ targets : List Nat, ∀ x,
      x ∈ (Mapping.ofTargets targets).vertexSet ↔ x ∈ targets := fun targets x => by
    simp only [Mapping.mem_vertexSet, Mapping.get?_ofTargets]
    exact List.mem_iff_getElem?.symm
  have perm : left.Perm right := (List.perm_ext_iff_of_nodup
    (ascendingLeft.imp Nat.ne_of_lt) (ascendingRight.imp Nat.ne_of_lt)).mpr fun x => by
      rw [← members, ← members, same]
  exact perm.eq_of_pairwise (fun a b _ _ less greater => absurd greater (Nat.lt_asymm less))
    ascendingLeft ascendingRight

/-- The ascending mappings have pairwise different vertex sets. -/
theorem ascendingMappings_distinct (n order : Nat) :
    (ascendingMappings n order).Pairwise fun left right => left.vertexSet ≠ right.vertexSet := by
  refine (ascendingMappings_canonical n order).imp_of_mem
    fun {left right} atLeft atRight before same => ?_
  obtain ⟨leftTargets, rfl, _, leftAscending, _⟩ := exists_of_mem_ascendingMappings atLeft
  obtain ⟨rightTargets, rfl, _, rightAscending, _⟩ := exists_of_mem_ascendingMappings atRight
  obtain rfl := eq_of_vertexSet_eq leftAscending rightAscending same
  exact Mapping.targets_lt_irrefl _ before

/-- The graph with every entry at its largest. -/
def Graph.saturated (order : Nat) : Graph := .ofFn order fun _ _ => .ofNat (2 ^ 32 - 1)

/-- No entry is larger than those of the saturated graph. -/
theorem Graph.le_saturated {order u v : Nat} (hu : u < order) (hv : v < order) (entry : UInt32) :
    entry ≤ (saturated order).edgeCount u v := by
  rw [saturated, edgeCount_ofFn _ hu hv, UInt32.le_iff_toNat_le]
  have word := entry.toNat_lt
  change entry.toNat ≤ 2 ^ 32 - 1
  omega

/-- A saturated host has every pattern at all vertices of an ascending mapping. -/
theorem embeds_of_mem_ascendingMappings {pattern : Graph} {order : Nat} {mapping : Mapping}
    (member : mapping ∈ ascendingMappings pattern.order order) :
    Embeds pattern (.saturated order) mapping := by
  obtain ⟨targets, rfl, length, ascending, inside⟩ := exists_of_mem_ascendingMappings member
  have entry : ∀ {u x}, (Mapping.ofTargets targets).get? u = some x → x < order := by
    intro u x found
    rw [Mapping.get?_ofTargets] at found
    exact inside x (List.mem_of_getElem? found)
  refine ⟨by simpa [Mapping.sources, Mapping.ofTargets] using length, fun u hu => ?_,
    fun u v x atU atV => ?_, fun u v x y atU atV => Graph.le_saturated (entry atU) (entry atV) _⟩
  · have bound : u < targets.length := by omega
    exact ⟨targets[u], inside _ (List.getElem_mem bound), by
      rw [Mapping.get?_ofTargets, List.getElem?_eq_getElem bound]⟩
  · rw [Mapping.get?_ofTargets] at atU atV
    have nodup : targets.Nodup := ascending.imp Nat.ne_of_lt
    exact (List.getElem?_inj (List.getElem?_eq_some_iff.mp atU).1 nodup).mp (atU.trans atV.symm)

/-- The answer with the saturated target and the first ascending mappings. -/
def saturatedAnswer (problem : Case) : Answer where
  extended := .saturated problem.target.order
  copies := some ((ascendingMappings problem.pattern.order problem.target.order).take
    problem.copies.toNat)
  cost := .ofNat (problem.target.increase (.saturated problem.target.order))

/-- A satisfiable case with at most `2 ^ 16` target vertices has an answer in canonical order. -/
theorem saturatedAnswer_solves {problem : Case} (satisfiable : problem.Satisfiable)
    (bound : problem.target.order ≤ 2 ^ 16) (strict : Bool) :
    (saturatedAnswer problem).Solves problem strict where
  extension := ⟨rfl, fun _ hu _ hv => Graph.le_saturated hu hv _⟩
  cost := (UInt64.toNat_ofNat_of_lt' (Graph.increase_lt bound _)).symm
  copies := by
    rintro copies present
    obtain rfl := Option.some.inj present
    have taken := List.take_sublist problem.copies.toNat
      (ascendingMappings problem.pattern.order problem.target.order)
    refine ⟨?_, fun mapping member => embeds_of_mem_ascendingMappings (taken.subset member),
      (ascendingMappings_distinct _ _).sublist taken⟩
    rw [List.length_take, length_ascendingMappings, Nat.min_eq_left satisfiable.images]
  order := by
    rintro _ copies present
    obtain rfl := Option.some.inj present
    exact (ascendingMappings_canonical _ _).sublist (List.take_sublist _ _)

namespace Case

/-- A case is called impossible exactly when no answer with listed copies is accepted: an
impossible case has none, and any other case with at most `2 ^ 16` target vertices has one that
is accepted with its copies in canonical order. -/
theorem isImpossible_iff_no_answer (problem : Case) :
    (problem.isImpossible = true → ∀ (strict : Bool) (answer : Answer),
      answer.copies.isSome = true → ∀ cost, answer.check problem strict ≠ .ok cost) ∧
    (problem.isImpossible = false → problem.target.order ≤ 2 ^ 16 → ∃ answer : Answer,
      answer.copies.isSome = true ∧
        ∀ strict : Bool, ∃ cost, answer.check problem strict = .ok cost) := by
  constructor
  · intro impossible strict answer listed cost accepted
    exact isImpossible_eq_true_iff.mp impossible (Answer.satisfiable_of_check listed accepted)
  · intro possible bound
    have satisfiable := isImpossible_eq_false_iff.mp possible
    exact ⟨saturatedAnswer problem, rfl, fun strict => ⟨(saturatedAnswer problem).cost,
      (Answer.check_eq_ok_iff bound).mpr ⟨saturatedAnswer_solves satisfiable bound strict, rfl⟩⟩⟩

/-- Of an edge in three vertices there are three copies and not four. -/
theorem isImpossible_iff_no_answer_edge :
    (⟨.empty 2, .empty 3, 3, by decide, by decide⟩ : Case).isImpossible = false ∧
    (∃ answer : Answer, answer.copies.isSome = true ∧ ∀ strict : Bool, ∃ cost,
      answer.check ⟨.empty 2, .empty 3, 3, by decide, by decide⟩ strict = .ok cost) ∧
    (⟨.empty 2, .empty 3, 4, by decide, by decide⟩ : Case).isImpossible = true ∧
    (∀ (strict : Bool) (answer : Answer), answer.copies.isSome = true → ∀ cost,
      answer.check ⟨.empty 2, .empty 3, 4, by decide, by decide⟩ strict ≠ .ok cost) :=
  ⟨by decide, (isImpossible_iff_no_answer _).2 (by decide) (by decide), by decide,
    (isImpossible_iff_no_answer _).1 (by decide)⟩

end Case

end CopyOracle
