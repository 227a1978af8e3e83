import CopyOracle.Proofs.Embedding
import CopyOracle.Proofs.Mapping.Collision
import CopyOracle.Proofs.Search
/-!
# The first violation of an embedding

The conditions of an embedding are looked at in groups: the number of sources, whether each has a
target, whether the targets are different, whether they are host vertices, and whether every pair
has the edges it needs. A mapping that is refused is refused for the first group that fails, and in
that group for its least vertex or pair.
-/

namespace CopyOracle

namespace Mapping

/-- Every vertex below the order has a target. -/
def Covers (mapping : Mapping) (order : Nat) : Prop := ∀ u < order, ∃ x, mapping.get? u = some x

/-- No two sources share a target. -/
def Injective (mapping : Mapping) : Prop :=
  ∀ u v x, mapping.get? u = some x → mapping.get? v = some x → u = v

/-- Every target is below the order. -/
def Within (mapping : Mapping) (order : Nat) : Prop := ∀ u x, mapping.get? u = some x → x < order

end Mapping

/-- What is wrong first with a mapping that embeds no pattern into a host. -/
inductive FirstEmbeddingViolation (pattern host : Graph) (mapping : Mapping) :
    EmbeddingViolation → Prop where
  /-- The number of sources is wrong. -/
  | sourceCount (differs : mapping.sources ≠ pattern.order) :
    FirstEmbeddingViolation pattern host mapping (.sourceCount pattern.order mapping.sources)
  /-- This is the least vertex without a target. -/
  | incomplete {vertex : Nat} (sources : mapping.sources = pattern.order)
      (inside : vertex < pattern.order) (unmapped : mapping.get? vertex = none)
      (least : mapping.Covers vertex) :
    FirstEmbeddingViolation pattern host mapping (.incomplete vertex)
  /-- This is the collision with the least second vertex. -/
  | notInjective {shared : Collision} (sources : mapping.sources = pattern.order)
      (covers : mapping.Covers pattern.order) (first : mapping.FirstCollision shared) :
    FirstEmbeddingViolation pattern host mapping
      (.notInjective shared.first shared.second shared.target)
  /-- This is the least vertex whose target is no host vertex. -/
  | targetOutOfRange {vertex target : Nat} (sources : mapping.sources = pattern.order)
      (covers : mapping.Covers pattern.order) (injective : mapping.Injective)
      (entry : mapping.get? vertex = some target) (outside : host.order ≤ target)
      (least : ∀ u < vertex, ∀ x, mapping.get? u = some x → x < host.order) :
    FirstEmbeddingViolation pattern host mapping (.targetOutOfRange vertex target host.order)
  /-- This is the least pair, row by row, that lacks edges. -/
  | shortfall {u v x y : Nat} (sources : mapping.sources = pattern.order)
      (covers : mapping.Covers pattern.order) (injective : mapping.Injective)
      (within : mapping.Within host.order)
      (tail : mapping.get? u = some x) (head : mapping.get? v = some y)
      (lacks : host.edgeCount x y < pattern.edgeCount u v)
      (least : ∀ u' v' x' y', Prod.Lex (· < ·) (· < ·) (u', v') (u, v) →
        mapping.get? u' = some x' → mapping.get? v' = some y' →
        pattern.edgeCount u' v' ≤ host.edgeCount x' y') :
    FirstEmbeddingViolation pattern host mapping
      (.shortfall u v x y (pattern.edgeCount u v) (host.edgeCount x y))

variable {pattern host : Graph} {mapping : Mapping}

/-- The order of assignments by their sources is strict. -/
instance asymm_sources : Std.Asymm fun earlier later : Nat × Nat => earlier.1 < later.1 :=
  ⟨fun _ _ => Nat.lt_asymm⟩

/-- The vertex that is reported as unmapped is the least one without a target. -/
theorem firstUnmapped?_eq_some_iff {order vertex : Nat} :
    firstUnmapped? order mapping = some vertex ↔
      vertex < order ∧ mapping.get? vertex = none ∧ mapping.Covers vertex := by
  rw [firstUnmapped?, List.find?_range_eq_some, List.mem_range, Option.isNone_iff_eq_none,
    and_left_comm]
  simp only [Mapping.Covers, Bool.not_eq_true', Option.isNone_eq_false_iff,
    Option.isSome_iff_exists]

/-- The target that is reported as outside is that of the least vertex with such a target. -/
theorem firstOutside?_eq_some_iff {vertex target : Nat} :
    firstOutside? host mapping = some (vertex, target) ↔
      mapping.get? vertex = some target ∧ host.order ≤ target ∧
        ∀ u < vertex, ∀ x, mapping.get? u = some x → x < host.order := by
  rw [firstOutside?, find?_eq_some_iff_least mapping.assignments_ascending,
    Mapping.mem_assignments]
  simp only [Prod.forall, Mapping.mem_assignments, decide_eq_true_eq, decide_eq_false_iff_not,
    Nat.not_le]
  exact and_congr_right fun _ => and_congr_right fun _ =>
    ⟨fun least u before x entry => least u x entry before,
      fun least u x entry before => least u before x entry⟩

/-- The pair that is reported as lacking edges is the least such pair, row by row. -/
theorem firstShortfall?_eq_some_iff {u v x y : Nat} :
    firstShortfall? pattern host mapping = some ((u, x), (v, y)) ↔
      mapping.get? u = some x ∧ mapping.get? v = some y ∧
        host.edgeCount x y < pattern.edgeCount u v ∧
        ∀ u' v' x' y', Prod.Lex (· < ·) (· < ·) (u', v') (u, v) →
          mapping.get? u' = some x' → mapping.get? v' = some y' →
          pattern.edgeCount u' v' ≤ host.edgeCount x' y' := by
  have pairs {u v x y : Nat} : ((u, x), (v, y)) ∈ (mapping.assignments.flatMap fun first =>
      mapping.assignments.map fun second => (first, second)) ↔
      mapping.get? u = some x ∧ mapping.get? v = some y := by
    simp only [List.mem_flatMap, List.mem_map, Prod.mk.injEq, exists_eq_right_right,
      Mapping.mem_assignments]
  rw [firstShortfall?, find?_eq_some_iff_least
    (pairwise_lex_pairs mapping.assignments_ascending mapping.assignments_ascending), pairs,
    and_assoc]
  simp only [Prod.forall, pairs, decide_eq_true_eq, decide_eq_false_iff_not, UInt32.not_lt,
    Prod.lex_def, Prod.mk.injEq]
  refine and_congr_right fun atU => and_congr_right fun atV => and_congr_right fun _ => ?_
  constructor
  · intro least u' v' x' y' before atU' atV'
    refine least u' x' v' y' ⟨atU', atV'⟩ ?_
    rcases before with less | ⟨same, less⟩
    · exact .inl less
    · subst same
      exact .inr ⟨⟨rfl, Option.some.inj (atU'.symm.trans atU)⟩, less⟩
  · intro least u' x' v' y' listed before
    refine least u' v' x' y' ?_ listed.1 listed.2
    rcases before with less | ⟨same, less⟩
    · exact .inl less
    · exact .inr ⟨same.1, less⟩

/-- A violation that is reported is the first one. -/
theorem FirstEmbeddingViolation.of_reported {violation : EmbeddingViolation}
    (refused : checkEmbedding pattern host mapping = .error violation) :
    FirstEmbeddingViolation pattern host mapping violation := by
  rw [checkEmbedding] at refused
  split at refused
  · next differs =>
    obtain rfl := Except.error.inj refused
    exact .sourceCount differs
  · next sources =>
    have sources := not_not.mp sources
    split at refused
    · next vertex unmapped =>
      obtain rfl := Except.error.inj refused
      obtain ⟨inside, free, least⟩ := firstUnmapped?_eq_some_iff.mp unmapped
      exact .incomplete sources inside free least
    · next covered =>
      have covers := firstUnmapped?_eq_none_iff.mp covered
      split at refused
      · next shared collides =>
        obtain rfl := Except.error.inj refused
        exact .notInjective sources covers (Mapping.firstCollision?_eq_some_iff.mp collides)
      · next distinct =>
        have injective := Mapping.firstCollision?_eq_none_iff.mp distinct
        split at refused
        · next vertex target outside =>
          obtain rfl := Except.error.inj refused
          obtain ⟨entry, beyond, least⟩ := firstOutside?_eq_some_iff.mp outside
          exact .targetOutOfRange sources covers injective entry beyond least
        · next inside =>
          have within := firstOutside?_eq_none_iff.mp inside
          split at refused
          · next u x v y short =>
            obtain rfl := Except.error.inj refused
            obtain ⟨tail, head, lacks, least⟩ := firstShortfall?_eq_some_iff.mp short
            exact .shortfall sources covers injective within tail head lacks least
          · contradiction

/-- The first violation is reported. -/
theorem FirstEmbeddingViolation.reported {violation : EmbeddingViolation}
    (first : FirstEmbeddingViolation pattern host mapping violation) :
    checkEmbedding pattern host mapping = .error violation := by
  cases first with
  | sourceCount differs => rw [checkEmbedding, if_pos differs]
  | incomplete sources inside unmapped least =>
    rw [checkEmbedding, if_neg (not_not.mpr sources),
      firstUnmapped?_eq_some_iff.mpr ⟨inside, unmapped, least⟩]
  | notInjective sources covers first =>
    rw [checkEmbedding, if_neg (not_not.mpr sources), firstUnmapped?_eq_none_iff.mpr covers,
      Mapping.firstCollision?_eq_some_iff.mpr first]
  | targetOutOfRange sources covers injective entry outside least =>
    rw [checkEmbedding, if_neg (not_not.mpr sources), firstUnmapped?_eq_none_iff.mpr covers,
      Mapping.firstCollision?_eq_none_iff.mpr injective,
      firstOutside?_eq_some_iff.mpr ⟨entry, outside, least⟩]
  | shortfall sources covers injective within tail head lacks least =>
    rw [checkEmbedding, if_neg (not_not.mpr sources), firstUnmapped?_eq_none_iff.mpr covers,
      Mapping.firstCollision?_eq_none_iff.mpr injective,
      firstOutside?_eq_none_iff.mpr within,
      firstShortfall?_eq_some_iff.mpr ⟨tail, head, lacks, least⟩]

/-- A mapping is accepted exactly when it embeds the pattern, and it is refused with a violation
exactly when that one is the first: the number of sources, the least vertex without a target, the
collision with the least second vertex, the least vertex with a target outside the host, and last
the least pair, row by row, that lacks edges. -/
theorem checkEmbedding_exact (pattern host : Graph) (mapping : Mapping) :
    (checkEmbedding pattern host mapping = .ok () ↔ Embeds pattern host mapping) ∧
    ∀ violation, checkEmbedding pattern host mapping = .error violation ↔
      FirstEmbeddingViolation pattern host mapping violation :=
  ⟨checkEmbedding_eq_ok_iff, fun _ => ⟨.of_reported, FirstEmbeddingViolation.reported⟩⟩

-- A vertex without a target is reported before a shared target and one outside the host.
example : checkEmbedding (.empty 3) (.empty 1) ⟨[some 4, none, some 4]⟩ =
    .error (.incomplete 1) := by decide

end CopyOracle
