import CopyOracle.Proofs.Mapping
import Mathlib.Data.Finset.Card
import Mathlib.Data.Finset.Range
import Mathlib.Data.List.Induction
/-!
# Collisions and injections

The collision that a mapping reports is the one with the least second source: before that source all
targets are different, so exactly one earlier source has its target.

A mapping is an injection when no collision is found, and equally when it uses as many vertices as
it has assigned sources; neither asks that every source has a target. A mapping is built by
assigning one source after the other, and a source may be assigned again, so nothing is known of
its targets while it is built: after any assignments a source has the target of the last one that
names it, and what is no source changes nothing.
-/

namespace CopyOracle

namespace Mapping

variable {mapping : Mapping} {shared other : Collision} {source : Nat}

/-- The second source is the least one whose target an earlier source has. -/
structure FirstCollision (mapping : Mapping) (shared : Collision) : Prop where
  /-- The first source comes before the second. -/
  before : shared.first < shared.second
  /-- The first source has the shared target. -/
  first : mapping.get? shared.first = some shared.target
  /-- The second source has the shared target. -/
  second : mapping.get? shared.second = some shared.target
  /-- No other source before the second one has the shared target. -/
  only : ∀ u < shared.second, mapping.get? u = some shared.target → u = shared.first
  /-- No source before the second one has the target of an earlier source. -/
  least : ∀ v < shared.second, ∀ u < v, ∀ x, mapping.get? u = some x → mapping.get? v ≠ some x

/-- There is one first collision at most. -/
theorem FirstCollision.unique (here : mapping.FirstCollision shared)
    (there : mapping.FirstCollision other) : shared = other := by
  obtain ⟨first, second, target⟩ := shared
  obtain ⟨first', second', target'⟩ := other
  have seconds : second = second' := by
    rcases Nat.lt_trichotomy second second' with less | same | greater
    · exact absurd here.second (there.least second less first here.before target here.first)
    · exact same
    · exact absurd there.second (here.least second' greater first' there.before target' there.first)
  obtain rfl := seconds
  obtain rfl := Option.some.inj (here.second.symm.trans there.second)
  obtain rfl := there.only first here.before here.first
  rfl

/-- The assignments before a reported one have different targets, and its target is that of one of
them or of one already seen. -/
theorem collisionAfter_eq_some {seen rest : List (Nat × Nat)}
    (found : collisionAfter seen rest = some shared) : ∃ front back,
      rest = front ++ (shared.second, shared.target) :: back ∧
      ((shared.first, shared.target) ∈ seen ∨ (shared.first, shared.target) ∈ front) ∧
      collisionAfter seen front = none := by
  induction rest generalizing seen with
  | nil => contradiction
  | cons pair rest ih =>
    obtain ⟨source, target⟩ := pair
    rw [collisionAfter] at found
    split at found
    · next first repeated search =>
      obtain rfl := Option.some.inj found
      have matched : repeated = target := by simpa using List.find?_some search
      have member := List.mem_of_find?_eq_some search
      exact ⟨[], rest, rfl, .inl (matched ▸ member), rfl⟩
    · next fresh =>
      obtain ⟨front, back, rfl, earlier, clean⟩ := ih found
      refine ⟨(source, target) :: front, back, rfl, ?_, ?_⟩
      · rcases earlier with inSeen | inFront
        · rcases List.mem_cons.mp inSeen with same | inSeen
          · exact .inr (same ▸ List.mem_cons_self)
          · exact .inl inSeen
        · exact .inr (List.mem_cons_of_mem _ inFront)
      · rw [collisionAfter, fresh]
        exact clean

/-- A reported collision is the first one. -/
theorem firstCollision_of_eq_some (found : mapping.firstCollision? = some shared) :
    mapping.FirstCollision shared := by
  obtain ⟨front, back, split, seen, clean⟩ := collisionAfter_eq_some found
  have inFront : (shared.first, shared.target) ∈ front := seen.resolve_left List.not_mem_nil
  have distinct : (front.map Prod.snd).Nodup := ((collisionAfter_eq_none_iff [] front).mp clean).1
  have ordered := mapping.assignments_ascending
  rw [split] at ordered
  obtain ⟨_, later, across⟩ := List.pairwise_append.mp ordered
  have listed {u x : Nat} (entry : (u, x) ∈ front ++ (shared.second, shared.target) :: back) :
      mapping.get? u = some x := mem_assignments.mp (split ▸ entry)
  -- Exactly the assignments of sources before the second one stand in front of it.
  have earlier {u x : Nat} (entry : mapping.get? u = some x) (before : u < shared.second) :
      (u, x) ∈ front := by
    have member := mem_assignments.mpr entry
    rw [split] at member
    rcases List.mem_append.mp member with inFront | inBack
    · exact inFront
    · rcases List.mem_cons.mp inBack with same | inBack
      · obtain ⟨rfl, rfl⟩ := Prod.mk.inj same
        exact absurd before (Nat.lt_irrefl _)
      · have after := (List.pairwise_cons.mp later).1 (u, x) inBack
        exact absurd after (Nat.lt_asymm before)
  have apart {u v x : Nat} (atU : mapping.get? u = some x) (atV : mapping.get? v = some x)
      (beforeU : u < shared.second) (beforeV : v < shared.second) : u = v :=
    congrArg Prod.fst
      (List.inj_on_of_nodup_map distinct (earlier atU beforeU) (earlier atV beforeV) rfl)
  have before : shared.first < shared.second := across _ inFront _ List.mem_cons_self
  have first := listed (List.mem_append_left _ inFront)
  refine ⟨before, first, listed (List.mem_append_right _ List.mem_cons_self), ?_, ?_⟩
  · intro u bound entry
    exact apart entry first bound before
  · intro v bound u less x atU atV
    exact Nat.ne_of_lt less (apart atU atV (Nat.lt_trans less bound) bound)

/-- The collision that is reported is exactly the first one. -/
theorem firstCollision?_eq_some_iff :
    mapping.firstCollision? = some shared ↔ mapping.FirstCollision shared := by
  refine ⟨firstCollision_of_eq_some, fun first => ?_⟩
  cases found : mapping.firstCollision? with
  | none =>
    have same := firstCollision?_eq_none_iff.mp found _ _ _ first.first first.second
    exact absurd same (Nat.ne_of_lt first.before)
  | some reported => rw [(firstCollision_of_eq_some found).unique first]

/-- The mapping after a source is assigned, or as it was if that is no source. -/
def assign (mapping : Mapping) (source target : Nat) : Mapping :=
  (mapping.set? source target).getD mapping

/-- The mapping after sources are assigned one after the other. -/
def assignAll (mapping : Mapping) (pairs : List (Nat × Nat)) : Mapping :=
  pairs.foldl (fun made pair => made.assign pair.1 pair.2) mapping

/-- The sources that have a target. -/
def assigned (mapping : Mapping) : Finset Nat :=
  (Finset.range mapping.sources).filter fun u => (mapping.get? u).isSome

/-- A source is among the assigned ones when it has a target. -/
theorem mem_assigned {u : Nat} : u ∈ mapping.assigned ↔ ∃ x, mapping.get? u = some x := by
  rw [assigned, Finset.mem_filter, Finset.mem_range, Option.isSome_iff_exists]
  exact and_iff_right_of_imp fun ⟨_, entry⟩ => lt_sources_of_get? entry

/-- What is no source is refused. -/
theorem set?_eq_none (outside : mapping.sources ≤ source) (target : Nat) :
    mapping.set? source target = none :=
  if_neg (Nat.not_lt.mpr outside)

/-- A source is assigned. -/
theorem set?_eq_some_assign (inside : source < mapping.sources) (target : Nat) :
    mapping.set? source target = some (mapping.assign source target) := by
  rw [assign, set?, if_pos inside, Option.getD_some]

/-- What is no source leaves the mapping as it is. -/
theorem assign_eq_self (outside : mapping.sources ≤ source) (target : Nat) :
    mapping.assign source target = mapping := by
  rw [assign, set?_eq_none outside, Option.getD_none]

/-- Assigning keeps the sources. -/
theorem sources_assign (mapping : Mapping) (source target : Nat) :
    (mapping.assign source target).sources = mapping.sources := by
  rcases Nat.lt_or_ge source mapping.sources with inside | outside
  · exact (of_set?_eq_some (set?_eq_some_assign inside target)).2.1
  · rw [assign_eq_self outside]

/-- Assigning one source after the other keeps the sources. -/
theorem sources_assignAll (mapping : Mapping) (pairs : List (Nat × Nat)) :
    (mapping.assignAll pairs).sources = mapping.sources := by
  induction pairs generalizing mapping with
  | nil => rfl
  | cons pair pairs ih => exact (ih _).trans (sources_assign _ _ _)

/-- A source has the target of the last assignment that names it, or else the one it had. -/
theorem get?_assignAll (pairs : List (Nat × Nat)) (inside : source < mapping.sources) :
    (mapping.assignAll pairs).get? source =
      (pairs.reverse.lookup source).or (mapping.get? source) := by
  induction pairs using List.reverseRecOn with
  | nil => rfl
  | append_singleton pairs last ih =>
    obtain ⟨named, target⟩ := last
    have step : mapping.assignAll (pairs ++ [(named, target)]) =
        (mapping.assignAll pairs).assign named target := List.foldl_append
    rw [step, List.reverse_concat, List.lookup_cons]
    -- The last pair is found first, and it is the one that decides if it names a source at all.
    rcases Nat.lt_or_ge named mapping.sources with known | unknown
    · have set := set?_eq_some_assign ((sources_assignAll mapping pairs).symm ▸ known) target
      rw [(of_set?_eq_some set).2.2]
      by_cases same : source = named
      · simp [same]
      · rw [if_neg same, ih, beq_false_of_ne same]
    · have other : source ≠ named := Nat.ne_of_lt (Nat.lt_of_lt_of_le inside unknown)
      rw [assign_eq_self (by rwa [sources_assignAll]), ih, beq_false_of_ne other]

/-- As many vertices are used as sources are assigned exactly when no two of them share a target. -/
theorem length_image_eq_card_assigned_iff :
    mapping.image.length = mapping.assigned.card ↔
      ∀ u v x, mapping.get? u = some x → mapping.get? v = some x → u = v := by
  have distinct : mapping.image.Nodup := mapping.image_ascending.imp Nat.ne_of_lt
  -- The image is that of the assigned sources, so its size is theirs exactly when the targets of
  -- different sources are different.
  have targets : mapping.image.toFinset.image some = mapping.assigned.image mapping.get? := by
    ext target
    simp only [Finset.mem_image, List.mem_toFinset, mem_image, mem_vertexSet, mem_assigned]
    constructor
    · rintro ⟨x, ⟨u, entry⟩, rfl⟩
      exact ⟨u, ⟨x, entry⟩, entry⟩
    · rintro ⟨u, ⟨x, entry⟩, rfl⟩
      exact ⟨x, ⟨u, entry⟩, entry.symm⟩
  have counted : mapping.image.length = (mapping.assigned.image mapping.get?).card := by
    rw [← targets, Finset.card_image_of_injective _ (Option.some_injective _),
      List.toFinset_card_of_nodup distinct]
  rw [counted, Finset.card_image_iff]
  constructor
  · intro injective u v x atU atV
    exact injective (mem_assigned.mpr ⟨x, atU⟩) (mem_assigned.mpr ⟨x, atV⟩) (atU.trans atV.symm)
  · intro apart u member v _ same
    obtain ⟨x, atU⟩ := mem_assigned.mp member
    exact apart u v x atU (same ▸ atU)

/-- A collision is found exactly when two sources share a target. -/
theorem isSome_firstCollision?_iff : mapping.firstCollision?.isSome = true ↔
    ∃ u v x, u ≠ v ∧ mapping.get? u = some x ∧ mapping.get? v = some x := by
  rw [← Option.ne_none_iff_isSome, ne_eq, firstCollision?_eq_none_iff]
  constructor
  · intro shared
    by_contra apart
    exact shared fun u v x atU atV => by_contra fun differ => apart ⟨u, v, x, differ, atU, atV⟩
  · rintro ⟨u, v, x, differ, atU, atV⟩ apart
    exact differ (apart u v x atU atV)

/-- What is said of whether a mapping is an injection. -/
structure Injectivity (mapping : Mapping) : Prop where
  /-- A collision is found exactly when two sources share a target. -/
  shared : mapping.firstCollision?.isSome = true ↔
    ∃ u v x, u ≠ v ∧ mapping.get? u = some x ∧ mapping.get? v = some x
  /-- The collision that is found is the first one. -/
  first : ∀ collision, mapping.firstCollision? = some collision → mapping.FirstCollision collision
  /-- The mapping is an injection exactly when it uses as many vertices as sources are assigned. -/
  counted : mapping.isInjection = true ↔ mapping.image.length = mapping.assigned.card

/-- What an assignment does to a mapping. -/
structure Assignment (mapping : Mapping) (source target : Nat) : Prop where
  /-- What is no source is refused, and the mapping stays as it is. -/
  outside : mapping.sources ≤ source →
    mapping.set? source target = none ∧ mapping.assign source target = mapping
  /-- A source gets the target, and nothing else changes. -/
  inside : source < mapping.sources →
    mapping.set? source target = some (mapping.assign source target) ∧
    (mapping.assign source target).sources = mapping.sources ∧
    ∀ u, (mapping.assign source target).get? u =
      if u = source then some target else mapping.get? u

/-- Whatever mapping one starts from and whatever is assigned, the last assignments are kept, and
all that is said of injectivity is said of the same thing. -/
theorem injectivity_of_assignments (start : Mapping) (pairs : List (Nat × Nat)) :
    (start.assignAll pairs).sources = start.sources ∧
    (∀ u < start.sources,
      (start.assignAll pairs).get? u = (pairs.reverse.lookup u).or (start.get? u)) ∧
    (start.assignAll pairs).Injectivity ∧
    ∀ source target, (start.assignAll pairs).Assignment source target := by
  refine ⟨sources_assignAll start pairs, fun u inside => get?_assignAll pairs inside, ?_, ?_⟩
  · refine ⟨isSome_firstCollision?_iff, fun _ => firstCollision_of_eq_some, ?_⟩
    rw [isInjection, Option.isNone_iff_eq_none, firstCollision?_eq_none_iff,
      length_image_eq_card_assigned_iff]
  · intro source target
    refine ⟨fun outside => ⟨set?_eq_none outside target, assign_eq_self outside target⟩, ?_⟩
    intro inside
    have set := set?_eq_some_assign inside target
    exact ⟨set, (of_set?_eq_some set).2⟩

/-- A partial mapping with a source assigned twice and one that is no source. -/
theorem injectivity_of_assignments_again :
    let start := unassigned 4
    let pairs := [(2, 5), (0, 3), (1, 1), (7, 1), (2, 3)]
    let reached := start.assignAll pairs
    reached = ⟨[some 3, some 1, some 3, none]⟩ ∧
      reached.firstCollision? = some ⟨0, 2, 3⟩ ∧ reached.FirstCollision ⟨0, 2, 3⟩ ∧
      reached.isInjection = false ∧ reached.image.length ≠ reached.assigned.card ∧
      (2 < start.sources ∧ reached.get? 2 = some 3) ∧
      (reached.sources ≤ 7 ∧ reached.set? 7 1 = none) ∧
      (3 < reached.sources ∧ (reached.assign 3 4).get? 3 = some 4) := by
  intro start pairs reached
  obtain ⟨_, kept, injectivity, assignment⟩ := injectivity_of_assignments start pairs
  have found : reached.firstCollision? = some ⟨0, 2, 3⟩ := by decide
  have shared : reached.isInjection = false := by decide
  refine ⟨by decide, found, injectivity.first _ found, shared, fun same => ?_,
    ⟨by decide, kept 2 (by decide)⟩, ⟨by decide, ((assignment 7 1).outside (by decide)).1⟩,
    ⟨by decide, ((assignment 3 4).inside (by decide)).2.2 3⟩⟩
  have injective := injectivity.counted.mpr same
  rw [shared] at injective
  contradiction

end Mapping

end CopyOracle
