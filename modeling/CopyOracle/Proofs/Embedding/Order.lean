import CopyOracle.Proofs.Embedding
import Mathlib.Data.List.Perm.Basic
/-!
# The first violation of the canonical order

`Mapping.Precedes` says when a tuple comes before another one, without the comparison that runs:
the first entries that differ decide, or else the shorter tuple is a beginning of the longer one.
A list that is refused is refused for its least pair of neighbours that do not ascend. As the order
is strict and total, a list whose neighbours ascend has no mapping twice, and of the arrangements
of different mappings exactly one is accepted.
-/

namespace CopyOracle

namespace Mapping

/-- An entry of a tuple comes before another one. -/
inductive EntryPrecedes : Option Nat → Option Nat → Prop
  /-- An unassigned entry comes before every assigned one. -/
  | unassigned (target : Nat) : EntryPrecedes none (some target)
  /-- A smaller target comes before a greater one. -/
  | smaller {target other : Nat} (less : target < other) : EntryPrecedes (some target) (some other)

/-- A mapping comes before another one in the lexicographic order of their tuples. -/
inductive Precedes : Mapping → Mapping → Prop
  /-- A tuple comes before every longer one that it begins. -/
  | beginning (common : List (Option Nat)) (entry : Option Nat) (rest : List (Option Nat)) :
    Precedes ⟨common⟩ ⟨common ++ entry :: rest⟩
  /-- Behind a common beginning the first entries that differ decide. -/
  | entry (common : List (Option Nat)) {first second : Option Nat}
    (before : EntryPrecedes first second) (rest other : List (Option Nat)) :
    Precedes ⟨common ++ first :: rest⟩ ⟨common ++ second :: other⟩

/-- Entries are ordered as their comparison says. -/
theorem entryPrecedes_iff_lt {first second : Option Nat} :
    EntryPrecedes first second ↔ first < second := by
  constructor
  · rintro (target | less)
    · exact Option.none_lt_some
    · exact Option.some_lt_some.mpr less
  · intro less
    rcases first with _ | target <;> rcases second with _ | other
    · exact absurd less Option.not_lt_none
    · exact .unassigned other
    · exact absurd less Option.not_lt_none
    · exact .smaller (Option.some_lt_some.mp less)

/-- A common first entry keeps the order. -/
theorem Precedes.cons {left right : List (Option Nat)} (before : Precedes ⟨left⟩ ⟨right⟩)
    (first : Option Nat) : Precedes ⟨first :: left⟩ ⟨first :: right⟩ := by
  cases before with
  | beginning _ entry rest => exact .beginning (first :: left) entry rest
  | entry common before rest other => exact .entry (first :: common) before rest other

/-- Tuples are ordered as their comparison says. -/
theorem precedes_iff_lt {left right : Mapping} :
    left.Precedes right ↔ left.targets < right.targets := by
  constructor
  · rintro (⟨common, entry, rest⟩ | ⟨common, before, rest, other⟩)
    · have longer : common ++ [] < common ++ entry :: rest :=
        List.append_left_lt (List.nil_lt_cons entry rest)
      rwa [List.append_nil] at longer
    · exact List.append_left_lt
        (List.cons_lt_cons_iff.mpr (.inl (entryPrecedes_iff_lt.mp before)))
  · obtain ⟨left⟩ := left
    obtain ⟨right⟩ := right
    intro (less : left < right)
    induction left generalizing right with
    | nil =>
      cases right with
      | nil => exact absurd less (List.not_lt_nil [])
      | cons entry rest => exact .beginning [] entry rest
    | cons first left ih =>
      cases right with
      | nil => exact absurd less (List.not_lt_nil _)
      | cons second right =>
        rcases List.cons_lt_cons_iff.mp less with differs | ⟨rfl, later⟩
        · exact .entry [] (entryPrecedes_iff_lt.mpr differs) left right
        · exact (ih right later).cons first

/-- Of two different mappings one comes before the other. -/
theorem precedes_or_precedes {left right : Mapping} (differ : left ≠ right) :
    left.Precedes right ∨ right.Precedes left := by
  rw [precedes_iff_lt, precedes_iff_lt, ← compare_targets_eq_lt_iff, ← compare_targets_eq_lt_iff,
    Std.OrientedOrd.eq_swap (a := right.targets)]
  cases order : compare left.targets right.targets with
  | lt => exact .inl rfl
  | eq => exact absurd (congrArg Mapping.mk (Std.LawfulEqOrd.eq_of_compare order)) differ
  | gt => exact .inr rfl

end Mapping

/-- Two neighbours that do not ascend stand at a place and the next one, and all neighbours before
them ascend. -/
structure FirstDescent (mappings : List Mapping) (place : Nat) (first second : Mapping) :
    Prop where
  /-- The earlier of the two. -/
  earlier : mappings[place]? = some first
  /-- The later of the two. -/
  later : mappings[place + 1]? = some second
  /-- They are out of order or equal. -/
  descends : ¬first.Precedes second
  /-- All neighbours before them ascend. -/
  least : ∀ other < place, ∀ left right, mappings[other]? = some left →
    mappings[other + 1]? = some right → left.Precedes right

variable {mappings : List Mapping} {first second head next : Mapping} {place : Nat}

/-- Neighbours at the front that do not ascend are the first ones. -/
theorem firstDescent_front {rest : List Mapping} :
    FirstDescent (head :: next :: rest) 0 first second ↔
      head = first ∧ next = second ∧ ¬head.Precedes next := by
  constructor
  · rintro ⟨earlier, later, descends, _⟩
    obtain rfl := Option.some.inj earlier
    obtain rfl := Option.some.inj later
    exact ⟨rfl, rfl, descends⟩
  · rintro ⟨rfl, rfl, descends⟩
    exact ⟨rfl, rfl, descends, fun _ before => absurd before (Nat.not_lt_zero _)⟩

/-- Behind the front the first neighbours that do not ascend are those of the rest, provided the
front ascends. -/
theorem firstDescent_succ {rest : List Mapping} :
    FirstDescent (head :: next :: rest) (place + 1) first second ↔
      head.Precedes next ∧ FirstDescent (next :: rest) place first second := by
  constructor
  · rintro ⟨earlier, later, descends, least⟩
    refine ⟨least 0 (Nat.succ_pos _) head next rfl rfl, earlier, later, descends, ?_⟩
    exact fun other before => least (other + 1) (Nat.succ_lt_succ before)
  · rintro ⟨ascends, earlier, later, descends, least⟩
    refine ⟨earlier, later, descends, fun other before left right atLeft atRight => ?_⟩
    cases other with
    | zero =>
      obtain rfl := Option.some.inj atLeft
      obtain rfl := Option.some.inj atRight
      exact ascends
    | succ other => exact least other (Nat.lt_of_succ_lt_succ before) left right atLeft atRight

/-- The search for a descent finds the first one, the list being numbered from `number`. -/
theorem firstDescent?_eq_some_iff {number : Nat} {violation : OrderViolation} :
    firstDescent? number mappings = some violation ↔
      ∃ place, FirstDescent mappings place violation.earlierCopy violation.laterCopy ∧
        violation.earlier = number + place := by
  induction mappings generalizing number with
  | nil =>
    simp only [firstDescent?, reduceCtorEq, false_iff]
    rintro ⟨place, found, _⟩
    exact absurd found.later (by simp)
  | cons head rest ih =>
    cases rest with
    | nil =>
      simp only [firstDescent?, reduceCtorEq, false_iff]
      rintro ⟨place, found, _⟩
      exact absurd found.later (by simp)
    | cons next rest =>
      have order : (compare head next).isLT = true ↔ head.Precedes next :=
        Mapping.compare_isLT_iff.trans Mapping.precedes_iff_lt.symm
      rw [firstDescent?]
      split
      · next ascends =>
        rw [ih]
        constructor
        · rintro ⟨place, found, numbered⟩
          exact ⟨place + 1, firstDescent_succ.mpr ⟨order.mp ascends, found⟩, by omega⟩
        · rintro ⟨place, found, numbered⟩
          cases place with
          | zero => exact absurd (order.mp ascends) (firstDescent_front.mp found).2.2
          | succ place => exact ⟨place, (firstDescent_succ.mp found).2, by omega⟩
      · next descends =>
        rw [order] at descends
        constructor
        · intro found
          obtain rfl := Option.some.inj found
          exact ⟨0, firstDescent_front.mpr ⟨rfl, rfl, descends⟩, rfl⟩
        · rintro ⟨place, found, numbered⟩
          cases place with
          | zero =>
            obtain ⟨first, second, _⟩ := firstDescent_front.mp found
            rw [first, second]
            exact congrArg some (congrArg (OrderViolation.mk · _ _) numbered.symm)
          | succ place => exact absurd (firstDescent_succ.mp found).1 descends

/-- A list is accepted exactly when each of its mappings comes before all later ones. -/
theorem checkOrder_eq_ok_iff_precedes :
    checkOrder mappings = .ok () ↔ mappings.Pairwise Mapping.Precedes :=
  checkOrder_eq_ok_iff.trans (List.Pairwise.iff fun _ _ => Mapping.precedes_iff_lt.symm)

/-- A list is refused for its first descent. -/
theorem checkOrder_eq_error_iff {violation : OrderViolation} :
    checkOrder mappings = .error violation ↔
      ∃ place, FirstDescent mappings place violation.earlierCopy violation.laterCopy ∧
        violation.earlier = place + 1 := by
  have found : checkOrder mappings = .error violation ↔
      firstDescent? 1 mappings = some violation := by
    rw [checkOrder]
    cases firstDescent? 1 mappings <;> simp
  simp only [found, firstDescent?_eq_some_iff, Nat.add_comm 1]

/-- Ascending mappings are different. -/
theorem nodup_of_precedes (ascending : mappings.Pairwise Mapping.Precedes) : mappings.Nodup := by
  refine ascending.imp fun {left right} before same => ?_
  rw [Mapping.precedes_iff_lt, same] at before
  exact right.targets_lt_irrefl before

/-- Different mappings have an ascending arrangement. -/
theorem exists_ascending_perm (distinct : mappings.Nodup) :
    ∃ listing : List Mapping, listing.Perm mappings ∧ listing.Pairwise Mapping.Precedes := by
  let below (left right : Mapping) : Bool := (compare left.targets right.targets).isLE
  have total (left right : Mapping) : (below left right || below right left) = true := by
    simp only [below, Std.OrientedOrd.eq_swap (a := right.targets)]
    cases compare left.targets right.targets <;> rfl
  have transitive (left middle right : Mapping) (first : below left middle = true)
      (second : below middle right = true) : below left right = true :=
    Std.TransOrd.isLE_trans first second
  have sorted := List.pairwise_mergeSort transitive total mappings
  have perm := List.mergeSort_perm mappings below
  refine ⟨_, perm, (sorted.and (perm.nodup_iff.mpr distinct)).imp ?_⟩
  rintro left right ⟨atMost, differ⟩
  refine (Mapping.precedes_or_precedes differ).resolve_right fun after => ?_
  rw [Mapping.precedes_iff_lt, ← Mapping.compare_targets_eq_lt_iff] at after
  simp [below, Std.OrientedOrd.eq_swap (a := left.targets), after] at atMost

/-- Two ascending arrangements of the same mappings are one. -/
theorem eq_of_precedes {left right : List Mapping} (perm : left.Perm right)
    (first : left.Pairwise Mapping.Precedes) (second : right.Pairwise Mapping.Precedes) :
    left = right := by
  refine perm.eq_of_pairwise (fun copy other _ _ before after => ?_) first second
  rw [Mapping.precedes_iff_lt] at before after
  exact absurd (Mapping.targets_lt_trans before after) copy.targets_lt_irrefl

/-- Neighbours decide about the whole list: it is accepted exactly when each of its mappings comes
before all later ones, and is refused for its least pair of neighbours that do not ascend. An
accepted list has no mapping twice, and of the arrangements of different mappings exactly one is
accepted. -/
theorem checkOrder_exact (mappings : List Mapping) :
    (checkOrder mappings = .ok () ↔ mappings.Pairwise Mapping.Precedes) ∧
    (∀ violation : OrderViolation, checkOrder mappings = .error violation ↔
      ∃ place, FirstDescent mappings place violation.earlierCopy violation.laterCopy ∧
        violation.earlier = place + 1 ∧ violation.later = place + 2) ∧
    (checkOrder mappings = .ok () → mappings.Nodup) ∧
    (mappings.Nodup →
      ∃! listing : List Mapping, listing.Perm mappings ∧ checkOrder listing = .ok ()) := by
  refine ⟨checkOrder_eq_ok_iff_precedes, fun violation => ?_,
    fun accepted => nodup_of_precedes (checkOrder_eq_ok_iff_precedes.mp accepted),
    fun distinct => ?_⟩
  · rw [checkOrder_eq_error_iff]
    refine exists_congr fun place => and_congr_right fun _ => ?_
    rw [OrderViolation.later]
    omega
  · obtain ⟨listing, perm, ascending⟩ := exists_ascending_perm distinct
    refine ⟨listing, ⟨perm, checkOrder_eq_ok_iff_precedes.mpr ascending⟩, ?_⟩
    rintro other ⟨arranged, accepted⟩
    exact eq_of_precedes (arranged.trans perm.symm)
      (checkOrder_eq_ok_iff_precedes.mp accepted) ascending

/-- Three mappings, one of which is a beginning of another, are refused for their second pair, and
one arrangement of them is accepted. -/
theorem checkOrder_exact_three :
    List.Nodup [⟨[none, some 0]⟩, ⟨[some 1]⟩, (⟨[none]⟩ : Mapping)] ∧
    FirstDescent [⟨[none, some 0]⟩, ⟨[some 1]⟩, ⟨[none]⟩] 1 ⟨[some 1]⟩ ⟨[none]⟩ ∧
    checkOrder [⟨[none]⟩, ⟨[none, some 0]⟩, ⟨[some 1]⟩] = .ok () ∧
    ∃! listing : List Mapping, listing.Perm [⟨[none, some 0]⟩, ⟨[some 1]⟩, ⟨[none]⟩] ∧
      checkOrder listing = .ok () := by
  have distinct : List.Nodup [⟨[none, some 0]⟩, ⟨[some 1]⟩, (⟨[none]⟩ : Mapping)] := by decide
  have refused : checkOrder [⟨[none, some 0]⟩, ⟨[some 1]⟩, ⟨[none]⟩] =
      .error ⟨2, ⟨[some 1]⟩, ⟨[none]⟩⟩ := by decide
  obtain ⟨place, found, numbered, _⟩ := ((checkOrder_exact _).2.1 _).mp refused
  obtain rfl : place = 1 := Nat.succ.inj numbered.symm
  exact ⟨distinct, found, by decide, (checkOrder_exact _).2.2.2 distinct⟩

end CopyOracle
