import CopyOracle.Proofs.Answer.CopyLine
import CopyOracle.Proofs.Embedding
import CopyOracle.Proofs.Search
import Mathlib
/-!
# Where a copy stands

The copies of a list are placed by their numbers alone. A copy numbered up to the number asked for
stands at its number, a number that is missing below the highest one leaves an unassigned mapping,
and the copies numbered above stand behind in the order of their numbers. So a list that is
accepted as so many copies of a pattern with a vertex has exactly the numbers from one on: a copy
that is missing leaves a gap, and one too many makes the list too long.
-/

namespace CopyOracle

namespace Verbose

section Ascending

variable {listed : List (Nat × Mapping)} {number : Nat} {mapping : Mapping}

/-- In an ascending list an entry stands behind as many entries as have a smaller number. -/
theorem getElem?_countP_lt (ascending : listed.Pairwise (·.1 < ·.1)) {copy : Nat × Mapping}
    (member : copy ∈ listed) :
    listed[listed.countP fun other => other.1 < copy.1]? = some copy := by
  induction listed with
  | nil => simp at member
  | cons first rest ih =>
    obtain ⟨below, later⟩ := List.pairwise_cons.mp ascending
    rcases List.mem_cons.mp member with rfl | member
    · have smallest : ((copy :: rest).countP fun other => other.1 < copy.1) = 0 := by
        rw [List.countP_eq_zero]
        intro other listed
        rcases List.mem_cons.mp listed with rfl | listed
        · simp
        · simpa using Nat.le_of_lt (below other listed)
      rw [smallest, List.getElem?_cons_zero]
    · rw [List.countP_cons_of_pos (by simpa using below copy member), List.getElem?_cons_succ]
      exact ih later member

/-- In an ascending list exactly the entries are found. -/
theorem lookup_eq_some_iff_mem (ascending : listed.Pairwise (·.1 < ·.1)) :
    listed.lookup number = some mapping ↔ (number, mapping) ∈ listed := by
  induction listed with
  | nil => simp
  | cons first rest ih =>
    obtain ⟨key, value⟩ := first
    obtain ⟨below, later⟩ := List.pairwise_cons.mp ascending
    rw [lookup_cons_eq, List.mem_cons, Prod.mk.injEq]
    split
    · next same =>
      subst same
      have single : (number, mapping) ∉ rest := fun again =>
        Nat.lt_irrefl number (below (number, mapping) again)
      simp [single, eq_comm]
    · next other => simp [other, ih later]

/-- The numbers of the listed copies. -/
def numbersOf (listed : List (Nat × Mapping)) : Finset Nat := (listed.map Prod.fst).toFinset

/-- A number is listed when a copy has it. -/
theorem mem_numbersOf : number ∈ numbersOf listed ↔ ∃ mapping, (number, mapping) ∈ listed := by
  simp [numbersOf]

/-- The last of ascending numbers is their maximum. -/
theorem highest_eq_sup (ascending : listed.Pairwise (·.1 < ·.1)) :
    (listed.getLast?.map Prod.fst).getD 0 = (numbersOf listed).sup id := by
  rcases List.eq_nil_or_concat listed with rfl | ⟨front, last, rfl⟩
  · rfl
  · rw [List.concat_eq_append] at ascending ⊢
    rw [List.getLast?_concat, Option.map_some, Option.getD_some]
    refine le_antisymm ?_ (Finset.sup_le fun number member => ?_)
    · exact Finset.le_sup (f := id) (mem_numbersOf.mpr ⟨last.2, by simp⟩)
    · obtain ⟨mapping, listed⟩ := mem_numbersOf.mp member
      rcases List.mem_append.mp listed with earlier | ending
      · have below := (List.pairwise_append.mp ascending).2.2 _ earlier last (by simp)
        exact Nat.le_of_lt below
      · exact le_of_eq (congrArg Prod.fst (List.mem_singleton.mp ending))

/-- As many numbers have a property as copies have it. -/
theorem card_filter_numbersOf (ascending : listed.Pairwise (·.1 < ·.1)) (p : Nat → Prop)
    [DecidablePred p] :
    ((numbersOf listed).filter p).card = listed.countP fun copy => p copy.1 := by
  have distinct : (listed.map Prod.fst).Nodup :=
    (List.pairwise_map.mpr ascending).imp Nat.ne_of_lt
  have kept : (numbersOf listed).filter p =
      ((listed.map Prod.fst).filter fun number => p number).toFinset := by
    ext number
    simp [numbersOf]
  rw [kept, List.toFinset_card_of_nodup (distinct.filter _), ← List.countP_eq_length_filter,
    List.countP_map]
  rfl

end Ascending

/-- The place of a copy: one up to the number asked for stands at its number, and one above stands
behind those, in the order of the numbers. -/
def placeOf (copies : Nat) (numbers : Finset Nat) (number : Nat) : Nat :=
  if number ≤ copies then number - 1
  else copies + {other ∈ numbers | copies < other ∧ other < number}.card

section Arrange

variable {sizes : Sizes} {listed : List (Nat × Mapping)}

/-- Arranged copies are those at their numbers and then those above the number asked for. -/
theorem arrange_eq_append (ascending : listed.Pairwise (·.1 < ·.1)) :
    arrange sizes listed =
      ((List.range (min ((numbersOf listed).sup id) sizes.copies)).map fun place =>
        (listed.lookup (place + 1)).getD (.unassigned sizes.pattern)) ++
      (listed.filter fun copy => sizes.copies < copy.1).map Prod.snd := by
  rw [arrange, highest_eq_sup ascending]
  refine congrArg (_ ++ List.map Prod.snd ·) (List.filter_congr fun copy member => ?_)
  have highest : copy.1 ≤ (numbersOf listed).sup id :=
    Finset.le_sup (f := id) (mem_numbersOf.mpr ⟨copy.2, member⟩)
  rw [decide_eq_decide]
  omega

/-- There are as many arranged copies as places up to the number asked for and copies above it. -/
theorem length_arrange (ascending : listed.Pairwise (·.1 < ·.1)) :
    (arrange sizes listed).length = min ((numbersOf listed).sup id) sizes.copies +
      {number ∈ numbersOf listed | sizes.copies < number}.card := by
  rw [arrange_eq_append ascending, List.length_append, List.length_map, List.length_map,
    List.length_range, card_filter_numbersOf ascending, List.countP_eq_length_filter]

/-- At a number up to the one asked for and up to the highest one stands what is found there. -/
theorem getElem?_arrange_lookup (ascending : listed.Pairwise (·.1 < ·.1)) {number : Nat}
    (positive : 0 < number) (placed : number ≤ min ((numbersOf listed).sup id) sizes.copies) :
    (arrange sizes listed)[number - 1]? =
      some ((listed.lookup number).getD (.unassigned sizes.pattern)) := by
  have inside : number - 1 < min ((numbersOf listed).sup id) sizes.copies := by omega
  rw [arrange_eq_append ascending, List.getElem?_append_left (by simpa using inside),
    List.getElem?_map, List.getElem?_range inside, Option.map_some, Nat.sub_add_cancel positive]

/-- A copy stands at its place. -/
theorem getElem?_arrange_placeOf (ascending : listed.Pairwise (·.1 < ·.1)) {copy : Nat × Mapping}
    (member : copy ∈ listed) (positive : 0 < copy.1) :
    (arrange sizes listed)[placeOf sizes.copies (numbersOf listed) copy.1]? = some copy.2 := by
  have highest : copy.1 ≤ (numbersOf listed).sup id :=
    Finset.le_sup (f := id) (mem_numbersOf.mpr ⟨copy.2, member⟩)
  rw [placeOf]
  split
  · next usual =>
    rw [getElem?_arrange_lookup ascending positive (by omega),
      (lookup_eq_some_iff_mem ascending).mpr member, Option.getD_some]
  · next above =>
    have places : min ((numbersOf listed).sup id) sizes.copies = sizes.copies := by omega
    -- Among the copies above the number asked for, it stands behind those with smaller numbers.
    have behind : {other ∈ numbersOf listed | sizes.copies < other ∧ other < copy.1}.card =
        (listed.filter fun other => sizes.copies < other.1).countP
          fun other => other.1 < copy.1 := by
      rw [card_filter_numbersOf ascending, List.countP_filter]
      refine List.countP_congr fun other _ => ?_
      simp [and_comm]
    have kept : copy ∈ listed.filter fun other => sizes.copies < other.1 :=
      List.mem_filter.mpr ⟨member, by simpa using above⟩
    rw [arrange_eq_append ascending, List.getElem?_append_right (by simp [places]),
      List.length_map, List.length_range, places, Nat.add_sub_cancel_left, List.getElem?_map,
      behind, getElem?_countP_lt (ascending.filter _) kept, Option.map_some]

end Arrange

/-- The copies are those that the copy lines hold, each of a number of its own, ascending. -/
structure Collects (order : Nat) (lines : List Line) (listed : List (Nat × Mapping)) : Prop where
  /-- The numbers ascend. -/
  ascending : listed.Pairwise (·.1 < ·.1)
  /-- Each copy line holds a copy, in some order of the copies. -/
  shown : ∃ listing : List (Nat × Mapping), listing.Perm listed ∧
    List.Forall₂ (fun copy (line : Line) => HoldsCopy order copy line.content) listing
      (lines.filter isCopyLine)

/-- The reader lists exactly the copies that the lines hold. -/
theorem foldlM_listCopy_iff_collects {sizes : Sizes} {lines : List Line}
    {listed : List (Nat × Mapping)} :
    lines.foldlM (listCopy sizes) [] = .ok listed ↔ Collects sizes.pattern lines listed := by
  rw [foldlM_listCopy_eq_ok_iff .nil]
  simp only [List.append_nil]
  exact ⟨fun read => ⟨read.1, read.2⟩, fun collects => ⟨collects.ascending, collects.shown⟩⟩

namespace Collects

variable {order : Nat} {lines : List Line} {listed : List (Nat × Mapping)}

/-- A copy line holds one of the copies. -/
theorem exists_copy (collects : Collects order lines listed) {line : Line} (member : line ∈ lines)
    {number : Nat} {assignments : Text} (shape : CopyLine line.content number assignments) :
    0 < number ∧ ∃ mapping, (number, mapping) ∈ listed ∧
      Records order (assignmentTokens assignments) mapping := by
  obtain ⟨listing, same, held⟩ := collects.shown
  have kept : line ∈ lines.filter isCopyLine :=
    List.mem_filter.mpr ⟨member, isCopyLine_iff.mpr ⟨number, assignments, shape⟩⟩
  obtain ⟨copy, placed, ⟨positive, _⟩, text, shape', records⟩ := exists_of_mem_forall₂ held kept
  obtain ⟨rfl, rfl⟩ := shape.unique shape'
  exact ⟨positive, copy.2, same.mem_iff.mp placed, records⟩

/-- Each copy is held by a line. -/
theorem exists_line (collects : Collects order lines listed) {copy : Nat × Mapping}
    (member : copy ∈ listed) : ∃ line ∈ lines, HoldsCopy order copy line.content := by
  obtain ⟨listing, same, held⟩ := collects.shown
  obtain ⟨line, kept, holds⟩ := exists_of_mem_forall₂ held.flip (same.mem_iff.mpr member)
  exact ⟨line, (List.mem_filter.mp kept).1, holds⟩

end Collects

/-- The copies stand at the places of their numbers, and the places of missing numbers are filled
with unassigned mappings. -/
structure Numbering (sizes : Sizes) (lines : List Line) (numbers : Finset Nat)
    (copies : List Mapping) : Prop where
  /-- The numbers are those of the copy lines. -/
  listed : ∀ number, number ∈ numbers ↔
    ∃ line ∈ lines, ∃ assignments, CopyLine line.content number assignments
  /-- None of them is zero. -/
  positive : 0 ∉ numbers
  /-- There is a place for each number up to the highest one and the one asked for, and for each
  copy numbered above. -/
  length : copies.length =
    min (numbers.sup id) sizes.copies + {number ∈ numbers | sizes.copies < number}.card
  /-- What a copy line writes stands at the place of its number. -/
  held : ∀ line ∈ lines, ∀ number assignments, CopyLine line.content number assignments →
    ∃ mapping, copies[placeOf sizes.copies numbers number]? = some mapping ∧
      Records sizes.pattern (assignmentTokens assignments) mapping
  /-- A missing number leaves an unassigned mapping. -/
  missing : ∀ number, 0 < number → number ≤ min (numbers.sup id) sizes.copies →
    number ∉ numbers → copies[number - 1]? = some (.unassigned sizes.pattern)

/-- The arranged copies of a list stand at the places of their numbers. -/
theorem Collects.numbering {sizes : Sizes} {lines : List Line} {listed : List (Nat × Mapping)}
    (collects : Collects sizes.pattern lines listed) :
    Numbering sizes lines (numbersOf listed) (arrange sizes listed) where
  listed number := by
    rw [mem_numbersOf]
    constructor
    · rintro ⟨mapping, member⟩
      obtain ⟨line, placed, _, assignments, shape, _⟩ := collects.exists_line member
      exact ⟨line, placed, assignments, shape⟩
    · rintro ⟨line, placed, assignments, shape⟩
      obtain ⟨_, mapping, member, _⟩ := collects.exists_copy placed shape
      exact ⟨mapping, member⟩
  positive zero := by
    obtain ⟨mapping, member⟩ := mem_numbersOf.mp zero
    obtain ⟨line, _, ⟨positive, _⟩, _⟩ := collects.exists_line member
    exact Nat.lt_irrefl 0 positive
  length := length_arrange collects.ascending
  held line placed number assignments shape := by
    obtain ⟨positive, mapping, member, records⟩ := collects.exists_copy placed shape
    exact ⟨mapping, getElem?_arrange_placeOf collects.ascending member positive, records⟩
  missing number positive placed absent := by
    have nothing : listed.lookup number = none := by
      by_contra found
      obtain ⟨mapping, found⟩ := Option.ne_none_iff_exists'.mp found
      exact absent (mem_numbersOf.mpr
        ⟨mapping, (lookup_eq_some_iff_mem collects.ascending).mp found⟩)
    rw [getElem?_arrange_lookup collects.ascending positive placed, nothing, Option.getD_none]

/-- Copies that are accepted as so many copies of a pattern with a vertex are numbered from one on
without a gap. -/
theorem Numbering.numbers_eq_Icc {sizes : Sizes} {lines : List Line} {numbers : Finset Nat}
    {copies : List Mapping} (numbering : Numbering sizes lines numbers copies)
    {pattern host : Graph} (vertex : 0 < pattern.order)
    (accepted : checkCopies pattern host copies sizes.copies = .ok ()) :
    numbers = Finset.Icc 1 sizes.copies := by
  have distinct := checkCopies_eq_ok_iff.mp accepted
  -- An unassigned mapping is no copy of a pattern with a vertex, so no number is missing.
  have present {number : Nat} (positive : 0 < number)
      (placed : number ≤ min (numbers.sup id) sizes.copies) : number ∈ numbers := by
    by_contra absent
    have gap := numbering.missing number positive placed absent
    obtain ⟨x, _, target⟩ := (distinct.embeds _ (List.mem_of_getElem? gap)).assigned 0 vertex
    rw [Mapping.get?_unassigned] at target
    contradiction
  have length := numbering.length
  rw [distinct.count] at length
  -- The list is as long as asked for, so the highest number is reached and none is above.
  have reached : sizes.copies ≤ numbers.sup id := by
    by_contra short
    have none_above : {number ∈ numbers | sizes.copies < number} = ∅ := by
      rw [Finset.filter_eq_empty_iff]
      intro number member above
      have highest : number ≤ numbers.sup id := Finset.le_sup (f := id) member
      omega
    rw [none_above, Finset.card_empty] at length
    omega
  have none_above : {number ∈ numbers | sizes.copies < number} = ∅ := by
    rw [← Finset.card_eq_zero]
    omega
  ext number
  rw [Finset.mem_Icc]
  constructor
  · intro member
    refine ⟨Nat.one_le_iff_ne_zero.mpr fun zero => numbering.positive (zero ▸ member), ?_⟩
    exact not_lt.mp (Finset.filter_eq_empty_iff.mp none_above member)
  · rintro ⟨positive, usual⟩
    exact present positive (by omega)

end Verbose

end CopyOracle
