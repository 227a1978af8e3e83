import CopyOracle.Proofs.Answer.Reader
import CopyOracle.Proofs.Mapping
/-!
# Reading the list of copies

The line of a copy has its label, its number and its written mapping. The tokens of the mapping
are assigned one after another, and the lines of other kinds list nothing. The copies listed so
far are kept ascending by number, so the order of the lines does not matter, and copies numbered
from one without a gap are arranged as they are, however many were asked for.
-/

namespace CopyOracle

namespace Mapping

/-- Assigning what a mapping assigns, in order, rebuilds what is behind an assigned front. -/
theorem foldlM_set?_append (front rest : List (Option Nat)) :
    (rest.zipIdx front.length |>.filterMap fun (target, source) =>
        target.map fun t => (source, t)).foldlM
      (fun made pair => set? made pair.1 pair.2)
      ⟨front ++ List.replicate rest.length none⟩ = some ⟨front ++ rest⟩ := by
  induction rest generalizing front with
  | nil => rfl
  | cons target rest ih =>
    have later := ih (front ++ [target])
    rw [List.length_append, List.length_singleton] at later
    cases target with
    | none => simpa [List.replicate_succ] using later
    | some t =>
      have inside : front.length < sources ⟨front ++ none :: List.replicate rest.length none⟩ := by
        simp [sources]
      simpa [List.replicate_succ, set?, inside] using later

/-- Assigning what a mapping assigns rebuilds it. -/
theorem foldlM_set?_assignments (mapping : Mapping) :
    mapping.assignments.foldlM (fun made pair => set? made pair.1 pair.2)
      (.unassigned mapping.sources) = some mapping :=
  foldlM_set?_append [] mapping.targets

/-- A written assignment. -/
def writePair (pair : Nat × Nat) : Text :=
  Numeral.digits pair.1 ++ '-' :: '>' :: Numeral.digits pair.2

/-- A written mapping that assigns something has nothing to trim. -/
theorem write_trimmed {mapping : Mapping} (assigns : mapping.assignments ≠ []) :
    mapping.write.Trimmed := by
  refine Text.trimmed_intercalate (by simpa using assigns) fun text member => ?_
  obtain ⟨pair, _, rfl⟩ := List.mem_map.mp member
  have written := (Numeral.digits_trimmed pair.1).append ['-', '>'] (Numeral.digits_trimmed pair.2)
  rwa [List.append_assoc] at written

/-- A written mapping is made of digits, arrows, commas and spaces. -/
theorem mem_write {mapping : Mapping} {c : Char} (member : c ∈ mapping.write) :
    c.isDigit = true ∨ c ∈ ['-', '>', ',', ' '] := by
  rcases Text.mem_intercalate member with separator | ⟨text, listed, inside⟩
  · have signs : [',', ' '] ⊆ ['-', '>', ',', ' '] := by decide
    exact .inr (signs separator)
  · obtain ⟨pair, _, rfl⟩ := List.mem_map.mp listed
    rw [List.mem_append, List.mem_cons, List.mem_cons] at inside
    rcases inside with source | rfl | rfl | target
    · exact .inl (Numeral.isDigit_of_mem_digits source)
    · exact .inr (by decide)
    · exact .inr (by decide)
    · exact .inl (Numeral.isDigit_of_mem_digits target)

end Mapping

namespace Verbose

/-- A written assignment has no separator in it. -/
theorem assignmentTokens_writePair (pair : Nat × Nat) :
    assignmentTokens (Mapping.writePair pair) = [Mapping.writePair pair] := by
  refine List.splitOnP_eq_singleton fun c member => ?_
  have digit {n : Nat} (inside : c ∈ Numeral.digits n) : (c == ',' || Text.isBlank c) = false := by
    have shown := Numeral.isDigit_of_mem_digits inside
    rw [Numeral.isBlank_of_isDigit shown, Bool.or_false, beq_eq_false_iff_ne]
    rintro rfl
    contradiction
  rw [Mapping.writePair, List.mem_append, List.mem_cons, List.mem_cons] at member
  rcases member with source | rfl | rfl | target
  · exact digit source
  · decide
  · decide
  · exact digit target

/-- The token of a written assignment makes it. -/
theorem assign_writePair {order line copy : Nat} {mapping made : Mapping} {pair : Nat × Nat}
    (source : pair.1 < UInt64.size) (target : pair.2 < UInt64.size)
    (set : mapping.set? pair.1 pair.2 = some made) :
    assign order line copy mapping (Mapping.writePair pair) = .ok made := by
  have absent : '-' ∉ Numeral.digits pair.1 := by
    intro member
    have digit := Numeral.isDigit_of_mem_digits member
    contradiction
  have cut : (Mapping.writePair pair).cut? ['-', '>'] =
      some (Numeral.digits pair.1, Numeral.digits pair.2) :=
    Text.cut?_append_cons absent ['>'] (Numeral.digits pair.2)
  rw [assign, cut]
  refine bind_eq_ok_iff.mpr
    ⟨pair.1, AnswerError.readSize_eq_ok_iff.mpr ⟨Numeral.denotes_digits _, source⟩, ?_⟩
  refine bind_eq_ok_iff.mpr
    ⟨pair.2, AnswerError.readSize_eq_ok_iff.mpr ⟨Numeral.denotes_digits _, target⟩, ?_⟩
  rw [set]

/-- Tokens on the two sides of a separator are read one after the other. -/
theorem assignmentTokens_append_cons {c : Char} (separates : (c == ',' || Text.isBlank c) = true)
    (before after : Text) :
    assignmentTokens (before ++ c :: after) = assignmentTokens before ++ assignmentTokens after :=
  List.splitOnP_append_cons before after separates

/-- A separator at the front makes no assignment. -/
theorem foldlM_assign_cons {order line copy : Nat} {mapping : Mapping} {c : Char}
    (separates : (c == ',' || Text.isBlank c) = true) (text : Text) :
    (assignmentTokens (c :: text)).foldlM (assign order line copy) mapping =
      (assignmentTokens text).foldlM (assign order line copy) mapping := by
  have tokens : assignmentTokens (c :: text) = [] :: assignmentTokens text :=
    assignmentTokens_append_cons separates [] text
  rw [tokens, List.foldlM_cons]
  rfl

/-- Written assignments with a comma and a space between them are made in order. -/
theorem foldlM_assign_intercalate {order line copy : Nat} {pairs : List (Nat × Nat)}
    {mapping made : Mapping}
    (bound : ∀ pair ∈ pairs, pair.1 < UInt64.size ∧ pair.2 < UInt64.size)
    (set : pairs.foldlM (fun made pair => made.set? pair.1 pair.2) mapping = some made) :
    (assignmentTokens ([',', ' '].intercalate (pairs.map Mapping.writePair))).foldlM
      (assign order line copy) mapping = .ok made := by
  induction pairs generalizing mapping with
  | nil =>
    obtain rfl := Option.some.inj set
    rfl
  | cons pair pairs ih =>
    obtain ⟨next, first, later⟩ := Option.bind_eq_some_iff.mp set
    obtain ⟨source, target⟩ := bound pair List.mem_cons_self
    have head : assign order line copy mapping (Mapping.writePair pair) = .ok next :=
      assign_writePair source target first
    have tail := ih (fun other member => bound other (List.mem_cons_of_mem _ member)) later
    cases pairs with
    | nil =>
      obtain rfl := Option.some.inj later
      rw [List.map_singleton, List.intercalate_singleton, assignmentTokens_writePair,
        List.foldlM_cons, head]
      rfl
    | cons other pairs =>
      rw [List.map_cons, List.map_cons, List.intercalate_cons_cons, List.append_assoc,
        List.cons_append, List.singleton_append, assignmentTokens_append_cons (by decide),
        assignmentTokens_writePair, List.singleton_append, List.foldlM_cons, head]
      exact (foldlM_assign_cons (by decide) _).trans tail

/-- A line lists a copy when it has the number of the copy and assignments that make it. -/
def Lists (copy : Nat × Mapping) (content : Text) : Prop :=
  ∃ assignments, copyLine? content = some (Numeral.digits copy.1, assignments) ∧
    ∀ line, (assignmentTokens assignments).foldlM
      (assign copy.2.sources line copy.1) (.unassigned copy.2.sources) = .ok copy.2

/-- One more copy is listed. -/
theorem insertCopy_perm (number : Nat) (mapping : Mapping) (listed : List (Nat × Mapping)) :
    (insertCopy number mapping listed).Perm ((number, mapping) :: listed) := by
  induction listed with
  | nil => exact .refl _
  | cons earlier rest ih =>
    rw [insertCopy]
    split
    · exact .refl _
    · exact (ih.cons earlier).trans (.swap _ _ _)

/-- A copy of a new number keeps the listed copies ascending. -/
theorem insertCopy_ascending {number : Nat} {listed : List (Nat × Mapping)}
    (ascending : listed.Pairwise (·.1 < ·.1)) (fresh : ∀ earlier ∈ listed, earlier.1 ≠ number)
    (mapping : Mapping) : (insertCopy number mapping listed).Pairwise (·.1 < ·.1) := by
  induction listed with
  | nil => exact List.pairwise_singleton _ _
  | cons earlier rest ih =>
    obtain ⟨below, rest_ascending⟩ := List.pairwise_cons.mp ascending
    rw [insertCopy]
    split
    · next smaller =>
      refine List.pairwise_cons.mpr ⟨fun later member => ?_, ascending⟩
      rcases List.mem_cons.mp member with rfl | member
      · exact smaller
      · exact Nat.lt_trans smaller (below later member)
    · next larger =>
      refine List.pairwise_cons.mpr ⟨fun later member => ?_, ih rest_ascending fun other member =>
        fresh other (List.mem_cons_of_mem _ member)⟩
      rcases List.mem_cons.mp ((insertCopy_perm number mapping rest).mem_iff.mp member)
        with rfl | member
      · exact Nat.lt_of_le_of_ne (Nat.le_of_not_lt larger) (fresh earlier List.mem_cons_self)
      · exact below later member

/-- Whether a line is the line of a copy. -/
def isCopyLine (line : Line) : Bool := (copyLine? line.content).isSome

/-- The mappings with their numbers, counted from a first one. -/
def numberedFrom (first : Nat) (mappings : List Mapping) : List (Nat × Mapping) :=
  (mappings.zipIdx first).map Prod.swap

/-- The first mapping has the first number. -/
theorem numberedFrom_cons (first : Nat) (mapping : Mapping) (mappings : List Mapping) :
    numberedFrom first (mapping :: mappings) =
      (first, mapping) :: numberedFrom (first + 1) mappings := rfl

/-- The numbers are consecutive. -/
theorem numberedFrom_map_fst (first : Nat) (mappings : List Mapping) :
    (numberedFrom first mappings).map Prod.fst = List.range' first mappings.length := by
  rw [numberedFrom, List.map_map, ← List.zipIdx_map_snd]
  rfl

/-- The numbers ascend. -/
theorem numberedFrom_ascending (first : Nat) (mappings : List Mapping) :
    (numberedFrom first mappings).Pairwise (·.1 < ·.1) := by
  rw [← List.pairwise_map, numberedFrom_map_fst]
  exact List.pairwise_lt_range'

/-- A mapping is found under its number. -/
theorem lookup_numberedFrom (first place : Nat) (mappings : List Mapping) :
    (numberedFrom first mappings).lookup (place + first) = mappings[place]? := by
  induction mappings generalizing first place with
  | nil => rfl
  | cons mapping mappings ih =>
    rw [numberedFrom_cons]
    cases place with
    | zero => simp
    | succ place =>
      have other : (place + 1 + first == first) = false := by
        rw [beq_eq_false_iff_ne]
        omega
      rw [List.lookup_cons, other, List.getElem?_cons_succ, ← ih (first + 1) place,
        Nat.add_right_comm place 1 first, Nat.add_assoc place first 1]

/-- The mappings above a number are those after so many. -/
theorem numberedFrom_filter (first highest : Nat) (mappings : List Mapping) :
    ((numberedFrom first mappings).filter fun copy => highest < copy.1).map Prod.snd =
      mappings.drop (highest + 1 - first) := by
  induction mappings generalizing first with
  | nil => simp [numberedFrom]
  | cons mapping mappings ih =>
    rw [numberedFrom_cons]
    by_cases above : highest < first
    · have none_dropped : highest + 1 - first = 0 := by omega
      have later : highest + 1 - (first + 1) = 0 := by omega
      rw [List.filter_cons_of_pos (by simpa using above), List.map_cons, ih, none_dropped, later]
      rfl
    · have dropped : highest + 1 - first = highest + 1 - (first + 1) + 1 := by omega
      rw [List.filter_cons_of_neg (by simpa using above), ih, dropped, List.drop_succ_cons]

/-- Copies numbered from one without a gap are arranged as they are. -/
theorem arrange_numberedFrom (sizes : Sizes) (mappings : List Mapping) :
    arrange sizes (numberedFrom 1 mappings) = mappings := by
  have highest : ((numberedFrom 1 mappings).getLast?.map Prod.fst).getD 0 = mappings.length := by
    rw [← List.getLast?_map, numberedFrom_map_fst, List.getLast?_range']
    cases mappings with
    | nil => rfl
    | cons mapping mappings => simp
  have front : ((List.range (min mappings.length sizes.copies)).map fun place =>
      ((numberedFrom 1 mappings).lookup (place + 1)).getD (.unassigned sizes.pattern)) =
        mappings.take (min mappings.length sizes.copies) := by
    refine List.ext_getElem (by simp) fun place inside _ => ?_
    rw [List.length_map, List.length_range] at inside
    have listed : place < mappings.length := by omega
    simp [lookup_numberedFrom, listed]
  rw [arrange, highest, front, numberedFrom_filter, Nat.add_sub_cancel, List.take_append_drop]

end Verbose

end CopyOracle
