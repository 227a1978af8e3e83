import CopyOracle.Proofs.Answer.Parts
import CopyOracle.Proofs.Answer.Report
/-!
# Reading the lines of a written report

Each line of a report is read as what it shows: the line of the cost as the cost, the line of a
copy as its number and mapping, and the line of a row as its entries. The labels at the front of
the parts are found on their lines, and no line but that of a copy is taken for one.
-/

namespace CopyOracle

namespace Verbose

/-- The labels at the front of the parts neither begin nor end with white space. -/
theorem labels_trimmed : ∀ label ∈ costLabels ++ mappingLabels ++ extendedLabels,
    Text.Trimmed label := by decide

/-- No label at the front of a part begins like the label of a copy. -/
theorem copyLabels_foreign : ∀ label ∈ costLabels ++ mappingLabels ++ extendedLabels,
    ∀ word ∈ copyLabels, word.length ≤ label.lower.length ∧ ¬word <+: label.lower := by decide

/-- A line that does not begin like the label of a copy is not the line of one. -/
theorem copyLine?_eq_none {content : Text} (other : ∀ word ∈ copyLabels, ¬word <+: content.lower) :
    copyLine? content = none := by
  have unlabelled : (copyLabels.find? fun label => label.isPrefixOf content.lower) = none := by
    rw [List.find?_eq_none]
    exact fun word member occurs => other word member (List.isPrefixOf_iff_prefix.mp occurs)
  rw [copyLine?, unlabelled]
  rfl

namespace Heads

variable {labels : List Text} {line : Text}

/-- A trimmed line begins with the same label. -/
theorem trim (heads : Heads labels line)
    (known : labels ⊆ costLabels ++ mappingLabels ++ extendedLabels) :
    Heads labels line.trim := by
  obtain ⟨label, member, tail, rfl, plain⟩ := heads
  refine ⟨label, member, tail.trimEnd, (labels_trimmed label (known member)).trim_append tail,
    fun c inside => plain c ?_⟩
  rw [Text.trimEnd, List.mem_reverse] at inside
  exact List.mem_reverse.mp ((List.dropWhile_sublist _).subset inside)

/-- A line that begins with a label has it. -/
theorem containsAny (heads : Heads labels line) : containsAny line labels = true := by
  obtain ⟨label, member, tail, rfl, _⟩ := heads
  exact containsAny_eq_true_iff.mpr ⟨label, member, (List.prefix_append label tail).isInfix⟩

/-- A line that begins with a label is not empty, as no label is. -/
theorem ne_nil (heads : Heads labels line) (solid : Verbose.containsAny [] labels = false) :
    line ≠ [] := by
  rintro rfl
  rw [heads.containsAny] at solid
  contradiction

/-- A line that begins with the label of a part is not the line of a copy. -/
theorem copyLine?_eq_none (heads : Heads labels line)
    (known : labels ⊆ costLabels ++ mappingLabels ++ extendedLabels) :
    copyLine? line = none := by
  obtain ⟨label, member, tail, rfl, _⟩ := heads
  refine Verbose.copyLine?_eq_none fun word copyLabel occurs => ?_
  obtain ⟨shorter, foreign⟩ := copyLabels_foreign label (known member) word copyLabel
  rw [Text.lower, List.map_append] at occurs
  exact foreign (List.prefix_of_prefix_length_le occurs (List.prefix_append _ _) shorter)

end Heads

/-- What follows a label at the front of a text is found. -/
theorem after?_append {label : Text} (nonempty : label ≠ []) (rest : Text) :
    (label ++ rest).after? label = some rest := by
  obtain ⟨c, later, rfl⟩ := List.exists_cons_of_ne_nil nonempty
  simp [Text.after?]

/-- A label is found exactly in a text that has one. -/
theorem afterLabel?_eq_none_iff {text : Text} {labels : List Text} :
    afterLabel? text labels = none ↔ containsAny text labels = false := by
  simp [afterLabel?, Verbose.containsAny, Text.contains]

namespace ShowsCost

variable {cost : UInt64} {line : Text}

/-- The line with the cost has nothing to trim. -/
theorem trim_eq (shows : ShowsCost cost line) : line.trim = line := by
  obtain ⟨label, member, gap, _, rfl⟩ := shows
  have front := labels_trimmed label (List.mem_append_left _ (List.mem_append_left _ member))
  rw [← List.append_assoc]
  exact (front.append gap (Numeral.digits_trimmed _)).trim_eq

/-- The two labels of the cost tell their lines apart. -/
theorem costLabels_foreign : ∀ label ∈ costLabels, ∀ other ∈ costLabels,
    other = label ∨ ∃ c ∈ other, c.isLower = true ∧ c ∉ label := by decide

/-- After the label of the cost there is white space and the written cost. -/
theorem afterLabel?_eq (shows : ShowsCost cost line) : ∃ gap : Text, gap.Blank ∧
    afterLabel? line costLabels = some (gap ++ Numeral.digits cost.toNat) := by
  obtain ⟨label, member, gap, blank, rfl⟩ := shows
  refine ⟨gap, blank, ?_⟩
  have own : (label ++ (gap ++ Numeral.digits cost.toNat)).after? label =
      some (gap ++ Numeral.digits cost.toNat) :=
    after?_append (fun empty => by simp [empty, costLabels] at member) _
  have spelled : SpelledFrom [label] (label ++ (gap ++ Numeral.digits cost.toNat)) :=
    Heads.spelledFrom ⟨label, List.mem_singleton_self label, _, rfl,
      fun c => isLower_of_mem_cost blank⟩
  cases found : afterLabel? (label ++ (gap ++ Numeral.digits cost.toNat)) costLabels with
  | none =>
    rw [List.findSome?_eq_none_iff.mp found label member] at own
    contradiction
  | some rest =>
    obtain ⟨other, listed, shown⟩ := List.exists_of_findSome?_eq_some found
    rcases costLabels_foreign label member other listed with rfl | foreign
    · exact shown.symm.trans own
    · have absent : containsAny (label ++ (gap ++ Numeral.digits cost.toNat)) [other] = false :=
        spelled.containsAny_eq_false (by simpa using foreign)
      have missing := List.findSome?_eq_none_iff.mp (afterLabel?_eq_none_iff.mpr absent) other
        (List.mem_singleton_self other)
      rw [missing] at shown
      contradiction

/-- The cost is read from the first line with a label of the cost. -/
theorem readCost_eq {before after : List Line} {line : Line} (shows : ShowsCost cost line.content)
    (unlabelled : ∀ other ∈ before, containsAny other.content costLabels = false) :
    readCost (before ++ line :: after) = .ok cost := by
  obtain ⟨gap, blank, found⟩ := shows.afterLabel?_eq
  have skipped : (before.map Line.content).findSome? (afterLabel? · costLabels) = none := by
    rw [List.findSome?_eq_none_iff, List.forall_mem_map]
    exact fun other member => afterLabel?_eq_none_iff.mpr (unlabelled other member)
  have labelled : ((before ++ line :: after).map Line.content).findSome?
      (afterLabel? · costLabels) = some (gap ++ Numeral.digits cost.toNat) := by
    rw [List.map_append, List.findSome?_append, skipped, Option.none_or, List.map_cons,
      List.findSome?_cons, found]
  have all : (Numeral.digits cost.toNat).takeWhile Char.isDigit = Numeral.digits cost.toNat :=
    List.takeWhile_eq_self_iff.mpr fun _ => Numeral.isDigit_of_mem_digits
  refine readCost_eq_ok_iff.mpr ⟨_, labelled, ?_⟩
  rw [Text.trimStart_append blank, (Numeral.digits_trimmed _).trimStart_eq, all]
  exact Numeral.denotes_digits _

end ShowsCost

/-- The label of a copy has no white space. -/
theorem visible_of_lower_mem {label : Text} (known : label.lower ∈ copyLabels) {c : Char}
    (member : c ∈ label) : Text.isBlank c = false := by
  have letters : ∀ word ∈ copyLabels, ∀ d ∈ word, d.isLower = true := by decide
  rw [Bool.eq_false_iff]
  intro blank
  have lower := letters _ known c.toLower (List.mem_map_of_mem member)
  have outside := Text.toNat_of_isBlank blank
  rw [Text.toLower_eq_self (by omega)] at lower
  have range := Text.isLower_iff.mp lower
  omega

/-- The number of a copy and what follows it are found behind its label. -/
theorem copyLine?_append {label : Text} (known : label.lower ∈ copyLabels) (number : Nat)
    (rest : Text) :
    copyLine? (label ++ ' ' :: (Numeral.digits number ++ ':' :: rest)) =
      some (Numeral.digits number, rest) := by
  have absent : ':' ∉ ' ' :: Numeral.digits number := by
    intro member
    rcases List.mem_cons.mp member with space | digit
    · contradiction
    · have digits := Numeral.isDigit_of_mem_digits digit
      contradiction
  have trimmed : Text.trim (' ' :: Numeral.digits number) = Numeral.digits number := by
    rw [Text.trim, Text.trimStart, List.dropWhile_cons_of_pos (by decide)]
    exact (Numeral.digits_trimmed number).trim_eq
  exact copyLine?_eq_some_iff.mpr ⟨label, ' ' :: Numeral.digits number, known, rfl, absent, trimmed,
    Numeral.digits_ne_nil number, fun _ => Numeral.isDigit_of_mem_digits⟩

/-- The trimmed line of a copy lists it. -/
theorem ShowsCopy.lists {copy : Nat × Mapping} {line : Text} (shows : ShowsCopy copy line)
    (bound : ∀ pair ∈ copy.2.assignments, pair.1 < UInt64.size ∧ pair.2 < UInt64.size) :
    Lists copy line.trim := by
  obtain ⟨label, known, rfl⟩ := shows
  have nonempty : label ≠ [] := by
    rintro rfl
    simp [Text.lower, copyLabels] at known
  have labelled : label.Trimmed := Text.trimmed_of_ends nonempty
    (visible_of_lower_mem known (List.head_mem _)) (visible_of_lower_mem known (List.getLast_mem _))
  have core : Text.Trimmed (label ++ (' ' :: Numeral.digits copy.1) ++ [':']) :=
    labelled.append _ (Text.trimmed_singleton (by decide))
  have trimmed := core.trim_append (' ' :: copy.2.write)
  have made (line : Nat) : (assignmentTokens copy.2.write).foldlM
      (assign copy.2.sources line copy.1) (.unassigned copy.2.sources) = .ok copy.2 :=
    foldlM_assign_intercalate bound copy.2.foldlM_set?_assignments
  simp only [List.append_assoc, List.cons_append, List.nil_append] at trimmed
  rw [trimmed]
  refine ⟨_, copyLine?_append known copy.1 _, fun line => ?_⟩
  by_cases assigns : copy.2.assignments = []
  · have unwritten : copy.2.write = [] := by rw [Mapping.write, assigns]; rfl
    rw [unwritten] at made ⊢
    exact made line
  · have kept := (Mapping.write_trimmed assigns).trimEnd_append [' ']
    rw [List.singleton_append] at kept
    rw [kept, foldlM_assign_cons (by decide)]
    exact made line

namespace ShowsNumberedRow

variable {row : List UInt32} {line : Text}

/-- The line of a row has nothing to trim. -/
theorem trimmed (shows : ShowsNumberedRow row line) (nonempty : row ≠ []) : line.Trimmed := by
  have written := Graph.writeRow_trimmed nonempty
  rcases shows with rfl | ⟨number, rfl⟩
  · exact written
  · have opening : Text.Trimmed ['['] := Text.trimmed_singleton (by decide)
    simpa using opening.append (Numeral.digits number ++ [']', ' ']) written

/-- The line of a row is not the line of a copy. -/
theorem copyLine?_eq_none (shows : ShowsNumberedRow row line) (nonempty : row ≠ []) :
    copyLine? line = none := by
  have front : ∃ c rest, line = c :: rest ∧ c.toLower.isLower = false := by
    rcases shows with rfl | ⟨number, rfl⟩
    · obtain ⟨c, rest, same, digit⟩ := Graph.writeRow_eq_cons nonempty
      have range := Text.isDigit_iff.mp digit
      exact ⟨c, rest, same, by
        rw [Text.toLower_eq_self (by omega)]
        exact isLower_of_isDigit digit⟩
    · exact ⟨'[', _, rfl, by decide⟩
  have letters : ∀ word ∈ copyLabels, word.head?.any Char.isLower = true := by decide
  obtain ⟨c, rest, rfl, plain⟩ := front
  refine Verbose.copyLine?_eq_none fun word member occurs => ?_
  obtain ⟨d, first, lower⟩ := (Option.any_eq_true _ _).mp (letters word member)
  obtain ⟨later, rfl⟩ := List.head?_eq_some_iff.mp first
  rw [Text.lower, List.map_cons, List.cons_prefix_cons] at occurs
  rw [occurs.1, plain] at lower
  contradiction

/-- Without the number a row is left. -/
theorem stripRowLabel_eq (shows : ShowsNumberedRow row line) (nonempty : row ≠ []) :
    stripRowLabel line = Graph.writeRow row := by
  obtain ⟨c, rest, same, digit⟩ := Graph.writeRow_eq_cons nonempty
  rcases shows with rfl | ⟨number, rfl⟩
  · have other : c ≠ '[' := by
      rintro rfl
      contradiction
    rw [same, stripRowLabel]
    simpa using other
  · have absent : ']' ∉ Numeral.digits number := by
      intro member
      have numeral := Numeral.isDigit_of_mem_digits member
      contradiction
    have cut : Text.cut? (Numeral.digits number ++ ']' :: ' ' :: Graph.writeRow row) [']'] =
        some (Numeral.digits number, ' ' :: Graph.writeRow row) :=
      Text.cut?_append_cons absent [] _
    have space : Text.Blank [' '] := by decide
    have trimmed := (Text.trimStart_append space (Graph.writeRow row)).trans
      (Graph.writeRow_trimmed nonempty).trimStart_eq
    simp only [stripRowLabel, cut]
    exact trimmed

end ShowsNumberedRow

/-- The entries of a written row are read back. -/
theorem readEntries_writeRow (row : List UInt32) (number : Nat) :
    readEntries number (Graph.writeRow row) = .ok row :=
  readEntries_eq_ok_iff.mpr (Graph.showsRow_writeRow row)

/-- A written row starts like one. -/
theorem startsLikeRow_writeRow {row : List UInt32} (nonempty : row ≠ []) :
    startsLikeRow (Graph.writeRow row) = true := by
  obtain ⟨c, rest, same, digit⟩ := Graph.writeRow_eq_cons nonempty
  simp [same, startsLikeRow, digit]

end Verbose

end CopyOracle
