import CopyOracle.Proofs.Answer.Listing
/-!
# The lines of a written report

A labelled report has a part for the cost, one for the copies and one for the extended graph, in
any order, and each part begins with a label. What a line is read as depends on the labels in it,
and each label has a small letter that the lines of the other parts do not have. So a line is told
from the words that its small letters come from, whatever white space, digits, signs and capitals
stand in it.
-/

namespace CopyOracle

namespace Verbose

/-- All small letters of the line are letters of one of the words. -/
def SpelledFrom (words : List Text) (line : Text) : Prop :=
  ∃ word ∈ words, ∀ c ∈ line, c.isLower = true → c ∈ word

/-- The line begins with one of the labels, and no small letter follows. -/
def Heads (labels : List Text) (line : Text) : Prop :=
  ∃ label ∈ labels, ∃ tail : Text, line = label ++ tail ∧ ∀ c ∈ tail, c.isLower = false

/-- The line is a label of the cost and the written cost. -/
def ShowsCost (cost : UInt64) (line : Text) : Prop :=
  ∃ label ∈ costLabels, ∃ gap : Text, gap.Blank ∧
    line = label ++ (gap ++ Numeral.digits cost.toNat)

/-- The line is a label of a copy in letters of either case, the number and the mapping. -/
def ShowsCopy (copy : Nat × Mapping) (line : Text) : Prop :=
  ∃ label : Text, label.lower ∈ copyLabels ∧
    line = label ++ ' ' :: (Numeral.digits copy.1 ++ ':' :: ' ' :: copy.2.write)

/-- The line is a written row, behind a number in square brackets or alone. -/
def ShowsNumberedRow (row : List UInt32) (line : Text) : Prop :=
  line = Graph.writeRow row ∨
    ∃ number, line = '[' :: (Numeral.digits number ++ ']' :: ' ' :: Graph.writeRow row)

/-- The part with the cost is its line. -/
def CostPart (cost : UInt64) (part : List Text) : Prop :=
  ∃ line, ShowsCost cost line ∧ part = [line]

/-- The part with the copies is a label and their lines in any order, numbered from one. -/
def CopiesPart (copies : List Mapping) (part : List Text) : Prop :=
  ∃ head lines, Heads mappingLabels head ∧ part = head :: lines ∧
    ∃ listing : List (Nat × Mapping), listing.Perm (numberedFrom 1 copies) ∧
      List.Forall₂ ShowsCopy listing lines

/-- The part with the extended graph is a label and the rows of the matrix. -/
def MatrixPart (extended : Graph) (part : List Text) : Prop :=
  ∃ head lines, Heads extendedLabels head ∧ part = head :: lines ∧
    List.Forall₂ ShowsNumberedRow extended.toRows lines

/-- The text is a report of the answer: its three parts in any order, with blank lines anywhere
and white space around each line. -/
inductive Reports : Answer → Text → Prop
  /-- A report of a graph, the copies in it and the cost. -/
  | parts {extended : Graph} {copies : List Mapping} {cost : UInt64} {text : Text}
    {costPart copiesPart matrixPart : List Text} {parts : List (List Text)}
    (priced : CostPart cost costPart) (listed : CopiesPart copies copiesPart)
    (drawn : MatrixPart extended matrixPart)
    (order : parts.Perm [costPart, copiesPart, matrixPart])
    (shown : Text.Interspersed Text.Blank parts.flatten text.lines) :
    Reports ⟨extended, some copies, cost⟩ text

/-- A digit is no small letter. -/
theorem isLower_of_isDigit {c : Char} (digit : c.isDigit = true) : c.isLower = false := by
  rw [Bool.eq_false_iff]
  intro lower
  have letters := Text.isLower_iff.mp lower
  have digits := Text.isDigit_iff.mp digit
  omega

/-- White space has no small letters. -/
theorem isLower_of_isBlank {c : Char} (blank : Text.isBlank c = true) : c.isLower = false := by
  rw [Bool.eq_false_iff]
  intro lower
  have letters := Text.isLower_iff.mp lower
  have outside := Text.toNat_of_isBlank blank
  omega

namespace SpelledFrom

variable {words : List Text} {line : Text}

/-- A line may be spelled from more words. -/
theorem weaken (spelled : SpelledFrom words line) {others : List Text} (more : words ⊆ others) :
    SpelledFrom others line := by
  obtain ⟨word, member, letters⟩ := spelled
  exact ⟨word, more member, letters⟩

/-- White space around a line does not matter for its letters. -/
theorem trim_iff : SpelledFrom words line.trim ↔ SpelledFrom words line := by
  have same {c : Char} (lower : c.isLower = true) : c ∈ line.trim ↔ c ∈ line := by
    refine Text.mem_trim_iff (Bool.eq_false_iff.mpr fun blank => ?_)
    rw [isLower_of_isBlank blank] at lower
    contradiction
  constructor
  · rintro ⟨word, member, letters⟩
    exact ⟨word, member, fun c inside lower => letters c ((same lower).mpr inside) lower⟩
  · rintro ⟨word, member, letters⟩
    exact ⟨word, member, fun c inside lower => letters c ((same lower).mp inside) lower⟩

/-- A line has no mark with a small letter that its words do not have. -/
theorem containsAny_eq_false (spelled : SpelledFrom words line) {marks : List Text}
    (foreign : ∀ word ∈ words, ∀ mark ∈ marks, ∃ c ∈ mark, c.isLower = true ∧ c ∉ word) :
    containsAny line marks = false := by
  obtain ⟨word, member, letters⟩ := spelled
  refine CopyOracle.containsAny_eq_false fun mark listed => ?_
  obtain ⟨c, inside, lower, absent⟩ := foreign word member mark listed
  exact ⟨c, inside, fun shown => absent (letters c shown lower)⟩

end SpelledFrom

/-- A written row has no small letters. -/
theorem isLower_of_mem_writeRow {row : List UInt32} {c : Char} (member : c ∈ Graph.writeRow row) :
    c.isLower = false := by
  rcases Graph.isDigit_or_eq_space_of_mem_writeRow member with digit | rfl
  · exact isLower_of_isDigit digit
  · decide

/-- What follows the label of a copy has no small letters. -/
theorem isLower_of_mem_copy {number : Nat} {mapping : Mapping} {c : Char}
    (member : c ∈ ' ' :: (Numeral.digits number ++ ':' :: ' ' :: mapping.write)) :
    c.isLower = false := by
  have signs : ∀ d ∈ ['-', '>', ',', ' '], d.isLower = false := by decide
  rw [List.mem_cons, List.mem_append, List.mem_cons, List.mem_cons] at member
  rcases member with rfl | digit | rfl | rfl | written
  · decide
  · exact isLower_of_isDigit (Numeral.isDigit_of_mem_digits digit)
  · decide
  · decide
  · exact (Mapping.mem_write written).elim isLower_of_isDigit (signs c)

/-- A line that begins with a label is spelled from it. -/
theorem Heads.spelledFrom {labels : List Text} {line : Text} (heads : Heads labels line) :
    SpelledFrom labels line := by
  obtain ⟨label, member, tail, rfl, plain⟩ := heads
  refine ⟨label, member, fun c inside lower => ?_⟩
  refine (List.mem_append.mp inside).resolve_right fun later => ?_
  rw [plain c later] at lower
  contradiction

/-- What follows the label of the cost has no small letters. -/
theorem isLower_of_mem_cost {gap : Text} (blank : gap.Blank) {n : Nat} {c : Char}
    (member : c ∈ gap ++ Numeral.digits n) : c.isLower = false := by
  rcases List.mem_append.mp member with space | digit
  · exact isLower_of_isBlank (blank c space)
  · exact isLower_of_isDigit (Numeral.isDigit_of_mem_digits digit)

/-- The line with the cost begins with its label. -/
theorem ShowsCost.heads {cost : UInt64} {line : Text} (shows : ShowsCost cost line) :
    Heads costLabels line := by
  obtain ⟨label, member, gap, blank, rfl⟩ := shows
  exact ⟨label, member, _, rfl, fun c => isLower_of_mem_cost blank⟩

/-- The line of a copy is spelled from its label. -/
theorem ShowsCopy.spelledFrom {copy : Nat × Mapping} {line : Text} (shows : ShowsCopy copy line) :
    SpelledFrom copyLabels line := by
  obtain ⟨label, member, rfl⟩ := shows
  refine ⟨label.lower, member, fun c inside lower => ?_⟩
  have within : c ∈ label := by
    refine (List.mem_append.mp inside).resolve_right fun later => ?_
    rw [isLower_of_mem_copy later] at lower
    contradiction
  have range := Text.isLower_iff.mp lower
  have same : c.toLower = c := Text.toLower_eq_self (by omega)
  exact same ▸ List.mem_map_of_mem within

/-- The line of a row has no small letters, so it is spelled from any word. -/
theorem ShowsNumberedRow.spelledFrom {row : List UInt32} {line word : Text}
    (shows : ShowsNumberedRow row line) {words : List Text} (member : word ∈ words) :
    SpelledFrom words line := by
  have plain : ∀ c ∈ line, c.isLower = false := by
    rcases shows with rfl | ⟨number, rfl⟩
    · exact fun c inside => isLower_of_mem_writeRow inside
    · intro c inside
      rw [List.mem_cons, List.mem_append, List.mem_cons, List.mem_cons] at inside
      rcases inside with rfl | digit | rfl | rfl | written
      · decide
      · exact isLower_of_isDigit (Numeral.isDigit_of_mem_digits digit)
      · decide
      · decide
      · exact isLower_of_mem_writeRow written
  refine ⟨word, member, fun c inside lower => ?_⟩
  rw [plain c inside] at lower
  contradiction

end Verbose

end CopyOracle
