import CopyOracle.Answer.Check
import CopyOracle.Proofs.Answer.ReportLine
import CopyOracle.Proofs.Text.Occurrence
/-!
# Which number is read as the cost

The cost of a report is read from the word behind the first cost label, but only the digits at the
front of the word are looked at, and what follows them in the word is dropped. So the cost is the
number that the whole word denotes exactly when the word has nothing but digits, and a word such as
`1e3` is read as the number before its first letter. A word that does not begin with a digit, or
whose digits leave the 64-bit word, is refused.

The reader trims the line before it looks for the label. A label neither begins nor ends with white
space, so the word behind it is the same on the line as it stands in the text.
-/

namespace CopyOracle

/-- A plus sign or nothing in front of no digits is no numeral. -/
theorem Numeral.not_denotes_nil (n : Nat) : ¬Denotes [] n := by
  rintro ⟨digits, same | same, nonempty, _⟩
  · exact nonempty same.symm
  · exact List.cons_ne_nil _ _ same.symm

namespace Verbose

/-- The word behind the first cost label of a text, on the first line that has one. -/
def costToken? (text : Text) : Option Text :=
  (text.lines.findSome? (afterLabel? · costLabels)).bind fun rest => rest.words.head?

/-- A word is taken for a cost by the digits at its front. -/
structure LeadsWith (token : Text) (cost : UInt64) : Prop where
  /-- The digits at the front denote the cost. -/
  digits : Numeral.Denotes (token.takeWhile Char.isDigit) cost.toNat
  /-- The whole word denotes the cost exactly when it has nothing but digits. -/
  whole : Numeral.Denotes token cost.toNat ↔ ∀ c ∈ token, c.isDigit = true

/-- The digits at the front are all of a word exactly when the word denotes the same number. -/
theorem LeadsWith.of_digits {token : Text} {cost : UInt64}
    (digits : Numeral.Denotes (token.takeWhile Char.isDigit) cost.toNat) :
    LeadsWith token cost where
  digits := digits
  whole := by
    constructor
    · rintro ⟨all, rfl | rfl, _, plain, _⟩
      · exact plain
      · exact absurd digits (Numeral.not_denotes_nil _)
    · intro plain
      rwa [List.takeWhile_eq_self_iff.mpr plain] at digits

/-- The words behind the first of some labels are the same on the trimmed line. -/
theorem map_words_afterLabel?_trim {labels : List Text} (solid : ∀ label ∈ labels, label.Trimmed)
    (line : Text) : (afterLabel? line.trim labels).map Text.words =
      (afterLabel? line labels).map Text.words := by
  induction labels with
  | nil => rfl
  | cons label labels ih =>
    have here := Text.map_words_after?_trim (solid label List.mem_cons_self) line
    have later := ih fun other member => solid other (List.mem_cons_of_mem label member)
    simp only [afterLabel?, List.findSome?_cons] at later ⊢
    cases found : line.after? label with
    | none =>
      rw [found, Option.map_none, Option.map_eq_none_iff] at here
      rw [here]
      exact later
    | some rest =>
      rw [found, Option.map_some, Option.map_eq_some_iff] at here
      obtain ⟨trimmed, shown, same⟩ := here
      rw [shown, Option.map_some, Option.map_some, same]

/-- The reader finds the word behind the first cost label, although it looks at trimmed lines. -/
theorem costToken?_eq (text : Text) : costToken? text =
    ((text.numberedLines.map Line.content).findSome? (afterLabel? · costLabels)).bind
      fun rest => rest.words.head? := by
  have solid : ∀ label ∈ costLabels, label.Trimmed := fun label member =>
    labels_trimmed label (List.mem_append_left _ (List.mem_append_left _ member))
  have same : ((text.lines.map Text.trim).findSome? (afterLabel? · costLabels)).map Text.words =
      (text.lines.findSome? (afterLabel? · costLabels)).map Text.words := by
    rw [List.findSome?_map, List.map_findSome?, List.map_findSome?]
    congr 1
    funext line
    exact map_words_afterLabel?_trim solid line
  rw [Text.numberedLines_map_content]
  exact (Option.bind_map.symm.trans (congrArg (Option.bind · List.head?) same.symm)).trans
    Option.bind_map

/-- The cost is read exactly where the digits at the front of the word behind the label denote
it. -/
theorem readCost_numberedLines_eq_ok_iff {text : Text} {cost : UInt64} :
    readCost text.numberedLines = .ok cost ↔
      ∃ token, costToken? text = some token ∧ LeadsWith token cost := by
  have digits_visible (c : Char) :
      decide (c.isDigit = true ∧ (!Text.isBlank c) = true) = c.isDigit := by
    cases digit : c.isDigit with
    | true => simp [Numeral.isBlank_of_isDigit digit]
    | false => simp
  have same (rest : Text) : (rest.trimStart.takeWhile fun c => !Text.isBlank c).takeWhile
      Char.isDigit = rest.trimStart.takeWhile Char.isDigit := by
    rw [List.takeWhile_takeWhile]
    simp only [digits_visible]
  rw [readCost_eq_ok_iff, costToken?_eq]
  constructor
  · rintro ⟨rest, labelled, digits⟩
    have something : rest.trimStart ≠ [] := by
      intro nothing
      rw [nothing] at digits
      exact Numeral.not_denotes_nil _ digits
    refine ⟨_, ?_, .of_digits ((same rest).symm ▸ digits)⟩
    rw [labelled, Option.bind_some, Text.head?_words, if_neg something]
  · rintro ⟨token, found, leads⟩
    obtain ⟨rest, labelled, first⟩ := Option.bind_eq_some_iff.mp found
    rw [Text.head?_words] at first
    split at first
    · exact nomatch first
    · obtain rfl := Option.some.inj first
      exact ⟨rest, labelled, same rest ▸ leads.digits⟩

/-- Where there is a cost label, the only fault of the cost is that it is no integer. -/
theorem readCost_eq_error {lines : List Line} {fault : AnswerError} {rest : Text}
    (labelled : (lines.map Line.content).findSome? (afterLabel? · costLabels) = some rest)
    (failed : readCost lines = .error fault) :
    ∃ number shown, fault = .invalidInteger number shown := by
  rw [List.findSome?_map] at labelled
  obtain ⟨line, listed, found⟩ := List.exists_of_findSome?_eq_some labelled
  rw [readCost] at failed
  split at failed
  · next unlabelled =>
    have absent := List.findSome?_eq_none_iff.mp unlabelled line listed
    rw [Option.map_eq_none_iff] at absent
    rw [Function.comp_apply, absent] at found
    contradiction
  · split at failed
    · exact ⟨_, _, (Except.error.inj failed).symm⟩
    · rw [AnswerError.readWord] at failed
      split at failed
      · contradiction
      · exact ⟨_, _, (Except.error.inj failed).symm⟩

/-- The cost of every report that is read is the number of the digits at the front of the word
behind the first cost label, and it is that of the whole word exactly when the word has nothing but
digits. A word without digits at its front, or with too large a number there, is refused as no
integer. -/
theorem cost_of_leading_digits (sizes : Sizes) (text : Text) :
    (∀ answer, Dialect.verbose.read sizes text = .ok (.found answer) →
      ∃ token, costToken? text = some token ∧ LeadsWith token answer.cost) ∧
    ∀ token, costToken? text = some token → reportsNoSolution text = false →
      (∀ cost, ¬LeadsWith token cost) →
      ∃ number shown, Dialect.verbose.read sizes text = .error (.invalidInteger number shown) := by
  constructor
  · intro answer read
    have priced := (ofLines_eq_ok_iff.mp (read_verbose_eq_found_iff.mp read).2).1
    exact readCost_numberedLines_eq_ok_iff.mp priced
  · intro token found silent senseless
    cases outcome : readCost text.numberedLines with
    | ok cost =>
      obtain ⟨other, shown, leads⟩ := readCost_numberedLines_eq_ok_iff.mp outcome
      obtain rfl := Option.some.inj (found.symm.trans shown)
      exact absurd leads (senseless cost)
    | error fault =>
      obtain ⟨rest, labelled, _⟩ := Option.bind_eq_some_iff.mp (costToken?_eq text ▸ found)
      obtain ⟨number, shown, rfl⟩ := readCost_eq_error labelled outcome
      refine ⟨number, shown, ?_⟩
      rw [Dialect.read, silent, if_neg Bool.false_ne_true, Verbose.read, ofLines, outcome]
      rfl

/-- A cost with a comma behind it is read without the comma, and one with a sign in front of it is
refused. -/
theorem cost_of_leading_digits_comma :
    let shown : Text := ("Mapowania:\nKopia 1: 0->0\n Koszt rozszerzenia:\t02, razem \n" ++
      "Rozszerzony graf:\n2\n").toList
    let signed : Text := "Extension cost: +2\nMappings:\nCopy 1: 0->0\nExtended graph:\n2\n".toList
    (∃ token answer, Dialect.verbose.read ⟨1, 1, 1⟩ shown = .ok (.found answer) ∧
      costToken? shown = some token ∧ LeadsWith token answer.cost ∧ token = "02,".toList) ∧
    costToken? signed = some "+2".toList ∧ reportsNoSolution signed = false ∧
    ∃ number text,
      Dialect.verbose.read ⟨1, 1, 1⟩ signed = .error (.invalidInteger number text) := by
  intro shown signed
  have read : Dialect.verbose.read ⟨1, 1, 1⟩ shown =
      .ok (.found ⟨.ofFn 1 fun _ _ => 2, some [⟨[some 0]⟩], 2⟩) := by decide +kernel
  have comma : costToken? shown = some "02,".toList := by decide +kernel
  have plus : costToken? signed = some "+2".toList := by decide +kernel
  have silent : reportsNoSolution signed = false := by decide +kernel
  obtain ⟨token, found, leads⟩ := (cost_of_leading_digits _ shown).1 _ read
  refine ⟨⟨token, _, read, found, leads, Option.some.inj (found.symm.trans comma)⟩, plus, silent,
    ?_⟩
  exact (cost_of_leading_digits _ signed).2 _ plus silent fun cost leads =>
    Numeral.not_denotes_nil _ leads.digits

/-- The word `1e3` is no integer, and the report is read with the cost one; the answer passes all
checks. -/
theorem cost_cut_short :
    let text : Text :=
      "Extension cost: 1e3\nMappings:\nCopy 1: 0->0\nExtended graph:\n1\n".toList
    let answer : Answer := ⟨.ofFn 1 fun _ _ => 1, some [⟨[some 0]⟩], 1⟩
    let problem : Case := ⟨.ofFn 1 fun _ _ => 1, .empty 1, 1, by decide, by decide⟩
    costToken? text = some "1e3".toList ∧ (∀ n, ¬Numeral.Denotes "1e3".toList n) ∧
      Dialect.verbose.read problem.sizes text = .ok (.found answer) ∧
      answer.check problem true = .ok 1 := by
  intro text answer problem
  refine ⟨by decide +kernel, fun n denotes => ?_, by decide +kernel, by decide +kernel⟩
  have plain := denotes.plain (c := 'e') (by decide)
  revert plain
  decide

end Verbose

end CopyOracle
