import CopyOracle.Answer.Reader
import CopyOracle.Proofs.Graph.Reader
import CopyOracle.Proofs.Text.Occurrence
/-!
# Labels and marks in a printed text

The dialect of a text and whether it claims a refusal are decided by marks, none of which has a
line end. So both can be told from the lines of the text: it claims a refusal exactly when a line
has a mark of one, and it is a labelled report exactly when a line has a mark of that. Texts with
the same lines therefore claim the same.
-/

namespace CopyOracle

/-- A size is read exactly from the numerals of 64-bit numbers. -/
theorem AnswerError.readSize_eq_ok_iff {line n : Nat} {token : Text} :
    readSize line token = .ok n ↔ Numeral.Denotes token n ∧ n < UInt64.size := by
  rw [← Numeral.readSize?_eq_some_iff, readSize]
  cases Numeral.readSize? token <;> simp

/-- A 64-bit word is read exactly from its numerals. -/
theorem AnswerError.readWord_eq_ok_iff {line : Nat} {token : Text} {word : UInt64} :
    readWord line token = .ok word ↔ Numeral.Denotes token word.toNat := by
  rw [← Numeral.readWord64?_eq_some_iff, readWord]
  cases Numeral.readWord64? token <;> simp

/-- The entries of a row of a report are read from the numerals of its line, whatever its number. -/
theorem Verbose.readEntries_eq_ok_iff {number : Nat} {row : Text} {entries : List UInt32} :
    readEntries number row = .ok entries ↔ ShowsRow entries row := by
  change (Compact.matrixFaults 0).readEntries ⟨number, row⟩ = .ok entries ↔ _
  exact MatrixFaults.readEntries_eq_ok_iff

/-- A text has one of the labels when it has a label as a stretch. -/
theorem containsAny_eq_true_iff {text : Text} {labels : List Text} :
    Verbose.containsAny text labels = true ↔ ∃ label ∈ labels, label <:+: text := by
  simp only [Verbose.containsAny, List.any_eq_true, Text.contains_eq_true_iff]

/-- A text without a character of each label has none of them. -/
theorem containsAny_eq_false {text : Text} {labels : List Text}
    (missing : ∀ label ∈ labels, ∃ c ∈ label, c ∉ text) :
    Verbose.containsAny text labels = false := by
  rw [Bool.eq_false_iff, ne_eq, containsAny_eq_true_iff]
  rintro ⟨label, member, occurs⟩
  obtain ⟨c, inside, absent⟩ := missing label member
  exact absent (occurs.subset inside)

/-- A text claims a refusal exactly when one of its lines has a mark of it. -/
theorem reportsNoSolution_eq_any (text : Text) : reportsNoSolution text =
    text.lines.any fun line => Verbose.containsAny line refusalMarks := by
  have whole : ∀ mark ∈ refusalMarks, mark ≠ [] ∧ ∀ c ∈ mark, c ≠ '\n' ∧ c ≠ '\r' := by decide
  rw [Bool.eq_iff_iff, reportsNoSolution, containsAny_eq_true_iff, List.any_eq_true]
  constructor
  · rintro ⟨mark, member, occurs⟩
    obtain ⟨nonempty, unbroken⟩ := whole mark member
    obtain ⟨line, listed, found⟩ := Text.exists_line_of_occurs nonempty unbroken occurs
    exact ⟨line, listed, containsAny_eq_true_iff.mpr ⟨mark, member, found⟩⟩
  · rintro ⟨line, listed, marked⟩
    obtain ⟨mark, member, found⟩ := containsAny_eq_true_iff.mp marked
    exact ⟨mark, member, found.trans ((Text.lines_inside text).1 line listed)⟩

/-- A text without a mark of refusal on any line claims no refusal. -/
theorem reportsNoSolution_eq_false {text : Text}
    (silent : ∀ line ∈ text.lines, Verbose.containsAny line refusalMarks = false) :
    reportsNoSolution text = false := by
  rw [reportsNoSolution_eq_any, List.any_eq_false]
  exact fun line listed => Bool.eq_false_iff.mp (silent line listed)

/-- A text without a mark of a report on any line is a bare answer. -/
theorem sniff_eq_compact {text : Text}
    (bare : ∀ line ∈ text.lines, Verbose.containsAny line Dialect.verboseMarks = false) :
    Dialect.sniff text = .compact := by
  rw [Dialect.sniff, if_neg]
  rw [List.any_eq_true]
  rintro ⟨line, listed, marked⟩
  rw [bare line listed] at marked
  contradiction

/-- A text with a mark of a report on a line is a report. -/
theorem sniff_eq_verbose {text line : Text} (listed : line ∈ text.lines)
    (marked : Verbose.containsAny line Dialect.verboseMarks = true) :
    Dialect.sniff text = .verbose := by
  rw [Dialect.sniff, if_pos]
  exact List.any_eq_true.mpr ⟨line, listed, marked⟩

/-- A text with a character that is not white space is not empty. -/
theorem trim_isEmpty_eq_false {text line : Text} (listed : line ∈ text.lines) {c : Char}
    (member : c ∈ line) (visible : Text.isBlank c = false) : text.trim.isEmpty = false := by
  rw [Bool.eq_false_iff, ne_eq, List.isEmpty_iff, Text.trim_eq_nil_iff]
  intro blank
  rw [blank c (Text.mem_of_mem_lines listed member)] at visible
  contradiction

/-- What a text claims depends on its lines alone, their numbers with them. -/
theorem Claim.read_of_lines {left right : Text} (same : left.lines = right.lines) (sizes : Sizes) :
    Claim.read sizes left = Claim.read sizes right := by
  have empty : left.trim.isEmpty = right.trim.isEmpty := by
    rw [Bool.eq_iff_iff, List.isEmpty_iff, List.isEmpty_iff, Text.trim_eq_nil_iff,
      Text.trim_eq_nil_iff, Text.blank_iff_lines, Text.blank_iff_lines, same]
  have dialect : Dialect.sniff left = Dialect.sniff right := by
    rw [Dialect.sniff, Dialect.sniff, same]
  have refusal : reportsNoSolution left = reportsNoSolution right := by
    rw [reportsNoSolution_eq_any, reportsNoSolution_eq_any, same]
  have numbered : left.numberedLines = right.numberedLines := by
    rw [Text.numberedLines, Text.numberedLines, same]
  rw [Claim.read, Claim.read, empty, dialect]
  cases Dialect.sniff right <;>
    simp only [Dialect.read, refusal, Verbose.read, Compact.read, numbered]

end CopyOracle
