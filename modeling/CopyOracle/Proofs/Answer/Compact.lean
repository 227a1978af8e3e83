import CopyOracle.Proofs.Answer.Reader
/-!
# The language of bare answers

A bare answer is read from a text without a mark of refusal exactly when the lines that count are
the vertex count of the target, a line for each row, and the cost, all of them numerals, and
nothing else. A written answer has these lines, so it is read back with blank lines and
diagnostics put anywhere among its lines.
-/

namespace CopyOracle

namespace Compact

/-- Whether a trimmed line counts: it is neither blank nor a diagnostic. -/
def counts (content : Text) : Bool :=
  !content.isEmpty && !"ERROR".toList.isPrefixOf content && !"TIME_MS".toList.isPrefixOf content

/-- The trimmed lines of a text that count. -/
def contents (text : Text) : List Text := (text.lines.map Text.trim).filter counts

/-- The contents are a numeral of the vertex count, lines of numerals for the rows of the extended
graph, and a numeral of the cost. -/
inductive Shows (order : Nat) : Answer → List Text → Prop
  /-- The graph has so many vertices, a 64-bit number of them, and copies are not listed. -/
  | lines {extended : Graph} {cost : UInt64} {head last : Text} {rows : List Text}
    (vertices : extended.order = order) (bound : order < UInt64.size)
    (first : Numeral.Denotes head order) (matrix : List.Forall₂ ShowsRow extended.toRows rows)
    (price : Numeral.Denotes last cost.toNat) :
    Shows order ⟨extended, none, cost⟩ (head :: rows ++ [last])

/-- A bare answer has a graph of the given order and lists no copies. -/
theorem Shows.shape {order : Nat} {answer : Answer} {contents : List Text}
    (shows : Shows order answer contents) :
    answer.extended.order = order ∧ answer.copies = none := by
  cases shows with
  | lines vertices => exact ⟨vertices, rfl⟩

/-- A line that may stand anywhere: a blank one, or a diagnostic without a mark of a report or of
a refusal. -/
def Aside (line : Text) : Prop :=
  line.Blank ∨ ("ERROR".toList <+: line.trim ∨ "TIME_MS".toList <+: line.trim) ∧
    Verbose.containsAny line (Dialect.verboseMarks ++ refusalMarks) = false

/-- The contents of the numbered lines that count are the contents of the text. -/
theorem map_content_filter (text : Text) :
    (text.numberedLines.filter isContent).map Line.content = contents text := by
  rw [contents, ← Text.numberedLines_map_content, List.filter_map]
  rfl

/-- Lines from which an answer is read show it. -/
theorem shows_of_ofLines {order : Nat} {lines : List Line} {answer : Answer}
    (read : ofLines order lines = .ok answer) : Shows order answer (lines.map Line.content) := by
  cases lines with
  | nil => simp [ofLines] at read
  | cons line lines =>
    obtain ⟨printed, head, sized⟩ := bind_eq_ok_iff.mp read
    obtain ⟨denotes, bound⟩ := AnswerError.readSize_eq_ok_iff.mp head
    split at sized
    · contradiction
    · next same =>
      obtain rfl := not_ne_iff.mp same
      obtain ⟨⟨extended, rest⟩, matrix, ended⟩ := bind_eq_ok_iff.mp sized
      obtain ⟨vertices, front, rfl, rows⟩ := MatrixFaults.readGraph_eq_ok_iff.mp matrix
      cases rest with
      | nil => simp at ended
      | cons last later =>
        obtain ⟨cost, priced, alone⟩ := bind_eq_ok_iff.mp ended
        cases later with
        | cons extra later => simp at alone
        | nil =>
          obtain rfl := Except.ok.inj alone
          rw [List.map_cons, List.map_append, List.map_singleton]
          exact .lines vertices bound denotes (List.forall₂_map_right_iff.mpr rows)
            (AnswerError.readWord_eq_ok_iff.mp priced)

/-- An answer is read from lines that show it. -/
theorem ofLines_eq_of_shows {order : Nat} {lines : List Line} {answer : Answer}
    (shown : Shows order answer (lines.map Line.content)) : ofLines order lines = .ok answer := by
  generalize same : lines.map Line.content = contents at shown
  cases shown with
  | @lines extended cost head last rows vertices bound first matrix price =>
    obtain ⟨line, rest, rfl, rfl, later⟩ := List.map_eq_cons_iff.mp same
    obtain ⟨front, back, rfl, rfl, ended⟩ := List.map_eq_append_iff.mp later
    obtain ⟨final, rfl, rfl⟩ := List.map_eq_singleton_iff.mp ended
    have read : (matrixFaults order).readGraph order (front ++ [final]) =
        .ok (extended, [final]) :=
      MatrixFaults.readGraph_eq_ok_iff.mpr
        ⟨vertices, front, rfl, List.forall₂_map_right_iff.mp matrix⟩
    refine bind_eq_ok_iff.mpr ⟨order, AnswerError.readSize_eq_ok_iff.mpr ⟨first, bound⟩, ?_⟩
    rw [if_neg (not_not_intro rfl)]
    refine bind_eq_ok_iff.mpr ⟨(extended, [final]), read, ?_⟩
    exact bind_eq_ok_iff.mpr ⟨cost, AnswerError.readWord_eq_ok_iff.mpr price, rfl⟩

/-- The bare answer in a text is read exactly when its lines that count show the answer. -/
theorem read_eq_ok_iff {sizes : Sizes} {text : Text} {answer : Answer} :
    read sizes text = .ok answer ↔ Shows sizes.target answer (contents text) := by
  rw [read, ← map_content_filter]
  exact ⟨shows_of_ofLines, ofLines_eq_of_shows⟩

/-- A bare answer is found exactly when the text claims no refusal and its lines that count show
the answer. -/
theorem read_compact_eq_found_iff {sizes : Sizes} {text : Text} {answer : Answer} :
    Dialect.compact.read sizes text = .ok (.found answer) ↔
      reportsNoSolution text = false ∧ Shows sizes.target answer (contents text) := by
  rw [Dialect.read]
  cases reportsNoSolution text <;> simp [map_eq_ok_iff, read_eq_ok_iff]

/-- The lines of a written answer. -/
def writtenLines (extended : Graph) (cost : UInt64) : List Text :=
  Numeral.digits extended.order :: extended.toRows.map Graph.writeRow ++
    [Numeral.digits cost.toNat]

/-- A written line begins and ends with a digit and is made of digits and spaces. -/
theorem trimmed_of_mem_writtenLines {extended : Graph} {cost : UInt64} {line : Text}
    (member : line ∈ writtenLines extended cost) :
    line.Trimmed ∧ ∀ c ∈ line, c.isDigit = true ∨ c = ' ' := by
  have split : writtenLines extended cost =
      extended.writtenLines ++ [Numeral.digits cost.toNat] := rfl
  rw [split, List.mem_append, List.mem_singleton] at member
  rcases member with listed | rfl
  · exact Graph.trimmed_of_mem_writtenLines listed
  · exact ⟨Numeral.digits_trimmed _, fun _ digit => .inl (Numeral.isDigit_of_mem_digits digit)⟩

/-- The lines of a written answer are read back. -/
theorem lines_write (extended : Graph) (cost : UInt64) :
    (write extended cost).lines = writtenLines extended cost := by
  have unbroken : ∀ line ∈ writtenLines extended cost, ∀ c ∈ line, c ≠ '\n' ∧ c ≠ '\r' := by
    intro line member c inside
    exact Numeral.ne_lineEnd_of_plain ((trimmed_of_mem_writtenLines member).2 c inside)
  have written : write extended cost =
      (writtenLines extended cost).flatMap (· ++ ['\n']) ++ [] := by
    simp [write, Graph.write, writtenLines, List.flatMap_map]
  rw [written, Text.lines_flatMap unbroken, Text.lines, List.append_nil]

/-- A written line counts. -/
theorem counts_of_mem_writtenLines {extended : Graph} {cost : UInt64} {line : Text}
    (member : line ∈ writtenLines extended cost) : counts line = true := by
  obtain ⟨trimmed, plain⟩ := trimmed_of_mem_writtenLines member
  obtain ⟨c, rest, rfl, visible⟩ := trimmed.first
  have digit : c.isDigit = true := by
    refine (plain c List.mem_cons_self).resolve_right fun space => ?_
    rw [space] at visible
    contradiction
  have error : c ≠ 'E' := by
    rintro rfl
    contradiction
  have time : c ≠ 'T' := by
    rintro rfl
    contradiction
  simp [counts, List.isPrefixOf, error.symm, time.symm]

/-- A written answer shows itself. -/
theorem shows_writtenLines {extended : Graph} {cost : UInt64}
    (bound : extended.order < UInt64.size) :
    Shows extended.order ⟨extended, none, cost⟩ (writtenLines extended cost) := by
  refine .lines rfl bound (Numeral.denotes_digits _) ?_ (Numeral.denotes_digits _)
  rw [List.forall₂_map_right_iff, List.forall₂_same]
  exact fun row _ => Graph.showsRow_writeRow row

/-- A line aside does not count. -/
theorem Aside.counts_eq_false {line : Text} (aside : Aside line) : counts line.trim = false := by
  rcases aside with blank | ⟨error | time, _⟩
  · simp [counts, Text.trim_eq_nil_iff.mpr blank]
  · rw [counts, List.isPrefixOf_iff_prefix.mpr error, Bool.not_true, Bool.and_false,
      Bool.false_and]
  · rw [counts, List.isPrefixOf_iff_prefix.mpr time, Bool.not_true, Bool.and_false]

/-- A text of digits and white space has no mark of a report or of a refusal. -/
theorem containsAny_marks_eq_false {line : Text}
    (plain : ∀ c ∈ line, c.isDigit = true ∨ Text.isBlank c = true) :
    Verbose.containsAny line (Dialect.verboseMarks ++ refusalMarks) = false := by
  have telling : ∀ mark ∈ Dialect.verboseMarks ++ refusalMarks,
      ∃ c ∈ mark, ¬(c.isDigit = true ∨ Text.isBlank c = true) := by decide
  refine containsAny_eq_false fun mark member => ?_
  obtain ⟨c, inside, foreign⟩ := telling mark member
  exact ⟨c, inside, fun shown => foreign (plain c shown)⟩

section Interspersed

variable {extended : Graph} {cost : UInt64} {text : Text}

/-- No line has a mark of a report or of a refusal. -/
theorem unmarked_of_interspersed
    (shown : Text.Interspersed Aside (writtenLines extended cost) text.lines) :
    ∀ line ∈ text.lines,
      Verbose.containsAny line (Dialect.verboseMarks ++ refusalMarks) = false := by
  intro line listed
  rcases shown.line_cases listed with (blank | ⟨_, silent⟩) |
    ⟨content, member, before, after, front, back, rfl⟩
  · exact containsAny_marks_eq_false fun c inside => .inr (blank c inside)
  · exact silent
  · refine containsAny_marks_eq_false fun c inside => ?_
    rw [List.mem_append, List.mem_append] at inside
    rcases inside with (space | shown) | space
    · exact .inr (front c space)
    · refine ((trimmed_of_mem_writtenLines member).2 c shown).imp_right ?_
      rintro rfl
      rfl
    · exact .inr (back c space)

/-- The lines that count are the written ones. -/
theorem contents_of_interspersed
    (shown : Text.Interspersed Aside (writtenLines extended cost) text.lines) :
    contents text = writtenLines extended cost := by
  have trimmed : (writtenLines extended cost).map Text.trim = writtenLines extended cost :=
    (List.map_congr_left fun line member =>
      (trimmed_of_mem_writtenLines member).1.trim_eq).trans (List.map_id _)
  rw [contents, shown.filter_trim (fun line aside => aside.counts_eq_false), trimmed]
  intro line member
  rw [(trimmed_of_mem_writtenLines member).1.trim_eq]
  exact counts_of_mem_writtenLines member

end Interspersed

/-- In a text without a mark of refusal, a bare answer is found exactly when the lines that count
show it. So a graph and a cost are read back from their written lines, each with white space
around it, with blank lines and unmarked diagnostics among them. -/
theorem reads_shown_and_written (sizes : Sizes) :
    (∀ (text : Text) (answer : Answer), reportsNoSolution text = false →
      (Dialect.compact.read sizes text = .ok (.found answer) ↔
        Shows sizes.target answer (contents text))) ∧
    ∀ (graph : Graph) (cost : UInt64) (text : Text), graph.order = sizes.target →
      graph.order < UInt64.size → Text.Interspersed Aside (write graph cost).lines text.lines →
      Claim.read sizes text = .ok (.found ⟨graph, none, cost⟩) := by
  have found : ∀ (text : Text) (answer : Answer), reportsNoSolution text = false →
      (Dialect.compact.read sizes text = .ok (.found answer) ↔
        Shows sizes.target answer (contents text)) := by
    intro text answer silent
    simp [Dialect.read, silent, ← read_eq_ok_iff, map_eq_ok_iff]
  refine ⟨found, fun graph cost text vertices bound shown => ?_⟩
  rw [lines_write] at shown
  have unmarked := unmarked_of_interspersed shown
  simp only [Verbose.containsAny, List.any_append, Bool.or_eq_false_iff] at unmarked
  have silent := reportsNoSolution_eq_false fun line listed => (unmarked line listed).2
  have bare := sniff_eq_compact fun line listed => (unmarked line listed).1
  have visible : text.trim.isEmpty = false := by
    have first : Numeral.digits graph.order ∈ writtenLines graph cost := List.mem_cons_self
    obtain ⟨line, listed, occurs⟩ := shown.exists_line first
    obtain ⟨c, rest, same, seen⟩ := (trimmed_of_mem_writtenLines first).1.first
    exact trim_isEmpty_eq_false listed (occurs.subset (same ▸ List.mem_cons_self)) seen
  rw [Claim.read, visible, if_neg Bool.false_ne_true, bare, found text _ silent,
    contents_of_interspersed shown, ← vertices]
  exact shows_writtenLines bound

/-- Two vertices with seven edges each way are read back with diagnostics between the lines, and
a matrix with a plus sign and leading zeros is read too. -/
theorem reads_shown_and_written_pair :
    reportsNoSolution "ERROR: slow\n+01\n 007\n\n8".toList = false ∧
    Shows 1 ⟨.ofFn 1 fun _ _ => 7, none, 8⟩
      (contents "ERROR: slow\n+01\n 007\n\n8".toList) ∧
    (Graph.ofFn 2 fun u v => if u = v then 0 else 7).order = 2 ∧
    2 < UInt64.size ∧
    Text.Interspersed Aside (write (.ofFn 2 fun u v => if u = v then 0 else 7) 12).lines
      (Text.lines "TIME_MS: 4\n\n  2\r\n\t0 7\nERROR: late\n7 0  \n \n12".toList) ∧
    Claim.read ⟨1, 2, 3⟩ "TIME_MS: 4\n\n  2\r\n\t0 7\nERROR: late\n7 0  \n \n12".toList =
      .ok (.found ⟨.ofFn 2 fun u v => if u = v then 0 else 7, none, 12⟩) := by
  have shown : Text.Interspersed Aside (write (.ofFn 2 fun u v => if u = v then 0 else 7) 12).lines
      (Text.lines "TIME_MS: 4\n\n  2\r\n\t0 7\nERROR: late\n7 0  \n \n12".toList) := by
    have written : (write (.ofFn 2 fun u v => if u = v then 0 else 7) 12).lines =
        ["2".toList, "0 7".toList, "7 0".toList, "12".toList] := by decide +kernel
    have printed : Text.lines "TIME_MS: 4\n\n  2\r\n\t0 7\nERROR: late\n7 0  \n \n12".toList =
        ["TIME_MS: 4".toList, [], "  2".toList, "\t0 7".toList, "ERROR: late".toList,
          "7 0  ".toList, " ".toList, "12".toList] := by decide +kernel
    rw [written, printed]
    have none_blank : Text.Blank [] := by decide
    have gap : Text.Blank "  ".toList := by decide
    have tab : Text.Blank "\t".toList := by decide
    refine .other (.inr ⟨by decide, by decide⟩) (.other (.inl none_blank) ?_)
    refine .content gap none_blank (.content tab none_blank ?_)
    refine .other (.inr ⟨by decide, by decide⟩) (.content none_blank gap ?_)
    exact .other (.inl (by decide)) (.content none_blank none_blank .done)
  exact ⟨by decide, ((reads_shown_and_written ⟨1, 1, 1⟩).1 _ _ (by decide)).mp (by decide +kernel),
    rfl, by decide, shown, (reads_shown_and_written ⟨1, 2, 3⟩).2 _ _ _ rfl (by decide) shown⟩

end Compact

end CopyOracle

