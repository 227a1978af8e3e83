import CopyOracle.Case.Input
import CopyOracle.Proofs.Graph.Reader
import CopyOracle.Proofs.Text.Pieces
/-!
# The language of input files

`Case.Spells` is the grammar of an input file over the words of its lines: a vertex count and the
rows of each graph, and perhaps a number of copies. A text is read as a case exactly when the
words of its lines that are not blank spell the case. A written case spells itself, so it is read
back.
-/

namespace CopyOracle

/-- The words are numerals of the entries, in order. -/
def RowNumerals (entries : List UInt32) (tokens : List Text) : Prop :=
  List.Forall₂ (fun entry token => Numeral.Denotes token entry.toNat) entries tokens

namespace Graph

/-- The lines of words spell the graph: the numeral of its vertex count alone on a line, and a
line of numerals for each row. -/
inductive Spells : Graph → List (List Text) → Prop
  /-- The count is a 64-bit number. -/
  | lines {graph : Graph} {head : Text} {rows : List (List Text)}
    (count : Numeral.Denotes head graph.order) (bound : graph.order < UInt64.size)
    (matrix : List.Forall₂ RowNumerals graph.toRows rows) : Spells graph ([head] :: rows)

/-- A written graph with a 64-bit number of vertices spells itself. -/
theorem spells_writtenLines {graph : Graph} (bound : graph.order < UInt64.size) :
    Spells graph (graph.writtenLines.map Text.words) := by
  rw [writtenLines, List.map_cons, Numeral.words_digits]
  refine .lines (Numeral.denotes_digits _) bound ?_
  rw [List.forall₂_map_right_iff, List.forall₂_map_right_iff, List.forall₂_same]
  exact fun row _ => showsRow_writeRow row

end Graph

namespace Case

/-- The lines of words spell a number of copies, which is one when there is no line. -/
inductive SpellsCopies : UInt64 → List (List Text) → Prop
  /-- There is no line. -/
  | absent : SpellsCopies 1 []
  /-- The line is the numeral of the number. -/
  | line {copies : UInt64} {token : Text} (numeral : Numeral.Denotes token copies.toNat) :
    SpellsCopies copies [[token]]

/-- The lines of words spell the case: its pattern, its target, and its number of copies. -/
inductive Spells : Case → List (List Text) → Prop
  /-- One after the other, and nothing else. -/
  | lines {problem : Case} {pattern target copies : List (List Text)}
    (first : problem.pattern.Spells pattern) (second : problem.target.Spells target)
    (last : SpellsCopies problem.copies copies) : Spells problem (pattern ++ target ++ copies)

/-- The vertex counts are 64-bit numbers. -/
structure WordSized (problem : Case) : Prop where
  /-- That of the pattern. -/
  pattern : problem.pattern.order < UInt64.size
  /-- That of the target. -/
  target : problem.target.order < UInt64.size

/-- The words of some lines. -/
def tokens (lines : List Line) : List (List Text) := lines.map fun line => line.content.words

/-- The words of the lines that are not blank are those of the pieces that are not. -/
theorem tokens_contentLines (text : Text) : tokens text.contentLines = text.tokenLines := by
  rw [Text.tokenLines, ← Text.lines_map_trim_filter, ← Text.numberedLines_map_content,
    List.filter_map, List.map_map]
  rfl

/-- A count is read from exactly a line with its numeral alone. -/
theorem readCount_eq_ok_iff {line : Line} {count : Nat} : readCount line = .ok count ↔
    ∃ token, line.content.words = [token] ∧ Numeral.Denotes token count ∧ count < UInt64.size := by
  rw [readCount]
  split
  · next token alone =>
    rw [alone]
    simp only [List.cons.injEq, and_true, exists_eq_left', ← Numeral.readSize?_eq_some_iff]
    cases Numeral.readSize? token <;> simp
  · next other =>
    simp only [reduceCtorEq, false_iff]
    rintro ⟨token, alone, _⟩
    exact other token alone

/-- A graph is read exactly when the lines begin with lines that spell it. -/
theorem readGraph_eq_ok_iff {role : GraphRole} {lines rest : List Line} {graph : Graph} :
    readGraph role lines = .ok (graph, rest) ↔
      ∃ front, lines = front ++ rest ∧ graph.Spells (tokens front) := by
  cases lines with
  | nil =>
    simp only [readGraph, reduceCtorEq, List.nil_eq, List.append_eq_nil_iff, false_iff]
    rintro ⟨front, ⟨rfl, _⟩, spelled⟩
    cases spelled
  | cons line later =>
    simp only [readGraph, bind_eq_ok_iff, readCount_eq_ok_iff, MatrixFaults.readGraph_eq_ok_iff]
    constructor
    · rintro ⟨_, ⟨token, alone, count, bound⟩, rfl, front, rfl, shown⟩
      refine ⟨line :: front, rfl, ?_⟩
      rw [tokens, List.map_cons, alone]
      exact .lines count bound (List.forall₂_map_right_iff.mpr shown)
    · rintro ⟨front, split, spelled⟩
      generalize same : tokens front = words at spelled
      cases spelled with
      | @lines head rows count bound matrix =>
        obtain ⟨first, front, rfl, alone, rfl⟩ := List.map_eq_cons_iff.mp same
        obtain ⟨rfl, rfl⟩ := List.cons.inj split
        have shown := List.forall₂_map_right_iff.mp matrix
        exact ⟨graph.order, ⟨head, alone, count, bound⟩, rfl, front, rfl, shown⟩

/-- A number of copies is read from exactly the lines that spell it. -/
theorem readCopies_eq_ok_iff {lines : List Line} {count : Nat} : readCopies lines = .ok count ↔
    ∃ copies : UInt64, copies.toNat = count ∧ SpellsCopies copies (tokens lines) := by
  rcases lines with _ | ⟨line, _ | ⟨extra, later⟩⟩
  · simp only [readCopies, Except.ok.injEq]
    constructor
    · rintro rfl
      exact ⟨1, rfl, .absent⟩
    · rintro ⟨copies, rfl, spelled⟩
      cases spelled
      rfl
  · rw [readCopies, readCount_eq_ok_iff]
    constructor
    · rintro ⟨token, alone, numeral, bound⟩
      have value : (UInt64.ofNat count).toNat = count := UInt64.toNat_ofNat_of_lt' bound
      refine ⟨.ofNat count, value, ?_⟩
      rw [tokens, List.map_singleton, alone]
      exact .line (value.symm ▸ numeral)
    · rintro ⟨copies, rfl, spelled⟩
      generalize same : tokens [line] = words at spelled
      cases spelled with
      | absent => contradiction
      | line numeral => exact ⟨_, (List.cons.inj same).1, numeral, copies.toNat_lt⟩
  · simp only [readCopies, bind_eq_ok_iff, reduceCtorEq, and_false, exists_false, false_iff]
    rintro ⟨copies, _, spelled⟩
    generalize same : tokens (line :: extra :: later) = words at spelled
    have counted := congrArg List.length same
    cases spelled <;> simp [tokens] at counted

/-- A case is made exactly of its own parts. -/
theorem make_eq_ok_iff {pattern target : Graph} {copies : UInt64} {problem : Case} :
    make pattern target copies = .ok problem ↔
      problem.pattern = pattern ∧ problem.target = target ∧ problem.copies = copies := by
  rw [make]
  constructor
  · intro made
    split at made
    · split at made
      · obtain rfl := Except.ok.inj made
        exact ⟨rfl, rfl, rfl⟩
      · contradiction
    · contradiction
  · rintro ⟨rfl, rfl, rfl⟩
    rw [dif_pos problem.pattern_nonempty, dif_pos problem.copies_positive]

/-- A case is read from exactly the lines that spell it. -/
theorem ofLines_eq_ok_iff {lines : List Line} {problem : Case} :
    ofLines lines = .ok problem ↔ problem.Spells (tokens lines) := by
  have parts : ofLines lines = .ok problem ↔
      ∃ pattern rest, readGraph .pattern lines = .ok (pattern, rest) ∧
      ∃ target last, readGraph .target rest = .ok (target, last) ∧
      ∃ copies, readCopies last = .ok copies ∧
        make pattern target (.ofNat copies) = .ok problem := by
    cases lines with
    | nil => simp [ofLines, readGraph]
    | cons line later => simp only [ofLines, bind_eq_ok_iff, Prod.exists]
  simp only [parts, readGraph_eq_ok_iff, readCopies_eq_ok_iff, make_eq_ok_iff]
  constructor
  · rintro ⟨_, _, ⟨front, rfl, first⟩, _, last, ⟨middle, rfl, second⟩, _, ⟨copies, rfl, third⟩,
      rfl, rfl, same⟩
    rw [UInt64.ofNat_toNat] at same
    subst same
    rw [tokens, List.map_append, List.map_append, ← List.append_assoc]
    exact .lines first second third
  · intro spelled
    generalize same : tokens lines = words at spelled
    cases spelled with
    | lines first second third =>
      obtain ⟨joined, last, rfl, both, rfl⟩ := List.map_eq_append_iff.mp same
      obtain ⟨front, middle, rfl, rfl, rfl⟩ := List.map_eq_append_iff.mp both
      refine ⟨_, middle ++ last, ⟨front, List.append_assoc .., first⟩, _, last,
        ⟨middle, rfl, second⟩, problem.copies.toNat, ⟨problem.copies, rfl, third⟩, rfl, rfl, ?_⟩
      rw [UInt64.ofNat_toNat]

/-- A text holds a case exactly when the words of its lines spell the case. -/
theorem read_eq_ok_iff {text : Text} {problem : Case} :
    read text = .ok problem ↔ problem.Spells text.tokenLines := by
  rw [read, ofLines_eq_ok_iff, tokens_contentLines]

/-- A case that was read has 64-bit vertex counts. -/
theorem Spells.wordSized {problem : Case} {words : List (List Text)}
    (spelled : problem.Spells words) : problem.WordSized := by
  cases spelled with
  | lines first second _ =>
    cases first with
    | lines _ patternBound _ =>
      cases second with
      | lines _ targetBound _ => exact ⟨patternBound, targetBound⟩

/-- The lines of a written case. -/
def writtenLines (problem : Case) : List Text :=
  problem.pattern.writtenLines ++ problem.target.writtenLines ++
    [Numeral.digits problem.copies.toNat]

/-- A line of a written case begins and ends with a digit and is made of digits and spaces. -/
theorem trimmed_of_mem_writtenLines {problem : Case} {line : Text}
    (member : line ∈ problem.writtenLines) :
    line.Trimmed ∧ ∀ c ∈ line, c.isDigit = true ∨ c = ' ' := by
  rw [writtenLines, List.mem_append, List.mem_append, List.mem_singleton] at member
  rcases member with (listed | listed) | rfl
  · exact Graph.trimmed_of_mem_writtenLines listed
  · exact Graph.trimmed_of_mem_writtenLines listed
  · exact ⟨Numeral.digits_trimmed _, fun _ digit => .inl (Numeral.isDigit_of_mem_digits digit)⟩

/-- The lines of a written case are read back. -/
theorem lines_write (problem : Case) : problem.write.lines = problem.writtenLines := by
  have unbroken : ∀ line ∈ problem.writtenLines, ∀ c ∈ line, c ≠ '\n' ∧ c ≠ '\r' := by
    intro line member c inside
    exact Numeral.ne_lineEnd_of_plain ((trimmed_of_mem_writtenLines member).2 c inside)
  have written : problem.write = problem.writtenLines.flatMap (· ++ ['\n']) ++ [] := by
    simp [write, Graph.write_eq_flatMap, writtenLines]
  rw [written, Text.lines_flatMap unbroken, Text.lines, List.append_nil]

/-- A written case spells itself. -/
theorem spells_write {problem : Case} (sized : problem.WordSized) :
    problem.Spells problem.write.tokenLines := by
  rw [Text.tokenLines, Text.contents_eq_map_trim problem.lines_write
    fun line member => (trimmed_of_mem_writtenLines member).1, writtenLines, List.map_append,
    List.map_append, List.map_singleton, Numeral.words_digits]
  exact .lines (Graph.spells_writtenLines sized.pattern) (Graph.spells_writtenLines sized.target)
    (.line (Numeral.denotes_digits _))

/-- What was written for a case with 64-bit vertex counts is read as the case. -/
theorem read_write {problem : Case} (sized : problem.WordSized) :
    read problem.write = .ok problem :=
  read_eq_ok_iff.mpr (spells_write sized)

/-- An input file is a case exactly when the words of its lines that are not blank spell the case,
so white space and blank lines do not matter. -/
theorem parse_eq_ok_iff_spells :
    (∀ (text : String) (problem : Case),
      parse text = .ok problem ↔ problem.Spells (Text.tokenLines text.toList)) ∧
    ∀ left right : String, Text.tokenLines left.toList = Text.tokenLines right.toList →
      ∀ problem : Case, parse left = .ok problem ↔ parse right = .ok problem := by
  refine ⟨fun text problem => read_eq_ok_iff, fun left right same problem => ?_⟩
  rw [parse, parse, read_eq_ok_iff, read_eq_ok_iff, same]

/-- A loop that is asked for once in an edgeless target is read from its shortest text and from one
with signs, blank lines, carriage returns and a wide space. -/
theorem parse_eq_ok_iff_spells_loop :
    Text.tokenLines "1\n+07\n2\n0 0\n0 0".toList =
      Text.tokenLines " 1\r\n\n\u3000+07\n\t\n2 \r\n0\u00a00\n \n0  0\n\n".toList ∧
    parse " 1\r\n\n\u3000+07\n\t\n2 \r\n0\u00a00\n \n0  0\n\n" =
      .ok ⟨.ofFn 1 fun _ _ => 7, .ofFn 2 fun _ _ => 0, 1, by decide, by decide⟩ := by
  have same : Text.tokenLines "1\n+07\n2\n0 0\n0 0".toList =
      Text.tokenLines " 1\r\n\n\u3000+07\n\t\n2 \r\n0\u00a00\n \n0  0\n\n".toList := by
    decide +kernel
  exact ⟨same, (parse_eq_ok_iff_spells.2 _ _ same _).mp (by decide +kernel)⟩

/-- Every case with 64-bit vertex counts is one that is made of two graphs and a number, its input
file is read as the case, and the bytes written piece by piece are those of the file. -/
theorem parse_render (problem : Case) (sized : problem.WordSized) :
    make problem.pattern problem.target problem.copies = .ok problem ∧
      parse problem.render = .ok problem ∧ problem.inputBytes = problem.render.toUTF8 := by
  refine ⟨make_eq_ok_iff.mpr ⟨rfl, rfl, rfl⟩, ?_, ?_⟩
  · rw [parse, render, String.toList_ofList, read_write sized]
  · have lineEnd : "\n" = String.ofList ['\n'] := rfl
    simp only [inputBytes, render, write, String.toUTF8, String.ofList_append,
      String.toByteArray_append, lineEnd]

/-- The largest entry, an empty target and the largest number of copies are read back. -/
theorem parse_render_largest :
    WordSized ⟨.ofFn 2 fun u _ => if u = 0 then 4294967295 else 0, .empty 0,
      18446744073709551615, by decide, by decide⟩ ∧
    parse "2\n4294967295 4294967295\n0 0\n0\n18446744073709551615\n" =
      .ok ⟨.ofFn 2 fun u _ => if u = 0 then 4294967295 else 0, .empty 0,
        18446744073709551615, by decide, by decide⟩ := by
  have sized : WordSized ⟨.ofFn 2 fun u _ => if u = 0 then 4294967295 else 0, .empty 0,
      18446744073709551615, by decide, by decide⟩ := ⟨by decide, by decide⟩
  have written : render ⟨.ofFn 2 fun u _ => if u = 0 then 4294967295 else 0, .empty 0,
      18446744073709551615, by decide, by decide⟩ =
      "2\n4294967295 4294967295\n0 0\n0\n18446744073709551615\n" := by decide +kernel
  exact ⟨sized, written ▸ (parse_render _ sized).2.1⟩

end Case

end CopyOracle
