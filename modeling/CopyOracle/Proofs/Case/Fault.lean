import CopyOracle.Proofs.Case.Input
import CopyOracle.Proofs.Text.Occurrence
/-!
# Where an input file is refused

The reader of an input file goes through the lines once. `Streams` says so of the reader of a part:
its value is decided by the lines that it takes, and a fault that it finds on a line by the lines
up to that one, whatever follows. Readers that follow each other keep this, so an error with the
number of a line points at the first problem of the file, and the lines before it show none.
-/

namespace CopyOracle

/-- The number of the line that an error points at. -/
def InputError.line? : InputError → Option Nat
  | .invalidInteger line _ | .invalidCount line | .rowLength line _ _ _ _
  | .trailingContent line => some line
  | .empty | .truncated _ | .emptyPattern | .zeroCopies => none

/-- An error points at the line, and quotes no word but one of the line. -/
structure Line.Shows (line : Line) (error : InputError) : Prop where
  /-- The error has the number of the line. -/
  number : error.line? = some line.number
  /-- A word that is no numeral is a word of the line. -/
  token : ∀ number token, error = .invalidInteger number token →
    token.toList ∈ line.content.words

namespace Case

variable {α β : Type}

/-- Where the reader fails at a line, it fails so on all lines that begin with those up to that
one, which shows the error. -/
def Stops (read : List Line → Except InputError α) : Prop :=
  ∀ lines error, read lines = .error error → error.line? ≠ none →
    ∃ front line, front ++ [line] <+: lines ∧ line.Shows error ∧
      ∀ other, front ++ [line] <+: other → read other = .error error

/-- The reader takes lines from the front, and neither its value nor a fault at a line depends on
what follows. -/
structure Streams (read : List Line → Except InputError (α × List Line)) : Prop where
  /-- A value is decided by the lines that are taken. -/
  takes : ∀ lines value rest, read lines = .ok (value, rest) →
    ∃ front, lines = front ++ rest ∧ ∀ other, read (front ++ other) = .ok (value, other)
  /-- A fault at a line is decided by the lines up to it. -/
  stops : Stops read

/-- Reads with one reader, and then with another one the lines that are left. -/
def inOrder (first : List Line → Except InputError (α × List Line))
    (next : α → List Line → Except InputError β) (lines : List Line) : Except InputError β :=
  first lines >>= fun taken => next taken.1 taken.2

/-- A fault of the second reader is decided by what the first one takes and the lines up to the
fault. -/
theorem Stops.inOrder {first : List Line → Except InputError (α × List Line)}
    {next : α → List Line → Except InputError β} (streams : Streams first)
    (stops : ∀ value, Stops (next value)) : Stops (inOrder first next) := by
  intro lines error failed located
  rcases bind_eq_error_iff.mp failed with read | ⟨⟨value, rest⟩, read, later⟩
  · obtain ⟨front, line, begins, shown, decided⟩ := streams.stops lines error read located
    exact ⟨front, line, begins, shown,
      fun other same => bind_eq_error_iff.mpr (.inl (decided other same))⟩
  · obtain ⟨front, rfl, again⟩ := streams.takes lines value rest read
    obtain ⟨between, line, begins, shown, decided⟩ := stops value rest error later located
    refine ⟨front ++ between, line, ?_, shown, ?_⟩
    · rwa [List.append_assoc, List.prefix_append_right_inj]
    · rintro other ⟨more, rfl⟩
      have taken : first (front ++ between ++ [line] ++ more) =
          .ok (value, between ++ [line] ++ more) := by
        rw [List.append_assoc front, List.append_assoc front, again]
      exact bind_eq_error_iff.mpr
        (.inr ⟨_, taken, decided _ (List.prefix_append (between ++ [line]) more)⟩)

/-- Two readers in order take the lines of the first and then those of the second. -/
theorem Streams.inOrder {first : List Line → Except InputError (α × List Line)}
    {next : α → List Line → Except InputError (β × List Line)} (streams : Streams first)
    (later : ∀ value, Streams (next value)) : Streams (inOrder first next) where
  takes lines value rest made := by
    obtain ⟨⟨middle, behind⟩, read, followed⟩ := bind_eq_ok_iff.mp made
    obtain ⟨front, rfl, again⟩ := streams.takes lines middle behind read
    obtain ⟨between, rfl, once⟩ := (later middle).takes behind value rest followed
    refine ⟨front ++ between, (List.append_assoc _ _ _).symm, fun other => ?_⟩
    exact bind_eq_ok_iff.mpr ⟨_, by rw [List.append_assoc, again], once other⟩
  stops := .inOrder streams fun value => (later value).stops

/-- A value without lines. -/
theorem Streams.pure (value : α) : Streams fun lines => .ok (value, lines) where
  takes lines made rest same := by
    obtain ⟨rfl, rfl⟩ := Prod.mk.inj (Except.ok.inj same)
    exact ⟨[], rfl, fun _ => rfl⟩
  stops := fun _ _ failed => nomatch failed

/-- Reads the first of the lines; there is an error when there is none. -/
def readFirst (missing : InputError) (read : Line → Except InputError α) :
    List Line → Except InputError (α × List Line)
  | [] => .error missing
  | line :: later => (read line).map (·, later)

/-- What is read of the first line is decided by that line. -/
theorem streams_readFirst {missing : InputError} (unlocated : missing.line? = none)
    {read : Line → Except InputError α} (shown : ∀ line, FailsOnly line.Shows (read line)) :
    Streams (readFirst missing read) where
  takes lines value rest made := by
    cases lines with
    | nil => contradiction
    | cons line later =>
      obtain ⟨found, one, same⟩ := map_eq_ok_iff.mp made
      obtain ⟨rfl, rfl⟩ := Prod.mk.inj same
      exact ⟨[line], rfl, fun other => map_eq_ok_iff.mpr ⟨found, one, rfl⟩⟩
  stops := by
    intro lines error failed located
    cases lines with
    | nil =>
      obtain rfl := Except.error.inj failed
      contradiction
    | cons line later =>
      have one : read line = .error error := by
        cases outcome : read line with
        | ok value => simp [readFirst, outcome, Except.map] at failed
        | error fault =>
          rw [readFirst, outcome] at failed
          rw [Except.error.inj failed]
      refine ⟨[], line, List.prefix_append [line] later, shown line error one, ?_⟩
      rintro other ⟨more, rfl⟩
      rw [List.nil_append, List.singleton_append, readFirst, one]
      rfl

/-- The line of a count shows what is wrong with it. -/
theorem readCount_failsOnly (line : Line) : FailsOnly line.Shows (readCount line) := by
  rw [readCount]
  split
  · next token alone =>
    split
    · exact .ok _
    · refine .error ⟨rfl, fun _ quoted same => ?_⟩
      obtain ⟨rfl, rfl⟩ := InputError.invalidInteger.inj same
      rw [String.toList_ofList, alone]
      exact List.mem_singleton_self token
  · exact .error ⟨rfl, fun _ _ same => by cases same⟩

/-- The line of a row shows what is wrong with it. -/
theorem readRow_failsOnly (role : GraphRole) (order row : Nat) (line : Line) :
    FailsOnly line.Shows ((matrixFaults role).readRow order row line) := by
  refine .bind (.mapM fun token listed => ?_) fun entries => ?_
  · split
    · exact .ok _
    · refine .error ⟨rfl, fun _ quoted same => ?_⟩
      obtain ⟨-, rfl⟩ := InputError.invalidInteger.inj same
      rwa [String.toList_ofList]
  · split
    · exact .ok _
    · exact .error ⟨rfl, fun _ _ same => by cases same⟩

/-- The rows of a matrix are read line by line. -/
theorem streams_readRows (role : GraphRole) (order count row : Nat) :
    Streams ((matrixFaults role).readRows order count row) := by
  induction count generalizing row with
  | zero => exact .pure _
  | succ count ih =>
    have steps : (matrixFaults role).readRows order (count + 1) row =
        inOrder (readFirst (.truncated (.row role row)) ((matrixFaults role).readRow order row))
          fun entries => inOrder ((matrixFaults role).readRows order count (row + 1))
            fun rows lines => .ok (⟨entries :: rows.val, by simp [rows.property]⟩, lines) := by
      funext lines
      cases lines with
      | nil => rfl
      | cons line later =>
        simp only [MatrixFaults.readRows, inOrder, readFirst]
        cases (matrixFaults role).readRow order row line <;> rfl
    rw [steps]
    exact .inOrder (streams_readFirst rfl (readRow_failsOnly role order row)) fun entries =>
      .inOrder (ih (row + 1)) fun rows => .pure _

/-- A graph is read line by line. -/
theorem streams_readGraph (role : GraphRole) : Streams (readGraph role) := by
  have steps : readGraph role =
      inOrder (readFirst (.truncated (.vertexCount role)) readCount) fun order =>
        inOrder ((matrixFaults role).readRows order order 0) fun rows lines =>
          .ok (⟨order, ⟨rows.val.toArray, by simp [rows.property]⟩⟩, lines) := by
    funext lines
    cases lines with
    | nil => rfl
    | cons line later =>
      simp only [readGraph, inOrder, readFirst]
      cases readCount line <;> rfl
  rw [steps]
  exact .inOrder (streams_readFirst rfl readCount_failsOnly) fun order =>
    .inOrder (streams_readRows role order order 0) fun rows => .pure _

/-- The number of copies is read from a last line. -/
theorem stops_readCopies : Stops readCopies := by
  intro lines error failed located
  match lines with
  | [] => contradiction
  | [line] =>
    refine ⟨[], line, List.prefix_rfl, readCount_failsOnly line error failed, ?_⟩
    rintro other ⟨more, rfl⟩
    cases more with
    | nil => exact failed
    | cons extra later => exact bind_eq_error_iff.mpr (.inl failed)
  | line :: extra :: later =>
    rcases bind_eq_error_iff.mp failed with counted | ⟨count, counted, trailing⟩
    · refine ⟨[], line, List.prefix_append [line] _, readCount_failsOnly line error counted, ?_⟩
      rintro other ⟨more, rfl⟩
      cases more with
      | nil => exact counted
      | cons next rest => exact bind_eq_error_iff.mpr (.inl counted)
    · obtain rfl := Except.error.inj trailing
      refine ⟨[line], extra, List.prefix_append [line, extra] later, ?_, ?_⟩
      · exact ⟨rfl, fun _ _ same => by cases same⟩
      · rintro other ⟨more, rfl⟩
        exact bind_eq_error_iff.mpr (.inr ⟨count, counted, rfl⟩)

/-- Making a case fails at no line. -/
theorem make_failsOnly (pattern target : Graph) (copies : UInt64) :
    FailsOnly (fun error => error.line? = none) (make pattern target copies) := by
  rw [make]
  split
  · split
    · exact .ok _
    · exact .error rfl
  · exact .error rfl

/-- What is made of a value fails at no line, so it changes no fault at a line. -/
theorem Stops.andThen {read : List Line → Except InputError α} {make : α → Except InputError β}
    (stops : Stops read)
    (made : ∀ value, FailsOnly (fun error => error.line? = none) (make value)) :
    Stops fun lines => read lines >>= make := by
  intro lines error failed located
  rcases bind_eq_error_iff.mp failed with here | ⟨value, _, later⟩
  · obtain ⟨front, line, begins, shown, decided⟩ := stops lines error here located
    exact ⟨front, line, begins, shown,
      fun other same => bind_eq_error_iff.mpr (.inl (decided other same))⟩
  · exact absurd (made value error later) located

/-- A case is refused at a line for the lines up to that one. -/
theorem stops_ofLines : Stops ofLines := by
  have parts : Stops (inOrder (readGraph .pattern) fun pattern =>
      inOrder (readGraph .target) fun target lines =>
        readCopies lines >>= fun copies => make pattern target (.ofNat copies)) :=
    .inOrder (streams_readGraph .pattern) fun pattern => .inOrder (streams_readGraph .target)
      fun target => stops_readCopies.andThen fun copies => make_failsOnly pattern target _
  intro lines error failed located
  cases lines with
  | nil =>
    obtain rfl := Except.error.inj failed
    contradiction
  | cons head later =>
    obtain ⟨front, line, begins, shown, decided⟩ := parts (head :: later) error failed located
    refine ⟨front, line, begins, shown, ?_⟩
    rintro other ⟨more, rfl⟩
    have nonempty : front ++ [line] ++ more ≠ [] := by simp
    obtain ⟨next, rest, same⟩ := List.exists_cons_of_ne_nil nonempty
    have refused := decided _ (List.prefix_append (front ++ [line]) more)
    rw [same] at refused ⊢
    exact refused

end Case

namespace Text

/-- Trimmed lines with their places, counted from one. -/
def numbered (contents : List Text) : List Line :=
  (contents.zipIdx 1).map fun (content, number) => ⟨number, content⟩

/-- The lines of a text are numbered after trimming. -/
theorem numberedLines_eq (text : Text) : numberedLines text = numbered ((lines text).map trim) := by
  rw [numberedLines, numbered, List.zipIdx_map, List.map_map]
  rfl

/-- What stands further on does not change numbers. -/
theorem numbered_front {contents others : List Text} (begins : contents <+: others) :
    numbered contents <+: numbered others := by
  obtain ⟨more, rfl⟩ := begins
  rw [numbered, numbered, List.zipIdx_append, List.map_append]
  exact List.prefix_append _ _

/-- One more line has the next number. -/
theorem numbered_concat (contents : List Text) (last : Text) :
    numbered (contents ++ [last]) = numbered contents ++ [⟨contents.length + 1, last⟩] := by
  rw [numbered, numbered, List.zipIdx_append, List.map_append, Nat.add_comm 1]
  rfl

/-- A numbered line stands at its number. -/
theorem eq_of_numbered {contents : List Text} {front later : List Line} {line : Line}
    (split : numbered contents = front ++ line :: later) : ∃ before after,
      contents = before ++ line.content :: after ∧ line.number = before.length + 1 ∧
        front = numbered before := by
  obtain ⟨places, rest, cut, rfl, tail⟩ := List.map_eq_append_iff.mp split
  obtain ⟨⟨content, number⟩, last, rfl, rfl, -⟩ := List.map_eq_cons_iff.mp tail
  obtain ⟨before, behind, rfl, rfl, same⟩ := List.zipIdx_eq_append_iff.mp cut
  cases behind with
  | nil => contradiction
  | cons first after =>
    rw [List.zipIdx_cons] at same
    obtain ⟨rfl, rfl⟩ := Prod.mk.inj (List.cons.inj same).1
    exact ⟨before, after, rfl, Nat.add_comm _ _, rfl⟩

/-- Content lines up to one of them are those of every text that has the same lines up to it,
white space at their ends apart. -/
theorem exists_line_of_contentLines {text : Text} {front : List Line} {line : Line}
    (begins : front ++ [line] <+: contentLines text) : ∃ before raw after,
      lines text = before ++ raw :: after ∧ line = ⟨before.length + 1, trim raw⟩ ∧
      ¬Blank raw ∧ ∀ other, (before ++ [raw]).map trim <+: (lines other).map trim →
        front ++ [line] <+: contentLines other := by
  obtain ⟨more, same⟩ := begins
  rw [List.append_assoc, List.singleton_append, contentLines] at same
  obtain ⟨early, late, cut, kept, rest⟩ := List.filter_eq_append_iff.mp same.symm
  obtain ⟨blank, later, rfl, dropped, visible, -⟩ := List.filter_eq_cons_iff.mp rest
  rw [numberedLines_eq, ← List.append_assoc] at cut
  obtain ⟨contents, after, split, number, places⟩ := eq_of_numbered cut
  obtain ⟨before, tail, shape, rfl, raws⟩ := List.map_eq_append_iff.mp split
  obtain ⟨raw, behind, rfl, content, -⟩ := List.map_eq_cons_iff.mp raws
  have located : line = ⟨before.length + 1, trim raw⟩ := by
    rw [content, ← List.length_map trim, ← number]
  refine ⟨before, raw, behind, shape, located, ?_, fun other agrees => ?_⟩
  · rw [← trim_eq_nil_iff, content]
    simpa [Line.isEmpty] using visible
  · have upTo : (numbered ((before ++ [raw]).map trim)).filter (fun line => !line.isEmpty) =
        front ++ [line] := by
      have silent : blank.filter (fun line => !line.isEmpty) = [] :=
        List.filter_eq_nil_iff.mpr dropped
      have own : [line].filter (fun line => !line.isEmpty) = [line] :=
        List.filter_eq_self.mpr (by simpa using visible)
      rw [List.map_append, List.map_singleton, numbered_concat, List.length_map, ← located,
        ← places, List.filter_append, List.filter_append, kept, silent, own, List.append_nil]
    rw [← upTo, contentLines, numberedLines_eq]
    exact (numbered_front agrees).filter _

end Text

namespace Case

/-- An error shown on the line after the given ones, and decided by these lines. -/
structure ShownAfter (before : List Text) (line : Text) (error : InputError) : Prop where
  /-- The line is not blank. -/
  visible : ¬Text.Blank line
  /-- A word that is quoted as no numeral is one of the line. -/
  token : ∀ number token, error = .invalidInteger number token → token.toList ∈ line.words
  /-- Every text with the same lines up to this one is refused with the same error, white space at
  the ends of the lines apart. -/
  decided : ∀ other : String,
    (before ++ [line]).map Text.trim <+: (Text.lines other.toList).map Text.trim →
      parse other = .error error

/-- An error with the number of a line is shown on that line. -/
theorem exists_shownAfter {text : String} {error : InputError} {number : Nat}
    (refused : parse text = .error error) (located : error.line? = some number) :
    ∃ before line after, Text.lines text.toList = before ++ line :: after ∧
      number = before.length + 1 ∧ ShownAfter before line error := by
  obtain ⟨front, line, begins, shown, decided⟩ :=
    stops_ofLines (Text.contentLines text.toList) error refused (by simp [located])
  obtain ⟨before, raw, after, split, rfl, visible, agrees⟩ :=
    Text.exists_line_of_contentLines begins
  have same : some number = some (before.length + 1) := located.symm.trans shown.number
  refine ⟨before, raw, after, split, Option.some.inj same, visible, fun _ token quoted => ?_,
    fun other upTo => decided _ (agrees other.toList upTo)⟩
  rw [← Text.words_trim]
  exact shown.token _ token quoted

/-- An error with the number of a line points at the first problem of the file: the line exists and
shows it, every text that agrees up to that line is refused with the same error, and a text of
the lines before it alone is refused at no line. -/
theorem error_points_at {text : String} {error : InputError} {number : Nat}
    (refused : parse text = .error error) (located : error.line? = some number) :
    ∃ before line after, Text.lines text.toList = before ++ line :: after ∧
      number = before.length + 1 ∧ ShownAfter before line error ∧
      (∃ front, front <+: text.toList ∧ Text.lines front = before) ∧
      ∀ other : String, (Text.lines other.toList).map Text.trim = before.map Text.trim →
        ∀ earlier, parse other = .error earlier → earlier.line? = none := by
  obtain ⟨before, line, after, split, counted, shown⟩ := exists_shownAfter refused located
  refine ⟨before, line, after, split, counted, shown, ?_, fun other same earlier failed => ?_⟩
  · obtain ⟨front, begins, cut⟩ := Text.exists_prefix_lines text.toList before.length
    exact ⟨front, begins, by rw [cut, split, List.take_left]⟩
  · by_contra pointed
    obtain ⟨place, found⟩ := Option.ne_none_iff_exists'.mp pointed
    obtain ⟨above, first, below, parts, placed, sooner⟩ := exists_shownAfter failed found
    -- The whole text begins with the lines that decide about the front, so its error is theirs.
    have whole : (Text.lines text.toList).map Text.trim =
        (above ++ [first]).map Text.trim ++ (below ++ line :: after).map Text.trim := by
      calc (Text.lines text.toList).map Text.trim
          = before.map Text.trim ++ (line :: after).map Text.trim := by
            rw [split, List.map_append]
        _ = (above ++ first :: below).map Text.trim ++ (line :: after).map Text.trim := by
            rw [← same, parts]
        _ = (above ++ [first]).map Text.trim ++ (below ++ line :: after).map Text.trim := by simp
    have again := sooner.decided text ⟨_, whole.symm⟩
    rw [refused, Except.error.injEq] at again
    have lengths := congrArg List.length same
    rw [parts] at lengths
    simp only [List.length_map, List.length_append, List.length_cons] at lengths
    rw [← again, located, Option.some.injEq] at found
    omega

/-- A word that is no numeral is found on the third line, the second that is not blank, and a text
that goes on otherwise is refused for it as well. -/
theorem error_points_at_row :
    parse "2\n\n 0 x \n0 0" = .error (.invalidInteger 3 "x") ∧
    InputError.line? (.invalidInteger 3 "x") = some 3 ∧
    parse "2 \r\n\t\r\n0 x\n1\n\n9 9 9" = .error (.invalidInteger 3 "x") := by
  have refused : parse "2\n\n 0 x \n0 0" = .error (.invalidInteger 3 "x") := by decide +kernel
  have located : InputError.line? (.invalidInteger 3 "x") = some 3 := rfl
  refine ⟨refused, located, ?_⟩
  obtain ⟨before, line, after, split, counted, shown, -⟩ := error_points_at refused located
  have lines : Text.lines "2\n\n 0 x \n0 0".toList =
      ["2".toList, []] ++ " 0 x ".toList :: ["0 0".toList] := by decide +kernel
  obtain ⟨rfl, rest⟩ := List.append_inj (split.symm.trans lines) (Nat.succ.inj counted.symm)
  obtain rfl := (List.cons.inj rest).1
  exact shown.decided _ (by decide +kernel)

end Case

end CopyOracle
