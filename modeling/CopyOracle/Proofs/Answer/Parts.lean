import CopyOracle.Proofs.Answer.Numbering
/-!
# The parts of a report that is read

A report is read exactly when each of its parts is: the cost after the first cost label, the copies
on the lines of their list, and the matrix after its label. Each part is a matter of the contents
of the lines; their numbers show in errors only. Lines of copies between the rows of the matrix
are passed over.
-/

namespace CopyOracle

namespace Verbose

variable {sizes : Sizes} {lines : List Line}

/-- The cost is read from the digits after the first cost label. -/
theorem readCost_eq_ok_iff {cost : UInt64} : readCost lines = .ok cost ↔
    ∃ rest, (lines.map Line.content).findSome? (afterLabel? · costLabels) = some rest ∧
      Numeral.Denotes (rest.trimStart.takeWhile Char.isDigit) cost.toNat := by
  let found := lines.findSome? fun line =>
    (afterLabel? line.content costLabels).map fun rest => (line.number, rest)
  have contents : (lines.map Line.content).findSome? (afterLabel? · costLabels) =
      found.map Prod.snd := by
    rw [List.findSome?_map, List.map_findSome?]
    simp [Function.comp_def]
  have labelled : (lines.findSome? fun line => (afterLabel? line.content costLabels).map
      fun rest => (line.number, rest.trimStart)) =
        found.map fun place => (place.1, place.2.trimStart) := by
    rw [List.map_findSome?]
    simp [Function.comp_def]
  rw [readCost, contents, labelled]
  rcases found with - | ⟨number, rest⟩
  · simp
  · simp only [Option.map_some, Option.some.injEq, exists_eq_left']
    split
    · next none_left =>
      rw [none_left]
      simp only [reduceCtorEq, false_iff]
      rintro ⟨digits, same | same, nonempty, _⟩
      · exact nonempty same.symm
      · exact List.cons_ne_nil _ _ same.symm
    · exact AnswerError.readWord_eq_ok_iff

/-- Where the label of the matrix stands is a matter of the contents. -/
theorem extendedHeader?_contents (lines : List Line) : extendedHeader? lines =
    ((lines.map Line.content).findIdx? (containsAny · extendedLabels)).or
      ((lines.map Line.content).findIdx? fun content =>
        containsAny content shortLabels && !containsAny content costLabels) := by
  rw [extendedHeader?, List.findIdx?_map, List.findIdx?_map]
  rfl

/-- The label of the matrix stands on one of the lines. -/
theorem extendedHeader?_lt {header : Nat} (located : extendedHeader? lines = some header) :
    header < lines.length := by
  rcases Option.or_eq_some_iff.mp located with full | ⟨_, short⟩
  · exact (List.findIdx?_eq_some_iff_getElem.mp full).1
  · exact (List.findIdx?_eq_some_iff_getElem.mp short).1

/-- The lines are those up to the label of the list of copies, those of the list, and those from
the label of the matrix on if it comes later. -/
structure HoldsListing (lines above listing below : List Line) : Prop where
  /-- They stand in this order. -/
  split : lines = above ++ (listing ++ below)
  /-- The first label of a list ends the lines above. -/
  heading : (lines.findIdx? fun line => containsAny line.content mappingLabels).map (· + 1) =
    some above.length
  /-- The list ends before the label of the matrix, or at the end if that does not come later. -/
  ending : extendedHeader? lines = some (above.length + listing.length) ∨
    below = [] ∧ ∀ header, extendedHeader? lines = some header → header < above.length

/-- The list of copies is what stands between the lines above and below. -/
theorem mappingLines?_eq_some_iff {listing : List Line} :
    mappingLines? lines = some listing ↔ ∃ above below, HoldsListing lines above listing below := by
  rw [mappingLines?, Option.map_eq_some_iff]
  constructor
  · rintro ⟨header, labelled, listed⟩
    have inside := (List.findIdx?_eq_some_iff_getElem.mp labelled).1
    have length : (lines.take (header + 1)).length = header + 1 := by
      rw [List.length_take]
      omega
    have heading : (lines.findIdx? fun line => containsAny line.content mappingLabels).map (· + 1) =
        some (lines.take (header + 1)).length := by
      rw [labelled, length]
      rfl
    split at listed
    · next last later =>
      obtain ⟨located, later⟩ := Option.filter_eq_some_iff.mp later
      rw [decide_eq_true_eq] at later
      have bound := extendedHeader?_lt located
      subst listed
      refine ⟨lines.take (header + 1), lines.drop last, ?_, heading, .inl ?_⟩
      · have middle : (lines.drop (header + 1)).take (last - (header + 1)) ++ lines.drop last =
            lines.drop (header + 1) := by
          have rest : lines.drop last = (lines.drop (header + 1)).drop (last - (header + 1)) := by
            rw [List.drop_drop]
            congr 1
            omega
          rw [rest, List.take_append_drop]
        rw [List.drop_take, middle, List.take_append_drop]
      · rw [located, length, List.length_drop, List.length_take]
        congr 1
        omega
    · next never =>
      subst listed
      refine ⟨lines.take (header + 1), [], by simp, heading, .inr ⟨rfl, fun last located => ?_⟩⟩
      rw [located, Option.filter_eq_none_iff] at never
      have earlier := never last rfl
      rw [decide_eq_true_eq] at earlier
      omega
  · rintro ⟨above, below, split, heading, ending⟩
    obtain ⟨header, labelled, same⟩ := Option.map_eq_some_iff.mp heading
    refine ⟨header, labelled, ?_⟩
    rcases ending with located | ⟨rfl, earlier⟩
    · have later : header < above.length + listing.length := by omega
      rw [located, Option.filter_some, if_pos (by simpa using later)]
      simp only [same, split, ← List.append_assoc]
      rw [← List.length_append, List.take_left, List.drop_left]
    · have never : (extendedHeader? lines).filter (header < ·) = none := by
        rw [Option.filter_eq_none_iff]
        intro last located
        have bound := earlier last located
        simp only [decide_eq_true_eq]
        omega
      rw [never]
      simp only [same, split, List.append_nil, List.drop_left]

/-- The copies are read exactly when the list holds some, and they are then arranged. -/
theorem readMappings_eq_ok_iff {copies : List Mapping} : readMappings sizes lines = .ok copies ↔
    ∃ listing listed, mappingLines? lines = some listing ∧
      Collects sizes.pattern listing listed ∧ arrange sizes listed = copies := by
  rw [readMappings]
  cases mappingLines? lines with
  | none => simp
  | some listing => simp [map_eq_ok_iff, foldlM_listCopy_iff_collects]

/-- Lines that are passed over between the rows do not matter. -/
theorem readRows_filter (count : Nat) (lines : List Line) :
    readRows count (lines.filter fun line => !isPassedOver line.content) =
      readRows count lines := by
  induction lines generalizing count with
  | nil => rfl
  | cons line lines ih =>
    cases count with
    | zero => rw [readRows, readRows]
    | succ count =>
      cases passed : isPassedOver line.content with
      | true => rw [List.filter_cons_of_neg (by simp [passed]), ih, readRows, if_pos passed]
      | false =>
        rw [List.filter_cons_of_pos (by simp [passed]), readRows, readRows, passed, ih, ih]

/-- Rows are read alike from lines with the same contents. -/
theorem exists_readRows_of_contents {count : Nat} {lines other : List Line}
    (same : lines.map Line.content = other.map Line.content) {rows : List (Nat × List UInt32)}
    (read : readRows count lines = .ok rows) :
    ∃ rows', readRows count other = .ok rows' ∧ rows'.map Prod.snd = rows.map Prod.snd := by
  induction lines generalizing count other rows with
  | nil =>
    obtain rfl := List.map_eq_nil_iff.mp same.symm
    exact ⟨rows, read, rfl⟩
  | cons line lines ih =>
    obtain ⟨line', other, rfl, content, later⟩ := List.map_eq_cons_iff.mp same.symm
    cases count with
    | zero =>
      rw [readRows] at read ⊢
      exact ⟨rows, read, rfl⟩
    | succ count =>
      rw [readRows] at read ⊢
      rw [content]
      split at read
      · next passed =>
        rw [if_pos passed]
        exact ih later.symm read
      · next counts =>
        rw [if_neg counts]
        dsimp only at read ⊢
        split at read
        · next row =>
          obtain ⟨entries, first, read⟩ := bind_eq_ok_iff.mp read
          obtain ⟨rest, behind, made⟩ := bind_eq_ok_iff.mp read
          obtain rfl := Except.ok.inj made
          obtain ⟨rest', behind', tail⟩ := ih later.symm behind
          have first' : readEntries line'.number (stripRowLabel line.content) = .ok entries :=
            readEntries_eq_ok_iff.mpr (readEntries_eq_ok_iff.mp first)
          rw [if_pos row]
          refine ⟨(line'.number, entries) :: rest', ?_, congrArg (List.cons entries) tail⟩
          exact bind_eq_ok_iff.mpr ⟨entries, first', bind_eq_ok_iff.mpr ⟨rest', behind', rfl⟩⟩
        · next ended =>
          obtain rfl := Except.ok.inj read
          rw [if_neg ended]
          exact ⟨[], rfl, rfl⟩

/-- The graph of the rows is a matter of their entries. -/
theorem graphOfRows_eq_ok_iff {rows : List (Nat × List UInt32)} {graph : Graph} :
    graphOfRows rows = .ok graph ↔ Graph.ofRows (rows.map Prod.snd) = .ok graph := by
  rw [graphOfRows]
  cases Graph.ofRows (rows.map Prod.snd) with
  | ok made => simp
  | error fault => cases fault <;> simp

/-- The extended graph is read from as many rows as it has vertices. -/
theorem readExtended_eq_ok_iff {order : Nat} {graph : Graph} :
    readExtended order lines = .ok graph ↔ ∃ rows, readRows order lines = .ok rows ∧
      order ≤ rows.length ∧ Graph.ofRows (rows.map Prod.snd) = .ok graph := by
  rw [readExtended, bind_eq_ok_iff]
  refine exists_congr fun rows => and_congr_right fun _ => ?_
  split
  · next short => simp [Nat.not_le_of_lt short]
  · next enough => simp [Nat.le_of_not_lt enough, graphOfRows_eq_ok_iff]

/-- The extended graph is read alike from lines whose contents differ only in what is passed
over. -/
theorem readExtended_of_contents {order : Nat} {graph : Graph} {lines other : List Line}
    (same : (lines.map Line.content).filter (fun content => !isPassedOver content) =
      (other.map Line.content).filter fun content => !isPassedOver content)
    (read : readExtended order lines = .ok graph) : readExtended order other = .ok graph := by
  obtain ⟨rows, drawn, enough, made⟩ := readExtended_eq_ok_iff.mp read
  rw [List.filter_map, List.filter_map] at same
  rw [← readRows_filter] at drawn
  obtain ⟨rows', drawn', entries⟩ := exists_readRows_of_contents same drawn
  rw [Function.comp_def, readRows_filter] at drawn'
  have length : rows'.length = rows.length := by
    simpa using congrArg List.length entries
  exact readExtended_eq_ok_iff.mpr ⟨rows', drawn', length ▸ enough, entries ▸ made⟩

/-- An answer is read exactly when its parts are. -/
theorem ofLines_eq_ok_iff {answer : Answer} : ofLines sizes lines = .ok answer ↔
    readCost lines = .ok answer.cost ∧
      (∃ copies, readMappings sizes lines = .ok copies ∧ answer.copies = some copies) ∧
      ∃ header, extendedHeader? lines = some header ∧
        readExtended sizes.target (lines.drop (header + 1)) = .ok answer.extended := by
  simp only [ofLines, bind_eq_ok_iff]
  constructor
  · rintro ⟨cost, priced, copies, listed, read⟩
    split at read
    · contradiction
    · next header located =>
      obtain ⟨extended, drawn, made⟩ := bind_eq_ok_iff.mp read
      obtain rfl := Except.ok.inj made
      exact ⟨priced, ⟨copies, listed, rfl⟩, header, located, drawn⟩
  · rintro ⟨priced, ⟨copies, listed, found⟩, header, located, drawn⟩
    refine ⟨answer.cost, priced, copies, listed, ?_⟩
    rw [located]
    refine bind_eq_ok_iff.mpr ⟨answer.extended, drawn, ?_⟩
    rw [← found]

/-- A report claims an answer exactly when it claims no refusal and the answer is read from its
lines. -/
theorem read_verbose_eq_found_iff {text : Text} {answer : Answer} :
    Dialect.verbose.read sizes text = .ok (.found answer) ↔
      reportsNoSolution text = false ∧ ofLines sizes text.numberedLines = .ok answer := by
  rw [Dialect.read]
  cases reportsNoSolution text <;> simp [map_eq_ok_iff, Verbose.read]

end Verbose

end CopyOracle
