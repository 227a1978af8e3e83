import CopyOracle.Proofs.Answer.Compact
import CopyOracle.Proofs.Answer.ReportLine
/-!
# Listing the copies in another order

The copies are placed by their numbers, so it does not matter in which order their lines stand in
the list, nor where they stand between its other lines. Such a report has the same labels before
and after the list, its first cost label on the same line unless a copy line has one, and the same
rows, since the lines of copies are passed over between them.
-/

namespace CopyOracle

/-- The marks by which a text is told neither begin nor end with white space. -/
theorem marks_trimmed : ∀ mark ∈ Dialect.verboseMarks ++ refusalMarks, Text.Trimmed mark := by
  decide

/-- Trimming a line leaves its marks. -/
theorem containsAny_trim {marks : List Text} (solid : ∀ mark ∈ marks, Text.Trimmed mark)
    (line : Text) : Verbose.containsAny line.trim marks = Verbose.containsAny line marks := by
  rw [Bool.eq_iff_iff, containsAny_eq_true_iff, containsAny_eq_true_iff]
  exact exists_congr fun mark => and_congr_right fun member =>
    Text.occurs_trim_iff (solid mark member)

/-- A text is a report exactly when one of its trimmed lines has a mark of one. -/
theorem sniff_eq_verbose_iff {text : Text} : Dialect.sniff text = .verbose ↔
    ∃ content ∈ text.numberedLines.map Line.content,
      Verbose.containsAny content Dialect.verboseMarks = true := by
  have solid : ∀ mark ∈ Dialect.verboseMarks, Text.Trimmed mark := fun mark member =>
    marks_trimmed mark (List.mem_append_left _ member)
  simp only [Text.numberedLines_map_content, List.mem_map, exists_exists_and_eq_and,
    containsAny_trim solid, Dialect.sniff, ← List.any_eq_true]
  split <;> simp_all

/-- A text claims a refusal exactly when one of its trimmed lines does. -/
theorem reportsNoSolution_iff {text : Text} : reportsNoSolution text = true ↔
    ∃ content ∈ text.numberedLines.map Line.content,
      Verbose.containsAny content refusalMarks = true := by
  have solid : ∀ mark ∈ refusalMarks, Text.Trimmed mark := fun mark member =>
    marks_trimmed mark (List.mem_append_right _ member)
  have unbroken : ∀ mark ∈ refusalMarks, ∀ c ∈ mark, c ≠ '\n' ∧ c ≠ '\r' := by decide
  simp only [Text.numberedLines_map_content, List.mem_map, exists_exists_and_eq_and,
    containsAny_eq_true_iff, reportsNoSolution]
  have in_line {mark : Text} (member : mark ∈ refusalMarks) :
      mark <:+: text ↔ ∃ line ∈ text.lines, mark <:+: line :=
    Text.occurs_iff_exists_line (solid mark member).ne_nil (unbroken mark member)
  constructor
  · rintro ⟨mark, member, occurs⟩
    obtain ⟨line, listed, found⟩ := (in_line member).mp occurs
    exact ⟨line, listed, mark, member, (Text.occurs_trim_iff (solid mark member)).mpr found⟩
  · rintro ⟨line, listed, mark, member, found⟩
    have kept := (Text.occurs_trim_iff (solid mark member)).mp found
    exact ⟨mark, member, (in_line member).mpr ⟨line, listed, kept⟩⟩

/-- A text that is told for a report is read as one. -/
theorem read_of_sniff_eq_verbose {sizes : Sizes} {text : Text}
    (report : Dialect.sniff text = .verbose) :
    Claim.read sizes text = Dialect.verbose.read sizes text := by
  have marked : text.lines.any fun line =>
      Verbose.containsAny line Dialect.verboseMarks := by
    by_contra bare
    rw [Dialect.sniff, if_neg bare] at report
    contradiction
  obtain ⟨line, listed, marked⟩ := List.any_eq_true.mp marked
  obtain ⟨mark, member, occurs⟩ := containsAny_eq_true_iff.mp marked
  obtain ⟨c, rest, rfl, visible⟩ := (marks_trimmed mark (List.mem_append_left _ member)).first
  have filled := trim_isEmpty_eq_false listed (occurs.subset List.mem_cons_self) visible
  rw [Claim.read, filled, if_neg Bool.false_ne_true, report]

/-- Only a text that is told for a report claims copies. -/
theorem sniff_eq_verbose_of_copies {sizes : Sizes} {text : Text} {answer : Answer}
    (read : Claim.read sizes text = .ok (.found answer)) {copies : List Mapping}
    (listed : answer.copies = some copies) : Dialect.sniff text = .verbose := by
  rw [Claim.read] at read
  split at read
  · contradiction
  · cases dialect : Dialect.sniff text with
    | verbose => rfl
    | compact =>
      rw [dialect] at read
      rw [(Compact.read_compact_eq_found_iff.mp read).2.shape.2] at listed
      contradiction

namespace Verbose

/-- The contents are the same but for the copy lines, which stand in any order and anywhere between
the other ones. None of the copy lines has a label of the cost. -/
structure Relisted (contents relisted : List Text) : Prop where
  /-- The other lines keep their order. -/
  others : relisted.filter (fun content => !(copyLine? content).isSome) =
    contents.filter fun content => !(copyLine? content).isSome
  /-- The copy lines are the same in some order. -/
  copies : (relisted.filter fun content => (copyLine? content).isSome).Perm
    (contents.filter fun content => (copyLine? content).isSome)
  /-- The cost is not on a copy line. -/
  priceless : ∀ content ∈ contents, (copyLine? content).isSome = true →
    containsAny content costLabels = false

section Contents

variable {contents relisted front back : List Text}

/-- The contents are the same in some order. -/
theorem Relisted.perm (relists : Relisted contents relisted) : relisted.Perm contents := by
  have left := List.filter_append_perm (fun content => (copyLine? content).isSome) relisted
  have right := List.filter_append_perm (fun content => (copyLine? content).isSome) contents
  rw [relists.others] at left
  exact left.symm.trans ((relists.copies.append_right _).trans right)

/-- What is found outside of the list is found at the same place. -/
theorem Relisted.findIdx?_eq (relists : Relisted contents relisted) {p : Text → Bool}
    (outside : ∀ place, (front ++ (contents ++ back)).findIdx? p = some place →
      place < front.length ∨ front.length + contents.length ≤ place) :
    (front ++ (relisted ++ back)).findIdx? p = (front ++ (contents ++ back)).findIdx? p := by
  simp only [List.findIdx?_append] at outside ⊢
  cases before : front.findIdx? p with
  | some place => rfl
  | none =>
    cases within : contents.findIdx? p with
    | some place =>
      have inside := (List.findIdx?_eq_some_iff_getElem.mp within).1
      have apart := outside (place + front.length) (by simp [before, within])
      omega
    | none =>
      have without : relisted.findIdx? p = none := by
        rw [List.findIdx?_eq_none_iff] at within ⊢
        exact fun content member => within content (relists.perm.mem_iff.mp member)
      rw [without, relists.perm.length_eq]

/-- What is found on no copy line is found on the same line. -/
theorem findSome?_filter_of_none {α : Type} {f : Text → Option α} {keep : Text → Bool}
    (silent : ∀ content ∈ contents, keep content = false → f content = none) :
    (contents.filter keep).findSome? f = contents.findSome? f := by
  induction contents with
  | nil => rfl
  | cons content contents ih =>
    have later := ih fun other member => silent other (List.mem_cons_of_mem _ member)
    cases kept : keep content with
    | true => rw [List.filter_cons_of_pos kept, List.findSome?_cons, List.findSome?_cons, later]
    | false =>
      rw [List.filter_cons_of_neg (by simp [kept]), List.findSome?_cons,
        silent content List.mem_cons_self kept, later]

/-- The first cost label has the same text behind it. -/
theorem Relisted.findSome?_cost (relists : Relisted contents relisted) :
    (front ++ (relisted ++ back)).findSome? (afterLabel? · costLabels) =
      (front ++ (contents ++ back)).findSome? (afterLabel? · costLabels) := by
  have silent {content : Text} (member : content ∈ contents)
      (copy : (!(copyLine? content).isSome) = false) :
      afterLabel? content costLabels = none := by
    refine afterLabel?_eq_none_iff.mpr (relists.priceless content member ?_)
    simpa using copy
  have same : relisted.findSome? (afterLabel? · costLabels) =
      contents.findSome? (afterLabel? · costLabels) := by
    rw [← findSome?_filter_of_none fun content member => silent (relists.perm.mem_iff.mp member),
      relists.others, findSome?_filter_of_none fun content => silent]
  simp only [List.findSome?_append, same]

/-- The lines that count between the rows are the same. -/
theorem Relisted.filter_passedOver (relists : Relisted contents relisted) :
    relisted.filter (fun content => !isPassedOver content) =
      contents.filter fun content => !isPassedOver content := by
  have without (texts : List Text) : texts.filter (fun content => !isPassedOver content) =
      (texts.filter fun content => !(copyLine? content).isSome).filter
        fun content => !isPassedOver content := by
    rw [List.filter_filter]
    refine List.filter_congr fun content _ => ?_
    cases copy : (copyLine? content).isSome <;> simp [isPassedOver, copy]
  rw [without relisted, relists.others, ← without contents]

end Contents

/-- The copies of the lines are those of the same lines in another order. -/
theorem Collects.of_relisted {order : Nat} {lines other : List Line}
    {listed : List (Nat × Mapping)} (collects : Collects order lines listed)
    (relists : Relisted (lines.map Line.content) (other.map Line.content)) :
    Collects order other listed where
  ascending := collects.ascending
  shown := by
    have contents (lines : List Line) : (lines.filter isCopyLine).map Line.content =
        (lines.map Line.content).filter fun content => (copyLine? content).isSome := by
      rw [List.filter_map]
      rfl
    obtain ⟨listing, same, held⟩ := collects.shown
    rw [← List.forall₂_map_right_iff, contents] at held
    obtain ⟨listing', held', moved⟩ := List.perm_comp_forall₂ relists.copies held.flip
    refine ⟨listing', moved.trans same, ?_⟩
    rw [← List.forall₂_map_right_iff, contents]
    exact held'.flip

section Report

variable {lines other above listing below above' listing' below' : List Line}
  {relisted : List Text}

/-- The labels of the matrix and of the list stand outside of the list, so a report with the copies
in another order has its list at the same place. -/
theorem HoldsListing.of_relisted (holds : HoldsListing lines above listing below)
    (relists : Relisted (listing.map Line.content) (listing'.map Line.content))
    (same_above : above'.map Line.content = above.map Line.content)
    (same_below : below'.map Line.content = below.map Line.content) :
    extendedHeader? (above' ++ (listing' ++ below')) = extendedHeader? lines ∧
      HoldsListing (above' ++ (listing' ++ below')) above' listing' below' := by
  have length_above : above'.length = above.length := by
    simpa using congrArg List.length same_above
  have length_listing : listing'.length = listing.length := by
    simpa using relists.perm.length_eq
  have found {p : Text → Bool}
      (outside : ∀ place, (lines.map Line.content).findIdx? p = some place →
        place < above.length ∨ above.length + listing.length ≤ place) :
      ((above' ++ (listing' ++ below')).map Line.content).findIdx? p =
        (lines.map Line.content).findIdx? p := by
    rw [holds.split, List.map_append, List.map_append] at outside ⊢
    rw [List.map_append, List.map_append, same_above, same_below]
    exact relists.findIdx?_eq (by simpa using outside)
  have apart {place : Nat} (located : extendedHeader? lines = some place) :
      place < above.length ∨ above.length + listing.length ≤ place := by
    rcases holds.ending with ends | ⟨_, earlier⟩
    · exact .inr (le_of_eq (Option.some.inj (ends.symm.trans located)))
    · exact .inl (earlier place located)
  have header : extendedHeader? (above' ++ (listing' ++ below')) = extendedHeader? lines := by
    rw [extendedHeader?_contents] at apart
    rw [extendedHeader?_contents, extendedHeader?_contents, found fun place full => apart (by
      rw [full]
      rfl)]
    -- A short label counts only where no full one stands.
    cases full : (lines.map Line.content).findIdx? (containsAny · extendedLabels) with
    | some place => rfl
    | none => rw [found fun place short => apart (by rw [full, Option.none_or, short])]
  refine ⟨header, rfl, ?_, ?_⟩
  · have heading := holds.heading
    have contents (lines : List Line) :
        (lines.findIdx? fun line => containsAny line.content mappingLabels) =
          (lines.map Line.content).findIdx? (containsAny · mappingLabels) := by
      rw [List.findIdx?_map]
      rfl
    rw [contents] at heading
    rw [contents, found fun place labelled => ?_, heading, length_above]
    rw [labelled, Option.map_some, Option.some.injEq] at heading
    omega
  · rw [header, length_above, length_listing]
    refine holds.ending.imp_right fun ⟨empty, earlier⟩ => ⟨?_, earlier⟩
    rwa [empty, List.map_nil, List.map_eq_nil_iff] at same_below

/-- A report with the copies in another order is read as the same answer. -/
theorem ofLines_of_relisted {sizes : Sizes} {answer : Answer}
    (holds : HoldsListing lines above listing below)
    (relists : Relisted (listing.map Line.content) relisted)
    (shown : other.map Line.content =
      above.map Line.content ++ (relisted ++ below.map Line.content))
    (read : ofLines sizes lines = .ok answer) : ofLines sizes other = .ok answer := by
  obtain ⟨above', rest, rfl, same_above, shown⟩ := List.map_eq_append_iff.mp shown
  obtain ⟨listing', below', rfl, rfl, same_below⟩ := List.map_eq_append_iff.mp shown
  obtain ⟨header_eq, holds'⟩ := holds.of_relisted relists same_above same_below
  obtain ⟨priced, ⟨copies, arranged, kept⟩, header, located, drawn⟩ := ofLines_eq_ok_iff.mp read
  refine ofLines_eq_ok_iff.mpr ⟨?_, ⟨copies, ?_, kept⟩, header, header_eq.trans located, ?_⟩
  · obtain ⟨rest, labelled, digits⟩ := readCost_eq_ok_iff.mp priced
    refine readCost_eq_ok_iff.mpr ⟨rest, ?_, digits⟩
    rw [holds.split, List.map_append, List.map_append] at labelled
    rw [List.map_append, List.map_append, same_above, same_below, relists.findSome?_cost, labelled]
  · obtain ⟨body, listed, found, collects, arranged⟩ := readMappings_eq_ok_iff.mp arranged
    obtain rfl : listing = body :=
      Option.some.inj ((mappingLines?_eq_some_iff.mpr ⟨_, _, holds⟩).symm.trans found)
    exact readMappings_eq_ok_iff.mpr ⟨listing', listed,
      mappingLines?_eq_some_iff.mpr ⟨_, _, holds'⟩, collects.of_relisted relists, arranged⟩
  · refine readExtended_of_contents ?_ drawn
    have length_listing : listing'.length = listing.length := by
      simpa using relists.perm.length_eq
    rw [List.map_drop, List.map_drop, holds.split]
    simp only [List.map_append, same_above, same_below]
    rcases holds.ending with ends | ⟨_, earlier⟩
    · -- The matrix stands below the list.
      obtain rfl := Option.some.inj (ends.symm.trans located)
      have behind {middle : List Text} (length : middle.length = listing.length) :
          (above.map Line.content ++ (middle ++ below.map Line.content)).drop
            (above.length + listing.length + 1) = (below.map Line.content).drop 1 := by
        have front : (above.map Line.content ++ middle).length =
            above.length + listing.length := by simp [length]
        rw [← List.append_assoc, ← front, List.drop_append, List.drop_eq_nil_of_le (by omega),
          List.nil_append, Nat.add_sub_cancel_left]
      rw [behind (by simp), behind (by simp [length_listing])]
    · -- The matrix stands above, and its rows may go on below the list.
      have inside : header + 1 ≤ (above.map Line.content).length := by
        have bound := earlier header located
        rw [List.length_map]
        omega
      rw [List.drop_append_of_le_length inside, List.drop_append_of_le_length inside]
      simp only [List.filter_append, relists.filter_passedOver]

end Report

/-- In every report that is read, the copies stand at the places of their numbers. So listing them
in another order gives the same answer, and a list that is accepted as so many copies of a pattern
with a vertex lists exactly the copies from one on: none is missing and none is too many. -/
theorem copies_placed {sizes : Sizes} {text : Text} {answer : Answer}
    (read : Dialect.verbose.read sizes text = .ok (.found answer)) :
    ∃ above listing below numbers copies,
      mappingLines? text.numberedLines = some listing ∧
      HoldsListing text.numberedLines above listing below ∧
      answer.copies = some copies ∧ Numbering sizes listing numbers copies ∧
      (∀ (other : Text) (relisted : List Text),
        other.numberedLines.map Line.content =
          above.map Line.content ++ (relisted ++ below.map Line.content) →
        Relisted (listing.map Line.content) relisted →
        Dialect.verbose.read sizes other = .ok (.found answer) ∧
          (Claim.read sizes text = .ok (.found answer) →
            Claim.read sizes other = .ok (.found answer))) ∧
      ∀ pattern host : Graph, 0 < pattern.order →
        checkCopies pattern host copies sizes.copies = .ok () →
          numbers = Finset.Icc 1 sizes.copies := by
  obtain ⟨claims, parts⟩ := read_verbose_eq_found_iff.mp read
  obtain ⟨_, ⟨copies, arranged, kept⟩, _⟩ := ofLines_eq_ok_iff.mp parts
  obtain ⟨listing, listed, located, collects, rfl⟩ := readMappings_eq_ok_iff.mp arranged
  obtain ⟨above, below, holds⟩ := mappingLines?_eq_some_iff.mp located
  have numbering := collects.numbering
  refine ⟨above, listing, below, numbersOf listed, arrange sizes listed, located, holds, kept,
    numbering, fun other relisted shown relists => ?_,
    fun pattern host vertex accepted => numbering.numbers_eq_Icc vertex accepted⟩
  -- The lines of the two texts are the same in some order, so they have the same marks.
  have perm : (other.numberedLines.map Line.content).Perm
      (text.numberedLines.map Line.content) := by
    rw [shown, holds.split, List.map_append, List.map_append]
    exact (relists.perm.append_right _).append_left _
  have silent : reportsNoSolution other = false := by
    rw [← claims, Bool.eq_iff_iff, reportsNoSolution_iff, reportsNoSolution_iff]
    simp only [perm.mem_iff]
  have again : Dialect.verbose.read sizes other = .ok (.found answer) :=
    read_verbose_eq_found_iff.mpr ⟨silent, ofLines_of_relisted holds relists shown parts⟩
  refine ⟨again, fun told => ?_⟩
  have report : Dialect.sniff other = .verbose := by
    have original := sniff_eq_verbose_iff.mp (sniff_eq_verbose_of_copies told kept)
    simpa only [sniff_eq_verbose_iff, perm.mem_iff] using original
  rw [read_of_sniff_eq_verbose report, again]

/-- Of two copies asked for, the second is missing and a third one is listed first. -/
theorem copies_placed_gap :
    let text : Text := ("Extension cost: 0\nMappings:\nCopy 3: 0->1\nCopy 1: 0->0\n" ++
      "Extended graph:\n0 0\n0 0\n").toList
    let copies : List Mapping := [⟨[some 0]⟩, ⟨[none]⟩, ⟨[some 1]⟩]
    Dialect.verbose.read ⟨1, 2, 2⟩ text = .ok (.found ⟨.empty 2, some copies, 0⟩) ∧
      ∃ listing numbers, mappingLines? text.numberedLines = some listing ∧
        Numbering ⟨1, 2, 2⟩ listing numbers copies := by
  intro text copies
  have read : Dialect.verbose.read ⟨1, 2, 2⟩ text = .ok (.found ⟨.empty 2, some copies, 0⟩) := by
    decide +kernel
  obtain ⟨_, listing, _, numbers, _, located, _, kept, numbering, _⟩ := copies_placed read
  obtain rfl := Option.some.inj kept
  exact ⟨read, listing, numbers, located, numbering⟩

end Verbose

end CopyOracle
