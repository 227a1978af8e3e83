import CopyOracle.Proofs.Answer.ReportLine
import CopyOracle.Proofs.Graph.Reader
/-!
# Reading a written report

The parts of a report are found by the first line with a label of theirs, wherever they stand, so
a report is read back in every order of its parts, in both languages, with blank lines anywhere
and with fewer or more copies than were asked for.
-/

namespace CopyOracle

namespace Verbose

/-- The trimmed lines that are not blank. -/
def visible (lines : List Line) : List Text :=
  (lines.filter fun line => !line.isEmpty).map Line.content

/-- The visible lines of two lists are those of the first and then those of the second. -/
theorem visible_append (front back : List Line) :
    visible (front ++ back) = visible front ++ visible back := by
  simp [visible]

/-- A line that is not blank stands between the lines before and after it. -/
theorem exists_of_visible_eq {lines : List Line} {before after : List Text} {content : Text}
    (seen : visible lines = before ++ content :: after) : ∃ front line back,
      lines = front ++ line :: back ∧ visible front = before ∧ line.content = content ∧
        visible back = after := by
  obtain ⟨shown, rest, split, rfl, later⟩ := List.map_eq_append_iff.mp seen
  obtain ⟨line, others, rfl, rfl, rfl⟩ := List.map_eq_cons_iff.mp later
  obtain ⟨front, tail, rfl, rfl, kept⟩ := List.filter_eq_append_iff.mp split
  obtain ⟨blank, back, rfl, skipped, _, rfl⟩ := List.filter_eq_cons_iff.mp kept
  refine ⟨front ++ blank, line, back, by simp, ?_, rfl, rfl⟩
  rw [visible, List.filter_append, List.filter_eq_nil_iff.mpr skipped, List.append_nil]

/-- What holds of a blank line and of the lines of all parts holds of every line. -/
theorem forall_content_of_parts {lines : List Line} {parts : List (List Text)}
    {holds : Text → Prop} (seen : visible lines = parts.flatten) (blank : holds [])
    (solid : ∀ part ∈ parts, ∀ content ∈ part, holds content) :
    ∀ line ∈ lines, holds line.content := by
  intro line member
  cases empty : line.isEmpty with
  | true =>
    rw [Line.isEmpty, List.isEmpty_iff] at empty
    exact empty ▸ blank
  | false =>
    have shown : line.content ∈ visible lines :=
      List.mem_map_of_mem (List.mem_filter.mpr ⟨member, by simp [empty]⟩)
    rw [seen, List.mem_flatten] at shown
    obtain ⟨part, placed, inside⟩ := shown
    exact solid part placed line.content inside

/-- Marks that no part has are on no line. -/
theorem unmarked_of_parts {lines : List Line} {parts : List (List Text)} {marks : List Text}
    (seen : visible lines = parts.flatten) (solid : containsAny [] marks = false)
    (silent : ∀ part ∈ parts, ∀ content ∈ part, containsAny content marks = false) :
    ∀ line ∈ lines, containsAny line.content marks = false :=
  forall_content_of_parts seen solid silent

/-- The first line with a mark is found. -/
theorem findIdx?_append_cons {marks : List Text} {before after : List Line} {line : Line}
    (unmarked : ∀ other ∈ before, containsAny other.content marks = false)
    (marked : containsAny line.content marks = true) :
    ((before ++ line :: after).findIdx? fun line => containsAny line.content marks) =
      some before.length := by
  rw [List.findIdx?_append, List.findIdx?_eq_none_iff.mpr unmarked, List.findIdx?_cons, marked]
  simp

/-- The label of the matrix is found where it stands first. -/
theorem extendedHeader?_eq {before after : List Line} {line : Line}
    (unmarked : ∀ other ∈ before, containsAny other.content extendedLabels = false)
    (marked : containsAny line.content extendedLabels = true) :
    extendedHeader? (before ++ line :: after) = some before.length := by
  rw [extendedHeader?, findIdx?_append_cons unmarked marked]
  rfl

section MappingLines

variable {front body : List Line} {heading matrix : Line}

/-- The list of copies ends where the matrix begins. -/
theorem mappingLines?_before {rest : List Line}
    (marked : containsAny heading.content mappingLabels = true)
    (first : ∀ line ∈ front, containsAny line.content mappingLabels = false)
    (drawn : containsAny matrix.content extendedLabels = true)
    (undrawn : ∀ line ∈ front ++ heading :: body, containsAny line.content extendedLabels = false) :
    mappingLines? (front ++ heading :: (body ++ matrix :: rest)) = some body := by
  have holds : HoldsListing (front ++ heading :: (body ++ matrix :: rest)) (front ++ [heading]) body
      (matrix :: rest) := by
    refine ⟨by simp, ?_, .inl ?_⟩
    · rw [findIdx?_append_cons first marked, Option.map_some, List.length_append,
        List.length_singleton]
    · rw [← List.cons_append, ← List.append_assoc, extendedHeader?_eq undrawn drawn]
      simp
      omega
  exact mappingLines?_eq_some_iff.mpr ⟨_, _, holds⟩

/-- The list of copies behind the matrix goes to the end. -/
theorem mappingLines?_behind {middle : List Line}
    (drawn : containsAny matrix.content extendedLabels = true)
    (undrawn : ∀ line ∈ front, containsAny line.content extendedLabels = false)
    (marked : containsAny heading.content mappingLabels = true)
    (first : ∀ line ∈ front ++ matrix :: middle, containsAny line.content mappingLabels = false) :
    mappingLines? (front ++ matrix :: middle ++ heading :: body) = some body := by
  have holds : HoldsListing (front ++ matrix :: middle ++ heading :: body)
      (front ++ matrix :: middle ++ [heading]) body [] := by
    refine ⟨by simp, ?_, .inr ⟨rfl, fun header located => ?_⟩⟩
    · rw [findIdx?_append_cons first marked, Option.map_some]
      simp [Nat.add_assoc]
    · rw [List.append_assoc, List.cons_append, extendedHeader?_eq undrawn drawn] at located
      obtain rfl := Option.some.inj located
      simp
  exact mappingLines?_eq_some_iff.mpr ⟨_, _, holds⟩

end MappingLines

/-- The line of a copy is not blank. -/
theorem filter_isCopyLine (lines : List Line) :
    (lines.filter isCopyLine).map Line.content =
      (visible lines).filter fun content => (copyLine? content).isSome := by
  rw [visible, List.filter_map, List.filter_filter]
  refine congrArg _ (List.filter_congr fun line _ => ?_)
  cases empty : line.isEmpty with
  | true =>
    rw [Line.isEmpty, List.isEmpty_iff] at empty
    simp only [isCopyLine, Function.comp_apply, empty]
    rfl
  | false => simp [isCopyLine]

/-- The copies are read from lines that list them, among others that are no lines of copies. -/
theorem readMappings_eq {sizes : Sizes} {copies : List Mapping} {lines body : List Line}
    {listing : List (Nat × Mapping)} {shown others : List Text}
    (located : mappingLines? lines = some body) (seen : visible body = shown ++ others)
    (listed : listing.Perm (numberedFrom 1 copies)) (lists : List.Forall₂ Lists listing shown)
    (foreign : ∀ content ∈ others, copyLine? content = none)
    (bound : copies.length < UInt64.size)
    (sources : ∀ mapping ∈ copies, mapping.sources = sizes.pattern) :
    readMappings sizes lines = .ok copies := by
  have kept : shown.filter (fun content => (copyLine? content).isSome) = shown := by
    rw [List.filter_eq_self]
    intro content member
    obtain ⟨copy, _, assignments, shape, _⟩ := exists_of_mem_forall₂ lists member
    simp [shape]
  have dropped : others.filter (fun content => (copyLine? content).isSome) = [] := by
    rw [List.filter_eq_nil_iff]
    exact fun content member => by simp [foreign content member]
  have contents := filter_isCopyLine body
  rw [seen, List.filter_append, kept, dropped, List.append_nil] at contents
  rw [← contents, List.forall₂_map_right_iff] at lists
  rw [readMappings, located]
  exact foldlM_listCopy_numberedFrom listed lists bound sources

/-- A blank line between the rows is passed over. -/
theorem readRows_blank {line : Line} (empty : line.isEmpty = true) (count : Nat)
    (lines : List Line) : readRows (count + 1) (line :: lines) = readRows (count + 1) lines := by
  have passed : isPassedOver line.content = true := by
    rw [isPassedOver, ← Line.isEmpty, empty, Bool.true_or, Bool.true_or]
  rw [readRows, if_pos passed]

/-- The line of a row adds the row. -/
theorem readRows_row {row : List UInt32} {line : Line} (shows : ShowsNumberedRow row line.content)
    (solid : row ≠ []) {count : Nat} {lines : List Line} {numbered : List (Nat × List UInt32)}
    (read : readRows count lines = .ok numbered) :
    readRows (count + 1) (line :: lines) = .ok ((line.number, row) :: numbered) := by
  have unlabelled : containsAny line.content mappingLabels = false :=
    (shows.spelledFrom (List.mem_singleton_self [])).containsAny_eq_false (by decide)
  have filled : line.content.isEmpty = false := by
    rw [List.isEmpty_eq_false_iff]
    exact (shows.trimmed solid).ne_nil
  have counted : isPassedOver line.content = false := by
    rw [isPassedOver, filled, shows.copyLine?_eq_none solid, unlabelled]
    rfl
  rw [readRows, if_neg (by simp [counted]), shows.stripRowLabel_eq solid]
  simp only [startsLikeRow_writeRow solid, if_true, readEntries_writeRow, read]
  rfl

/-- Rows are read from the lines that show them, whatever follows. -/
theorem readRows_eq {rows : List (List UInt32)} {lines : List Line} {shown others : List Text}
    (drawn : List.Forall₂ ShowsNumberedRow rows shown) (nonempty : ∀ row ∈ rows, row ≠ [])
    (seen : visible lines = shown ++ others) :
    ∃ numbered, readRows rows.length lines = .ok numbered ∧ numbered.map Prod.snd = rows := by
  induction lines generalizing rows shown with
  | nil =>
    cases drawn with
    | nil => exact ⟨[], rfl, rfl⟩
    | cons _ _ => simp [visible] at seen
  | cons line lines ih =>
    cases drawn with
    | nil => exact ⟨[], rfl, rfl⟩
    | @cons row content rows shown shows drawn =>
      cases empty : line.isEmpty with
      | true =>
        rw [visible, List.filter_cons_of_neg (by simp [empty])] at seen
        obtain ⟨numbered, read, same⟩ := ih (.cons shows drawn) nonempty seen
        exact ⟨numbered, (readRows_blank empty rows.length lines).trans read, same⟩
      | false =>
        rw [visible, List.filter_cons_of_pos (by simp [empty])] at seen
        obtain ⟨rfl, later⟩ := List.cons.inj seen
        obtain ⟨numbered, read, same⟩ := ih drawn
          (fun other member => nonempty other (List.mem_cons_of_mem _ member)) later
        exact ⟨(line.number, row) :: numbered,
          readRows_row shows (nonempty row List.mem_cons_self) read, congrArg (List.cons row) same⟩

/-- The extended graph is read from lines that show its rows. -/
theorem readExtended_eq {extended : Graph} {lines : List Line} {shown others : List Text}
    (drawn : List.Forall₂ ShowsNumberedRow extended.toRows shown)
    (seen : visible lines = shown ++ others) :
    readExtended extended.order lines = .ok extended := by
  obtain ⟨numbered, read, rows⟩ := readRows_eq drawn
    (fun row member => Graph.ne_nil_of_mem_toRows member) seen
  have count : extended.toRows.length = extended.order := by simp [Graph.toRows]
  have length : numbered.length = extended.order := by
    rw [← count, ← rows, List.length_map]
  have made : Graph.ofRows (numbered.map Prod.snd) = .ok extended := by
    rw [rows, Graph.ofRows_toRows]
  exact readExtended_eq_ok_iff.mpr ⟨numbered, count ▸ read, length.ge, made⟩

/-- A part stands between the parts before and after it, and its first line is the first one with
a mark that no other part has. -/
theorem exists_of_parts {lines : List Line} {parts others : List (List Text)} {head : Text}
    {rest marks : List Text} (order : parts.Perm ((head :: rest) :: others))
    (seen : visible lines = parts.flatten) (solid : containsAny [] marks = false)
    (silent : ∀ part ∈ others, ∀ content ∈ part, containsAny content marks = false) :
    ∃ (front back : List Line) (line : Line) (earlier later : List (List Text)),
      lines = front ++ line :: back ∧ line.content = head ∧
      (∀ other ∈ front, containsAny other.content marks = false) ∧
      visible front = earlier.flatten ∧ visible back = rest ++ later.flatten ∧
      (earlier ++ later).Perm others := by
  obtain ⟨earlier, later, rfl⟩ := List.append_of_mem (order.mem_iff.mpr List.mem_cons_self)
  have remaining : (earlier ++ later).Perm others :=
    (List.perm_middle.symm.trans order).cons_inv
  rw [List.flatten_append, List.flatten_cons, List.cons_append] at seen
  obtain ⟨front, line, back, rfl, before, same, after⟩ := exists_of_visible_eq seen
  refine ⟨front, back, line, earlier, later, rfl, same, ?_, before, after, remaining⟩
  exact unmarked_of_parts before solid fun part placed =>
    silent part (remaining.mem_iff.mp (List.mem_append_left _ placed))

/-- The trimmed lines of a report that are not blank, part by part. -/
structure Outline (extended : Graph) (copies : List Mapping) (cost : UInt64) where
  /-- The line of the cost. -/
  price : Text
  /-- It shows the cost. -/
  priced : ShowsCost cost price
  /-- The label of the list of copies. -/
  heading : Text
  /-- It is one. -/
  headed : Heads mappingLabels heading
  /-- The copies in the order of their lines. -/
  listing : List (Nat × Mapping)
  /-- They are numbered from one. -/
  numbered : listing.Perm (numberedFrom 1 copies)
  /-- The lines of the copies. -/
  listed : List Text
  /-- They list the copies. -/
  lists : List.Forall₂ Lists listing listed
  /-- They are spelled from the labels of a copy. -/
  spelled : ∀ content ∈ listed, SpelledFrom copyLabels content
  /-- The label of the matrix. -/
  drawing : Text
  /-- It is one. -/
  drawn : Heads extendedLabels drawing
  /-- The lines of the rows. -/
  rows : List Text
  /-- They show the rows. -/
  matrix : List.Forall₂ ShowsNumberedRow extended.toRows rows

namespace Outline

variable {extended : Graph} {copies : List Mapping} {cost : UInt64}
variable (outline : Outline extended copies cost)

/-- The part with the cost. -/
def costPart : List Text := [outline.price]

/-- The part with the copies. -/
def copiesPart : List Text := outline.heading :: outline.listed

/-- The part with the extended graph. -/
def matrixPart : List Text := outline.drawing :: outline.rows

/-- The parts. -/
def parts : List (List Text) := [outline.costPart, outline.copiesPart, outline.matrixPart]

/-- The part with the cost is spelled from its labels. -/
theorem costPart_spelled : ∀ content ∈ outline.costPart, SpelledFrom costLabels content := by
  intro content member
  rw [List.mem_singleton.mp member]
  exact outline.priced.heads.spelledFrom

/-- The part with the copies is spelled from its labels. -/
theorem copiesPart_spelled :
    ∀ content ∈ outline.copiesPart, SpelledFrom (mappingLabels ++ copyLabels) content := by
  intro content member
  rcases List.mem_cons.mp member with rfl | member
  · exact outline.headed.spelledFrom.weaken (List.subset_append_left _ _)
  · exact (outline.spelled content member).weaken (List.subset_append_right _ _)

/-- The part with the extended graph is spelled from its labels. -/
theorem matrixPart_spelled :
    ∀ content ∈ outline.matrixPart, SpelledFrom extendedLabels content := by
  intro content member
  rcases List.mem_cons.mp member with rfl | member
  · exact outline.drawn.spelledFrom
  · obtain ⟨row, _, shows⟩ := exists_of_mem_forall₂ outline.matrix member
    exact shows.spelledFrom List.mem_cons_self

/-- Only the part with the copies has lines of copies. -/
theorem copyLine?_eq_none {content : Text}
    (member : content ∈ outline.costPart ∨ content ∈ outline.matrixPart) :
    copyLine? content = none := by
  rcases member with member | member
  · rw [List.mem_singleton.mp member]
    exact outline.priced.heads.copyLine?_eq_none (by decide)
  · rcases List.mem_cons.mp member with rfl | member
    · exact outline.drawn.copyLine?_eq_none (by decide)
    · obtain ⟨row, placed, shows⟩ := exists_of_mem_forall₂ outline.matrix member
      exact shows.copyLine?_eq_none (Graph.ne_nil_of_mem_toRows placed)

/-- Only the part with the cost has labels of the cost. -/
theorem no_costLabels : ∀ part ∈ [outline.copiesPart, outline.matrixPart], ∀ content ∈ part,
    containsAny content costLabels = false := by
  intro part placed content member
  rcases List.mem_pair.mp placed with rfl | rfl
  · exact (outline.copiesPart_spelled content member).containsAny_eq_false (by decide)
  · exact (outline.matrixPart_spelled content member).containsAny_eq_false (by decide)

/-- Only the part with the copies has labels of the list of copies. -/
theorem no_mappingLabels : ∀ part ∈ [outline.costPart, outline.matrixPart], ∀ content ∈ part,
    containsAny content mappingLabels = false := by
  intro part placed content member
  rcases List.mem_pair.mp placed with rfl | rfl
  · exact (outline.costPart_spelled content member).containsAny_eq_false (by decide)
  · exact (outline.matrixPart_spelled content member).containsAny_eq_false (by decide)

/-- Only the part with the extended graph has labels of it. -/
theorem no_extendedLabels : ∀ part ∈ [outline.costPart, outline.copiesPart], ∀ content ∈ part,
    containsAny content extendedLabels = false := by
  intro part placed content member
  rcases List.mem_pair.mp placed with rfl | rfl
  · exact (outline.costPart_spelled content member).containsAny_eq_false (by decide)
  · exact (outline.copiesPart_spelled content member).containsAny_eq_false (by decide)

/-- No line of a part is blank. -/
theorem ne_nil_of_mem : ∀ part ∈ outline.parts, ∀ content ∈ part, content ≠ [] := by
  intro part placed content member
  simp only [parts, List.mem_cons, List.not_mem_nil, or_false] at placed
  rcases placed with rfl | rfl | rfl
  · rw [List.mem_singleton.mp member]
    exact outline.priced.heads.ne_nil (by decide)
  · rcases List.mem_cons.mp member with rfl | member
    · exact outline.headed.ne_nil (by decide)
    · obtain ⟨copy, _, assignments, shape, _⟩ := exists_of_mem_forall₂ outline.lists member
      rintro rfl
      contradiction
  · rcases List.mem_cons.mp member with rfl | member
    · exact outline.drawn.ne_nil (by decide)
    · obtain ⟨row, placed, shows⟩ := exists_of_mem_forall₂ outline.matrix member
      exact (shows.trimmed (Graph.ne_nil_of_mem_toRows placed)).ne_nil

/-- Besides the parts with the copies and the matrix there is the one with the cost. -/
theorem eq_costPart {before after : List (List Text)} {part : List Text}
    (remaining : (before ++ outline.matrixPart :: after).Perm
      [outline.costPart, outline.matrixPart])
    (placed : part ∈ before ++ after) : part = outline.costPart := by
  have others : (before ++ after).Perm [outline.costPart] :=
    (List.perm_middle.symm.trans (remaining.trans (.swap _ _ _))).cons_inv
  exact List.mem_singleton.mp (others.mem_iff.mp placed)

section MatrixPlace

variable {front back : List Line} {heading : Line} {above below : List (List Text)}
variable (same : heading.content = outline.heading)
variable (first : ∀ line ∈ front, containsAny line.content mappingLabels = false)

include same first

/-- The list of copies goes to the end when the matrix stands before it. -/
theorem mappingLines?_of_matrix_before
    (before : visible front = (above ++ outline.matrixPart :: below).flatten)
    (priced : ∀ part ∈ above, part = outline.costPart) :
    mappingLines? (front ++ heading :: back) = some back := by
  have headed : Heads mappingLabels heading.content := same ▸ outline.headed
  rw [List.flatten_append, List.flatten_cons, matrixPart, List.cons_append] at before
  obtain ⟨top, header, middle, rfl, upper, drawing, _⟩ := exists_of_visible_eq before
  have drawn : Heads extendedLabels header.content := drawing ▸ outline.drawn
  refine mappingLines?_behind drawn.containsAny ?_ headed.containsAny first
  refine unmarked_of_parts upper (by decide) fun part placed => ?_
  exact outline.no_extendedLabels part (List.mem_cons.mpr (.inl (priced part placed)))

/-- The list of copies ends with the parts before the matrix when the matrix stands behind it. -/
theorem mappingLines?_of_matrix_behind {earlier : List (List Text)}
    (before : visible front = earlier.flatten)
    (after : visible back = outline.listed ++ (above ++ outline.matrixPart :: below).flatten)
    (priced : ∀ part ∈ earlier ++ above, part = outline.costPart) :
    ∃ body, mappingLines? (front ++ heading :: back) = some body ∧
      visible body = outline.listed ++ above.flatten := by
  have headed : Heads mappingLabels heading.content := same ▸ outline.headed
  rw [List.flatten_append, List.flatten_cons, ← List.append_assoc, matrixPart, List.cons_append]
    at after
  obtain ⟨body, header, tail, rfl, upper, drawing, _⟩ := exists_of_visible_eq after
  have drawn : Heads extendedLabels header.content := drawing ▸ outline.drawn
  refine ⟨body, mappingLines?_before headed.containsAny first drawn.containsAny ?_, upper⟩
  -- The part with the copies and those with the cost have no label of the matrix.
  have bare : ∀ part ∈ earlier ++ outline.copiesPart :: above, ∀ content ∈ part,
      containsAny content extendedLabels = false := by
    intro part placed
    rw [List.perm_middle.mem_iff, List.mem_cons] at placed
    rcases placed with rfl | placed
    · exact outline.no_extendedLabels _ (List.mem_cons_of_mem _ List.mem_cons_self)
    · exact outline.no_extendedLabels part (List.mem_cons.mpr (.inl (priced part placed)))
  refine unmarked_of_parts ?_ (by decide) bare
  have solid : heading.isEmpty = false :=
    List.isEmpty_eq_false_iff.mpr (headed.ne_nil (by decide))
  have shown : visible (heading :: body) = heading.content :: visible body := by
    simp [visible, solid]
  rw [visible_append, shown, before, upper, same]
  simp [copiesPart]

end MatrixPlace

variable {lines : List Line} {parts : List (List Text)}
variable (order : parts.Perm outline.parts) (seen : visible lines = parts.flatten)

include order seen

/-- The cost is read, wherever its part stands. -/
theorem readCost_eq : readCost lines = .ok cost := by
  obtain ⟨front, back, line, _, _, rfl, same, first, _⟩ :=
    exists_of_parts order seen (by decide) outline.no_costLabels
  have shows : ShowsCost cost line.content := same ▸ outline.priced
  exact shows.readCost_eq first

/-- The extended graph is read from the lines after its label, wherever its part stands. -/
theorem exists_extendedHeader? : ∃ header, extendedHeader? lines = some header ∧
    readExtended extended.order (lines.drop (header + 1)) = .ok extended := by
  have last : outline.parts.Perm [outline.matrixPart, outline.costPart, outline.copiesPart] :=
    List.perm_append_singleton outline.matrixPart [outline.costPart, outline.copiesPart]
  obtain ⟨front, back, line, _, _, rfl, same, first, _, after, _⟩ :=
    exists_of_parts (order.trans last) seen (by decide) outline.no_extendedLabels
  have drawn : Heads extendedLabels line.content := same ▸ outline.drawn
  refine ⟨front.length, extendedHeader?_eq first drawn.containsAny, ?_⟩
  have rest : (front ++ line :: back).drop (front.length + 1) = back := by
    rw [List.drop_append]
    simp
  rw [rest]
  exact readExtended_eq outline.matrix after

/-- The list of copies holds their lines, and besides them only lines of other parts. -/
theorem exists_mappingLines? : ∃ (body : List Line) (others : List (List Text)),
    mappingLines? lines = some body ∧ visible body = outline.listed ++ others.flatten ∧
      others ⊆ [outline.costPart, outline.matrixPart] := by
  have second : outline.parts.Perm [outline.copiesPart, outline.costPart, outline.matrixPart] :=
    .swap _ _ _
  obtain ⟨front, back, line, earlier, later, rfl, same, first, before, after, remaining⟩ :=
    exists_of_parts (order.trans second) seen (by decide) outline.no_mappingLabels
  have somewhere : outline.matrixPart ∈ earlier ++ later := remaining.mem_iff.mpr (by simp)
  rcases List.mem_append.mp somewhere with placed | placed
  · -- The matrix stands earlier, so the list goes to the end.
    obtain ⟨above, below, rfl⟩ := List.append_of_mem placed
    rw [List.append_assoc] at remaining
    have located : mappingLines? (front ++ line :: back) = some back :=
      outline.mappingLines?_of_matrix_before same first before fun part placed =>
        outline.eq_costPart remaining (List.mem_append_left _ placed)
    exact ⟨back, later, located, after, fun part placed => remaining.mem_iff.mp
      (List.mem_append_right _ (List.mem_cons_of_mem _ (List.mem_append_right _ placed)))⟩
  · -- The matrix stands later and ends the list.
    obtain ⟨above, below, rfl⟩ := List.append_of_mem placed
    rw [← List.append_assoc] at remaining
    obtain ⟨body, located, listing⟩ := outline.mappingLines?_of_matrix_behind same first before
      after fun part placed => outline.eq_costPart remaining (List.mem_append_left _ placed)
    exact ⟨body, above, located, listing, fun part placed =>
      remaining.mem_iff.mp (List.mem_append_left _ (List.mem_append_right _ placed))⟩

/-- The copies are read, wherever their part stands. -/
theorem readMappings_eq {sizes : Sizes} (count : copies.length < UInt64.size)
    (sources : ∀ mapping ∈ copies, mapping.sources = sizes.pattern) :
    readMappings sizes lines = .ok copies := by
  obtain ⟨body, others, located, listing, foreign⟩ := outline.exists_mappingLines? order seen
  refine Verbose.readMappings_eq located listing outline.numbered outline.lists ?_ count sources
  intro content member
  obtain ⟨part, placed, inside⟩ := List.mem_flatten.mp member
  rcases List.mem_pair.mp (foreign placed) with rfl | rfl
  · exact outline.copyLine?_eq_none (.inl inside)
  · exact outline.copyLine?_eq_none (.inr inside)

/-- The answer is read, whatever the order of its parts. -/
theorem ofLines_eq {sizes : Sizes} (vertices : extended.order = sizes.target)
    (count : copies.length < UInt64.size)
    (sources : ∀ mapping ∈ copies, mapping.sources = sizes.pattern) :
    ofLines sizes lines = .ok ⟨extended, some copies, cost⟩ := by
  obtain ⟨header, located, drawn⟩ := outline.exists_extendedHeader? order seen
  have listed := outline.readMappings_eq order seen count sources
  exact ofLines_eq_ok_iff.mpr ⟨outline.readCost_eq order seen, ⟨copies, listed, rfl⟩, header,
    located, vertices ▸ drawn⟩

end Outline

/-- The labels of a report. -/
def reportLabels : List Text := costLabels ++ mappingLabels ++ copyLabels ++ extendedLabels

/-- A text whose visible lines are those of an outline claims no refusal. -/
theorem Outline.reportsNoSolution_eq_false {extended : Graph} {copies : List Mapping}
    {cost : UInt64} (outline : Outline extended copies cost) {text : Text}
    {parts : List (List Text)} (order : parts.Perm outline.parts)
    (seen : visible text.numberedLines = parts.flatten) : reportsNoSolution text = false := by
  have spelled : ∀ part ∈ parts, ∀ content ∈ part, SpelledFrom reportLabels content := by
    intro part placed content member
    have known := order.mem_iff.mp placed
    simp only [Outline.parts, List.mem_cons, List.not_mem_nil, or_false] at known
    rcases known with rfl | rfl | rfl
    · exact (outline.costPart_spelled content member).weaken (by decide)
    · exact (outline.copiesPart_spelled content member).weaken (by decide)
    · exact (outline.matrixPart_spelled content member).weaken (by decide)
  have blank : SpelledFrom reportLabels [] :=
    ⟨"copy".toList, by decide, fun _ member => absurd member List.not_mem_nil⟩
  refine CopyOracle.reportsNoSolution_eq_false fun line listed => ?_
  have numbered : line.trim ∈ text.numberedLines.map Line.content := by
    rw [Text.numberedLines_map_content]
    exact List.mem_map_of_mem listed
  obtain ⟨numberedLine, placed, same⟩ := List.mem_map.mp numbered
  have letters := forall_content_of_parts seen blank spelled numberedLine placed
  rw [same, SpelledFrom.trim_iff] at letters
  exact letters.containsAny_eq_false (by decide)

/-- The parts of a report have an outline when they are trimmed. -/
theorem exists_outline {extended : Graph} {copies : List Mapping} {cost : UInt64}
    {costPart copiesPart matrixPart : List Text} (priced : CostPart cost costPart)
    (listed : CopiesPart copies copiesPart) (drawn : MatrixPart extended matrixPart)
    (bound : ∀ mapping ∈ copies, ∀ pair ∈ mapping.assignments,
      pair.1 < UInt64.size ∧ pair.2 < UInt64.size) :
    ∃ outline : Outline extended copies cost,
      outline.parts = [costPart, copiesPart, matrixPart].map (List.map Text.trim) := by
  obtain ⟨price, shows, rfl⟩ := priced
  obtain ⟨heading, lines, headed, rfl, listing, numbered, listed⟩ := listed
  obtain ⟨drawing, rows, headed_matrix, rfl, matrix⟩ := drawn
  have bounded : ∀ copy ∈ listing, ∀ pair ∈ copy.2.assignments,
      pair.1 < UInt64.size ∧ pair.2 < UInt64.size := by
    intro copy member
    obtain ⟨⟨mapping, number⟩, placed, rfl⟩ := List.mem_map.mp (numbered.mem_iff.mp member)
    exact bound mapping (List.fst_mem_of_mem_zipIdx placed)
  have lists : List.Forall₂ Lists listing (lines.map Text.trim) := by
    refine List.forall₂_map_right_iff.mpr (List.Forall₂.imp ?_
      ((List.forall₂_and_left _ _).mpr ⟨bounded, listed⟩))
    exact fun copy line both => both.2.lists both.1
  have spelled : ∀ content ∈ lines.map Text.trim, SpelledFrom copyLabels content := by
    intro content member
    obtain ⟨line, placed, rfl⟩ := List.mem_map.mp member
    obtain ⟨copy, _, shown⟩ := exists_of_mem_forall₂ listed placed
    exact SpelledFrom.trim_iff.mpr shown.spelledFrom
  have trimmed_matrix : List.Forall₂ ShowsNumberedRow extended.toRows (rows.map Text.trim) := by
    refine List.forall₂_map_right_iff.mpr (List.Forall₂.imp ?_ ((List.forall₂_and_left _ _).mpr
      ⟨fun row member => Graph.ne_nil_of_mem_toRows member, matrix⟩))
    intro row line both
    rw [(both.2.trimmed both.1).trim_eq]
    exact both.2
  refine ⟨⟨price, shows, heading.trim, headed.trim (by decide), listing, numbered,
    lines.map Text.trim, lists, spelled, drawing.trim, headed_matrix.trim (by decide),
    rows.map Text.trim, trimmed_matrix⟩, ?_⟩
  simp only [Outline.parts, Outline.costPart, Outline.copiesPart, Outline.matrixPart, List.map_cons,
    List.map_nil, shows.trim_eq]

/-- The visible lines of a report are its trimmed parts. -/
theorem visible_numberedLines {text : Text} {parts : List (List Text)}
    (shown : Text.Interspersed Text.Blank parts.flatten text.lines)
    (solid : ∀ part ∈ parts, ∀ content ∈ part, content.trim ≠ []) :
    visible text.numberedLines = (parts.map (List.map Text.trim)).flatten := by
  have contents : visible text.numberedLines =
      (text.lines.map Text.trim).filter fun content => !content.isEmpty := by
    rw [← Text.numberedLines_map_content, List.filter_map]
    rfl
  rw [contents, ← List.map_flatten]
  refine shown.filter_trim (fun line blank => ?_) fun content member => ?_
  · rw [Text.trim_eq_nil_iff.mpr blank]
    rfl
  · obtain ⟨part, placed, inside⟩ := List.mem_flatten.mp member
    simpa using solid part placed content inside

/-- A text with the line of the cost among its lines is told for a report and is not blank. -/
theorem ShowsCost.sniff_eq_verbose {cost : UInt64} {price text : Text} {contents : List Text}
    (shows : ShowsCost cost price) (placed : price ∈ contents)
    (shown : Text.Interspersed Text.Blank contents text.lines) :
    Dialect.sniff text = .verbose ∧ text.trim.isEmpty = false := by
  obtain ⟨line, inside, occurs⟩ := shown.exists_line placed
  obtain ⟨label, known, found⟩ := containsAny_eq_true_iff.mp shows.heads.containsAny
  have marked : containsAny line Dialect.verboseMarks = true :=
    containsAny_eq_true_iff.mpr
      ⟨label, List.mem_cons_of_mem _ (List.mem_cons_of_mem _ known), found.trans occurs⟩
  obtain ⟨c, rest, rfl, solid⟩ :=
    (labels_trimmed label (List.mem_append_left _ (List.mem_append_left _ known))).first
  have visible : c ∈ line := (found.trans occurs).subset List.mem_cons_self
  exact ⟨CopyOracle.sniff_eq_verbose inside marked, trim_isEmpty_eq_false inside visible solid⟩

/-- A report of an answer with listed copies is told for one and read back as the answer: with its
parts in any order, its labels in either language, its copies in any order, assigned in whole or
in part and fewer, as many or more than were asked for, and any white space between the lines. The
sizes of the pattern, of the list and of each target are machine words. -/
theorem reads_reported {sizes : Sizes} {extended : Graph} {copies : List Mapping} {cost : UInt64}
    {text : Text} (vertices : extended.order = sizes.target)
    (sources : ∀ mapping ∈ copies, mapping.sources = sizes.pattern)
    (targets : ∀ mapping ∈ copies, ∀ pair ∈ mapping.assignments, pair.2 < UInt64.size)
    (pattern : sizes.pattern < UInt64.size) (count : copies.length < UInt64.size)
    (reports : Reports ⟨extended, some copies, cost⟩ text) :
    Dialect.sniff text = .verbose ∧
      Claim.read sizes text = .ok (.found ⟨extended, some copies, cost⟩) := by
  have bound : ∀ mapping ∈ copies, ∀ pair ∈ mapping.assignments,
      pair.1 < UInt64.size ∧ pair.2 < UInt64.size := by
    rintro mapping member ⟨source, target⟩ assigned
    have inside := Mapping.lt_sources_of_get? (Mapping.mem_assignments.mp assigned)
    rw [sources mapping member] at inside
    exact ⟨Nat.lt_trans inside pattern, targets mapping member _ assigned⟩
  cases reports with
  | @parts _ _ _ _ costPart copiesPart matrixPart parts priced listed drawn order shown =>
    obtain ⟨outline, trimmed⟩ := exists_outline priced listed drawn bound
    have arranged : (parts.map (List.map Text.trim)).Perm outline.parts := trimmed ▸ order.map _
    have seen := visible_numberedLines shown fun part placed content member =>
      outline.ne_nil_of_mem _ (arranged.mem_iff.mp (List.mem_map_of_mem placed)) _
        (List.mem_map_of_mem member)
    have silent := outline.reportsNoSolution_eq_false arranged seen
    have read : Verbose.read sizes text = .ok ⟨extended, some copies, cost⟩ :=
      outline.ofLines_eq arranged seen vertices count sources
    obtain ⟨price, shows, rfl⟩ := priced
    have placed : price ∈ parts.flatten :=
      List.mem_flatten.mpr ⟨[price], order.mem_iff.mpr List.mem_cons_self, List.mem_cons_self⟩
    obtain ⟨verbose, filled⟩ := shows.sniff_eq_verbose placed shown
    refine ⟨verbose, ?_⟩
    rw [Claim.read, filled, if_neg Bool.false_ne_true, verbose, Dialect.read, silent,
      if_neg Bool.false_ne_true, read]
    rfl

/-- A report with the matrix in front, rows with and without a number, the second copy before the
first one, a vertex without a target and a copy more than was asked for is read back. -/
theorem reads_reported_mixed :
    Reports ⟨.ofFn 2 fun u v => if u < v then 7 else 0,
        some [⟨[none, some 5]⟩, ⟨[some 1, some 0]⟩], 12⟩
      ("Rozszerzony graf G'2:\n[0] 0 7\n\n  0 0\nMappings:\n" ++
        " kOPIA 2: 0->1, 1->0\nCopy 1: 1->5\nKoszt rozszerzenia:12").toList ∧
    Claim.read ⟨2, 2, 1⟩
      ("Rozszerzony graf G'2:\n[0] 0 7\n\n  0 0\nMappings:\n" ++
        " kOPIA 2: 0->1, 1->0\nCopy 1: 1->5\nKoszt rozszerzenia:12").toList =
      .ok (.found ⟨.ofFn 2 fun u v => if u < v then 7 else 0,
        some [⟨[none, some 5]⟩, ⟨[some 1, some 0]⟩], 12⟩) := by
  refine ⟨?shown, (reads_reported rfl (by decide) (by decide) (by decide) (by decide) ?shown).2⟩
  have priced : CostPart 12 ["Koszt rozszerzenia:12".toList] :=
    ⟨_, ⟨"Koszt rozszerzenia:".toList, by decide, [], by decide, by decide⟩, rfl⟩
  have listed : CopiesPart [⟨[none, some 5]⟩, ⟨[some 1, some 0]⟩]
      ["Mappings:".toList, "kOPIA 2: 0->1, 1->0".toList, "Copy 1: 1->5".toList] :=
    ⟨_, _, ⟨"Mappings:".toList, by decide, [], by decide, by decide⟩, rfl,
      [(2, ⟨[some 1, some 0]⟩), (1, ⟨[none, some 5]⟩)], .swap _ _ _,
      .cons ⟨"kOPIA".toList, by decide, by decide⟩
        (.cons ⟨"Copy".toList, by decide, by decide⟩ .nil)⟩
  have drawn : MatrixPart (.ofFn 2 fun u v => if u < v then 7 else 0)
      ["Rozszerzony graf G'2:".toList, "[0] 0 7".toList, "0 0".toList] :=
    ⟨_, _, ⟨"Rozszerzony graf".toList, by decide, " G'2:".toList, by decide, by decide⟩, rfl,
      .cons (.inr ⟨0, by decide⟩) (.cons (.inl (by decide)) .nil)⟩
  have printed : Text.lines ("Rozszerzony graf G'2:\n[0] 0 7\n\n  0 0\nMappings:\n" ++
        " kOPIA 2: 0->1, 1->0\nCopy 1: 1->5\nKoszt rozszerzenia:12").toList =
      ["Rozszerzony graf G'2:".toList, "[0] 0 7".toList, [], "  0 0".toList, "Mappings:".toList,
        " kOPIA 2: 0->1, 1->0".toList, "Copy 1: 1->5".toList, "Koszt rozszerzenia:12".toList] := by
    decide +kernel
  refine .parts priced listed drawn (List.reverse_perm _) ?_
  rw [printed]
  have bare : Text.Blank [] := by decide
  have gap : Text.Blank "  ".toList := by decide
  have space : Text.Blank " ".toList := by decide
  refine .content bare bare (.content bare bare (.other bare (.content gap bare ?_)))
  refine .content bare bare (.content space bare (.content bare bare ?_))
  exact .content bare bare .done

end Verbose

end CopyOracle
