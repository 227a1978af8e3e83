import CopyOracle.Proofs.Answer.Listing
import CopyOracle.Proofs.Text.Occurrence
/-!
# The line of a copy

The line of a copy is a label in letters of either size, the number of the copy, a colon, and the
tokens of its assignments. A token without an arrow assigns nothing. One with an arrow is read
only when it is two numerals with the arrow between, the first of a pattern vertex. A vertex named
by several tokens has the target of the last one, since each assignment replaces an earlier one.
`HoldsCopy` says all this of a line and a copy without running the reader.
-/

namespace CopyOracle

namespace Verbose

/-- The token is a numeral of a vertex and one of its target with an arrow between. -/
def Assigns (token : Text) (source target : Nat) : Prop :=
  ∃ left right, token = left ++ '-' :: '>' :: right ∧
    Numeral.Denotes left source ∧ Numeral.Denotes right target

section Tokens

variable {token : Text} {tokens : List Text} {order line copy source target : Nat}

/-- A numeral has no arrow in it, so an assignment is cut at its only arrow. -/
theorem assigns_iff_cut? : Assigns token source target ↔ ∃ left right,
    token.cut? ['-', '>'] = some (left, right) ∧
      Numeral.Denotes left source ∧ Numeral.Denotes right target := by
  constructor
  · rintro ⟨left, right, rfl, first, second⟩
    have absent : '-' ∉ left := by
      intro member
      rcases first.plain member with digit | sign <;> contradiction
    exact ⟨left, right, Text.cut?_append_cons absent ['>'] right, first, second⟩
  · rintro ⟨left, right, cut, first, second⟩
    exact ⟨left, right, Text.eq_of_cut? cut, first, second⟩

/-- A token makes one assignment. -/
theorem Assigns.unique {source' target' : Nat} (here : Assigns token source target)
    (there : Assigns token source' target') : source = source' ∧ target = target' := by
  obtain ⟨left, right, cut, first, second⟩ := assigns_iff_cut?.mp here
  obtain ⟨left', right', cut', first', second'⟩ := assigns_iff_cut?.mp there
  obtain ⟨rfl, rfl⟩ := Prod.mk.inj (Option.some.inj (cut.symm.trans cut'))
  exact ⟨first.unique first', second.unique second'⟩

/-- An assignment has an arrow. -/
theorem Assigns.hasArrow (assigns : Assigns token source target) : ['-', '>'] <:+: token := by
  obtain ⟨left, right, rfl, _⟩ := assigns
  exact ⟨left, right, by simp⟩

/-- The token has no arrow, or it assigns a vertex below the order and both numbers fit into a
machine word. -/
def Readable (order : Nat) (token : Text) : Prop :=
  ['-', '>'] <:+: token → ∃ source target, Assigns token source target ∧ source < order ∧
    source < UInt64.size ∧ target < UInt64.size

/-- A token is taken exactly when it is readable, and it changes the target of the vertex that it
assigns, if it assigns one. -/
theorem assign_eq_ok_iff {mapping made : Mapping} :
    assign order line copy mapping token = .ok made ↔ Readable mapping.sources token ∧
      made.sources = mapping.sources ∧ ∀ u v, made.get? u = some v ↔
        Assigns token u v ∨ (∀ w, ¬Assigns token u w) ∧ mapping.get? u = some v := by
  rw [assign]
  cases cut : token.cut? ['-', '>'] with
  | none =>
    have plain : ¬['-', '>'] <:+: token := (Text.cut?_eq_none_iff (by decide)).mp cut
    have idle (u w : Nat) : ¬Assigns token u w := fun assigns => plain assigns.hasArrow
    simp only [Except.ok.injEq, idle, false_or, not_false_eq_true, implies_true, true_and]
    constructor
    · rintro rfl
      exact ⟨fun arrow => absurd arrow plain, rfl, fun u v => Iff.rfl⟩
    · rintro ⟨_, sources, entries⟩
      exact (Mapping.eq_of_get? sources entries).symm
  | some parts =>
    obtain ⟨left, right⟩ := parts
    have assigns_iff (u v : Nat) : Assigns token u v ↔
        Numeral.Denotes left u ∧ Numeral.Denotes right v := by
      simp [assigns_iff_cut?, cut]
    have arrow : ['-', '>'] <:+: token := by
      by_contra plain
      rw [(Text.cut?_eq_none_iff (by decide)).mpr plain] at cut
      contradiction
    -- What is made is told by its targets, so it is compared with what the reader makes.
    have taken {u v : Nat} (assigns : Assigns token u v) {next : Mapping}
        (set : mapping.set? u v = some next) : next.sources = mapping.sources ∧
        ∀ w x, next.get? w = some x ↔
          Assigns token w x ∨ (∀ y, ¬Assigns token w y) ∧ mapping.get? w = some x := by
      obtain ⟨_, sources, entries⟩ := Mapping.of_set?_eq_some set
      refine ⟨sources, fun w x => ?_⟩
      rw [entries]
      by_cases same : w = u
      · subst same
        rw [if_pos rfl, Option.some.injEq]
        constructor
        · rintro rfl
          exact .inl assigns
        · rintro (again | ⟨idle, _⟩)
          · exact (assigns.unique again).2
          · exact absurd assigns (idle v)
      · have idle (y : Nat) : ¬Assigns token w y := fun other => same (other.unique assigns).1
        rw [if_neg same]
        simp [idle]
    simp only [bind_eq_ok_iff, AnswerError.readSize_eq_ok_iff]
    constructor
    · rintro ⟨u, ⟨first, small⟩, v, ⟨second, small'⟩, read⟩
      have assigns := (assigns_iff u v).mpr ⟨first, second⟩
      split at read
      · next next set =>
        obtain rfl := Except.ok.inj read
        have inside := (Mapping.of_set?_eq_some set).1
        exact ⟨fun _ => ⟨u, v, assigns, inside, small, small'⟩, taken assigns set⟩
      · contradiction
    · rintro ⟨readable, sources, entries⟩
      obtain ⟨u, v, assigns, inside, small, small'⟩ := readable arrow
      obtain ⟨first, second⟩ := (assigns_iff u v).mp assigns
      refine ⟨u, ⟨first, small⟩, v, ⟨second, small'⟩, ?_⟩
      have set : mapping.set? u v = some ⟨mapping.targets.set u (some v)⟩ := if_pos inside
      obtain ⟨kept, changed⟩ := taken assigns set
      rw [set, Mapping.eq_of_get? (sources.trans kept.symm) fun w x =>
        (entries w x).trans (changed w x).symm]

/-- The last of the tokens that assign the vertex gives it the target. -/
def LastAssigned (tokens : List Text) (source target : Nat) : Prop :=
  ∃ before token after, tokens = before ++ token :: after ∧ Assigns token source target ∧
    ∀ later ∈ after, ∀ other, ¬Assigns later source other

/-- A token at the end has the last word on the vertex that it assigns. -/
theorem lastAssigned_concat : LastAssigned (tokens ++ [token]) source target ↔
    Assigns token source target ∨
      (∀ other, ¬Assigns token source other) ∧ LastAssigned tokens source target := by
  constructor
  · rintro ⟨before, last, after, same, assigns, idle⟩
    rcases List.eq_nil_or_concat after with rfl | ⟨after, ending, rfl⟩
    · obtain ⟨_, ended⟩ := List.append_inj' same rfl
      exact .inl (List.singleton_inj.mp ended ▸ assigns)
    · rw [List.concat_eq_append, ← List.cons_append, ← List.append_assoc] at same
      obtain ⟨rfl, ended⟩ := List.append_inj' same rfl
      obtain rfl := List.singleton_inj.mp ended
      exact .inr ⟨idle token (by simp), before, last, after, rfl, assigns,
        fun later member => idle later (by simp [member])⟩
  · rintro (assigns | ⟨silent, before, last, after, rfl, assigns, idle⟩)
    · exact ⟨tokens, token, [], rfl, assigns, fun later member => absurd member List.not_mem_nil⟩
    · refine ⟨before, last, after ++ [token], by simp, assigns, fun later member => ?_⟩
      rcases List.mem_append.mp member with member | ending
      · exact idle later member
      · exact List.mem_singleton.mp ending ▸ silent

/-- The last assignment is one of the tokens. -/
theorem LastAssigned.exists_token (last : LastAssigned tokens source target) :
    ∃ token ∈ tokens, Assigns token source target := by
  obtain ⟨before, token, after, rfl, assigns, _⟩ := last
  exact ⟨token, by simp, assigns⟩

/-- A vertex that a token assigns has a last assignment. -/
theorem exists_lastAssigned (member : token ∈ tokens) (assigns : Assigns token source target) :
    ∃ last, LastAssigned tokens source last := by
  induction tokens using List.reverseRecOn with
  | nil => simp at member
  | append_singleton tokens ending ih =>
    simp only [lastAssigned_concat]
    by_cases named : ∃ other, Assigns ending source other
    · obtain ⟨other, ends⟩ := named
      exact ⟨other, .inl ends⟩
    · rcases List.mem_append.mp member with member | ends
      · obtain ⟨last, found⟩ := ih member
        exact ⟨last, .inr ⟨not_exists.mp named, found⟩⟩
      · exact absurd ⟨target, List.mem_singleton.mp ends ▸ assigns⟩ named

/-- The mapping is the one that the tokens write: each of them is readable, and each vertex has the
target of the last token that assigns it. -/
structure Records (order : Nat) (tokens : List Text) (mapping : Mapping) : Prop where
  /-- The mapping covers the pattern. -/
  sources : mapping.sources = order
  /-- Every token is taken. -/
  readable : ∀ token ∈ tokens, Readable order token
  /-- The last assignments are kept. -/
  entries : ∀ u v, mapping.get? u = some v ↔ LastAssigned tokens u v

/-- The tokens write one mapping. -/
theorem Records.unique {left right : Mapping} (here : Records order tokens left)
    (there : Records order tokens right) : left = right :=
  Mapping.eq_of_get? (here.sources.trans there.sources.symm) fun u v =>
    (here.entries u v).trans (there.entries u v).symm

/-- No tokens write the mapping without assignments. -/
theorem records_nil (order : Nat) : Records order [] (.unassigned order) where
  sources := List.length_replicate
  readable := fun token member => absurd member List.not_mem_nil
  entries := fun u v => by simp [Mapping.get?_unassigned, LastAssigned]

/-- One more token is taken by one more step of the reader. -/
theorem Records.concat_iff {mapping made : Mapping} (records : Records order tokens mapping) :
    assign order line copy mapping token = .ok made ↔ Records order (tokens ++ [token]) made := by
  rw [assign_eq_ok_iff, records.sources]
  simp only [records.entries, ← lastAssigned_concat]
  constructor
  · rintro ⟨readable, sources, entries⟩
    refine ⟨sources, fun other member => ?_, entries⟩
    rcases List.mem_append.mp member with earlier | ending
    · exact records.readable other earlier
    · exact List.mem_singleton.mp ending ▸ readable
  · rintro ⟨sources, readable, entries⟩
    exact ⟨readable token (by simp), sources, entries⟩

/-- Readable tokens write a mapping. -/
theorem exists_records (readable : ∀ token ∈ tokens, Readable order token) :
    ∃ mapping, Records order tokens mapping := by
  induction tokens using List.reverseRecOn with
  | nil => exact ⟨_, records_nil order⟩
  | append_singleton tokens token ih =>
    obtain ⟨mapping, records⟩ := ih fun other member => readable other (by simp [member])
    -- The line and the copy are named in errors only.
    suffices taken : ∃ made, assign order 0 0 mapping token = .ok made by
      obtain ⟨made, read⟩ := taken
      exact ⟨made, records.concat_iff.mp read⟩
    by_cases arrow : ['-', '>'] <:+: token
    · obtain ⟨u, v, assigns, inside, small, small'⟩ := readable token (by simp) arrow
      obtain ⟨left, right, cut, first, second⟩ := assigns_iff_cut?.mp assigns
      have set : mapping.set? u v = some ⟨mapping.targets.set u (some v)⟩ :=
        if_pos (records.sources ▸ inside)
      refine ⟨⟨mapping.targets.set u (some v)⟩, ?_⟩
      simp only [assign, cut, bind_eq_ok_iff, AnswerError.readSize_eq_ok_iff]
      exact ⟨u, ⟨first, small⟩, v, ⟨second, small'⟩, by rw [set]⟩
    · refine ⟨mapping, ?_⟩
      rw [assign, (Text.cut?_eq_none_iff (by decide)).mpr arrow]

/-- The reader makes exactly the mapping that the tokens write. -/
theorem foldlM_assign_eq_ok_iff {mapping : Mapping} :
    tokens.foldlM (assign order line copy) (.unassigned order) = .ok mapping ↔
      Records order tokens mapping := by
  induction tokens using List.reverseRecOn generalizing mapping with
  | nil =>
    constructor
    · intro read
      exact Except.ok.inj read ▸ records_nil order
    · intro records
      exact congrArg Except.ok ((records_nil order).unique records)
  | append_singleton tokens token ih =>
    rw [List.foldlM_append, bind_eq_ok_iff]
    simp only [List.foldlM_cons, List.foldlM_nil, bind_pure, ih]
    constructor
    · rintro ⟨earlier, records, read⟩
      exact records.concat_iff.mp read
    · intro records
      have readable : ∀ other ∈ tokens, Readable order other := fun other member =>
        records.readable other (List.mem_append_left _ member)
      obtain ⟨earlier, written⟩ := exists_records readable
      exact ⟨earlier, written, written.concat_iff.mpr records⟩

end Tokens

/-- The content is the line of a copy: a label in letters of either size, digits with the number of
the copy and white space around them, a colon, and the assignments. -/
def CopyLine (content : Text) (number : Nat) (assignments : Text) : Prop :=
  ∃ label middle, label.lower ∈ copyLabels ∧ content = label ++ (middle ++ ':' :: assignments) ∧
    ':' ∉ middle ∧ (∀ c ∈ middle.trim, c.isDigit = true) ∧ Numeral.Denotes middle.trim number

/-- A line is taken apart behind its label and at its first colon. -/
theorem copyLine?_eq_some_iff {content digits assignments : Text} :
    copyLine? content = some (digits, assignments) ↔ ∃ label middle, label.lower ∈ copyLabels ∧
      content = label ++ (middle ++ ':' :: assignments) ∧ ':' ∉ middle ∧ middle.trim = digits ∧
      digits ≠ [] ∧ ∀ c ∈ digits, c.isDigit = true := by
  have cut_iff (rest middle : Text) : rest.cut? [':'] = some (middle, assignments) ↔
      rest = middle ++ ':' :: assignments ∧ ':' ∉ middle := Text.cut?_singleton_eq_some_iff
  simp only [copyLine?, Option.bind_eq_bind, Option.bind_eq_some_iff, Prod.exists]
  constructor
  · rintro ⟨word, found, middle, rest, cut, shape⟩
    split at shape
    · next digits_only =>
      obtain ⟨rfl, rfl⟩ := Prod.mk.inj (Option.some.inj shape)
      rw [Bool.and_eq_true, Bool.not_eq_true', List.isEmpty_eq_false_iff, List.all_eq_true]
        at digits_only
      obtain ⟨same, absent⟩ := (cut_iff _ _).mp cut
      have front : word <+: content.lower :=
        List.isPrefixOf_iff_prefix.mp (by simpa using List.find?_some found)
      have spelled : Text.lower (content.take word.length) = word := by
        rw [Text.lower, List.map_take]
        exact (List.prefix_iff_eq_take.mp front).symm
      have known : Text.lower (content.take word.length) ∈ copyLabels := by
        rw [spelled]
        exact List.mem_of_find?_eq_some found
      refine ⟨content.take word.length, middle, known, ?_, absent, rfl, digits_only⟩
      rw [← same, List.take_append_drop]
    · contradiction
  · rintro ⟨label, middle, known, rfl, absent, rfl, digits_only⟩
    have found : (copyLabels.find? fun word =>
        word.isPrefixOf (label ++ (middle ++ ':' :: assignments)).lower) = some label.lower := by
      rw [Text.lower, List.map_append, ← Text.lower]
      generalize label.lower = word at known
      simp only [copyLabels, List.mem_cons, List.not_mem_nil, or_false] at known
      rcases known with rfl | rfl <;> simp [copyLabels, List.isPrefixOf]
    have behind : (label ++ (middle ++ ':' :: assignments)).drop label.lower.length =
        middle ++ ':' :: assignments := by
      rw [Text.lower, List.length_map, List.drop_left]
    refine ⟨label.lower, found, middle, assignments, ?_, ?_⟩
    · rw [behind]
      exact (cut_iff _ _).mpr ⟨rfl, absent⟩
    · rw [if_pos]
      simpa using digits_only

/-- The line of a copy is taken apart into the digits of its number and its assignments. -/
theorem copyLine_iff {content assignments : Text} {number : Nat} :
    CopyLine content number assignments ↔
      ∃ digits, copyLine? content = some (digits, assignments) ∧ Numeral.Denotes digits number := by
  simp only [copyLine?_eq_some_iff]
  constructor
  · rintro ⟨label, middle, known, same, absent, all, denotes⟩
    have nonempty : middle.trim ≠ [] := by
      obtain ⟨digits, rfl | same, nonempty, _⟩ := denotes
      · exact nonempty
      · simp [same]
    exact ⟨middle.trim, ⟨label, middle, known, same, absent, rfl, nonempty, all⟩, denotes⟩
  · rintro ⟨_, ⟨label, middle, known, same, absent, rfl, _, all⟩, denotes⟩
    exact ⟨label, middle, known, same, absent, all, denotes⟩

/-- The line of a copy has one number and one text of assignments. -/
theorem CopyLine.unique {content assignments assignments' : Text} {number number' : Nat}
    (here : CopyLine content number assignments) (there : CopyLine content number' assignments') :
    number = number' ∧ assignments = assignments' := by
  obtain ⟨digits, shape, denotes⟩ := copyLine_iff.mp here
  obtain ⟨digits', shape', denotes'⟩ := copyLine_iff.mp there
  obtain ⟨rfl, rfl⟩ := Prod.mk.inj (Option.some.inj (shape.symm.trans shape'))
  exact ⟨denotes.unique denotes', rfl⟩

/-- A line is taken for the line of a copy exactly when it is one. -/
theorem isCopyLine_iff {line : Line} :
    isCopyLine line = true ↔ ∃ number assignments, CopyLine line.content number assignments := by
  rw [isCopyLine, Option.isSome_iff_exists]
  constructor
  · rintro ⟨⟨digits, assignments⟩, shape⟩
    obtain ⟨_, _, _, _, _, _, nonempty, all⟩ := copyLine?_eq_some_iff.mp shape
    exact ⟨_, assignments, copyLine_iff.mpr ⟨digits, shape, digits, .inl rfl, nonempty, all, rfl⟩⟩
  · rintro ⟨number, assignments, line⟩
    obtain ⟨digits, shape, _⟩ := copyLine_iff.mp line
    exact ⟨_, shape⟩

/-- The content is the line of the copy: it has the number of the copy, a positive machine word,
and tokens that write the mapping. -/
def HoldsCopy (order : Nat) (copy : Nat × Mapping) (content : Text) : Prop :=
  (0 < copy.1 ∧ copy.1 < UInt64.size) ∧ ∃ assignments, CopyLine content copy.1 assignments ∧
    Records order (assignmentTokens assignments) copy.2

/-- A line that is not that of a copy lists nothing, and one that is lists its copy if the number
is new. -/
theorem listCopy_eq_ok_iff {sizes : Sizes} {listed next : List (Nat × Mapping)} {line : Line} :
    listCopy sizes listed line = .ok next ↔ isCopyLine line = false ∧ next = listed ∨
      ∃ copy, HoldsCopy sizes.pattern copy line.content ∧
        (∀ earlier ∈ listed, earlier.1 ≠ copy.1) ∧ next = insertCopy copy.1 copy.2 listed := by
  rw [listCopy]
  cases shape : copyLine? line.content with
  | none =>
    have other : isCopyLine line = false := by rw [isCopyLine, shape]; rfl
    have unlike (copy : Nat × Mapping) : ¬HoldsCopy sizes.pattern copy line.content := by
      rintro ⟨_, assignments, holds, _⟩
      rw [isCopyLine_iff.mpr ⟨_, _, holds⟩] at other
      contradiction
    simp [other, unlike, eq_comm]
  | some parts =>
    obtain ⟨digits, assignments⟩ := parts
    have counted : isCopyLine line = true := by simp [isCopyLine, shape]
    have numbered_iff {number : Nat} {text : Text} : CopyLine line.content number text ↔
        Numeral.Denotes digits number ∧ assignments = text := by
      simp [copyLine_iff, shape, and_comm]
    have fresh_iff (number : Nat) : (listed.any fun earlier => earlier.1 == number) = false ↔
        ∀ earlier ∈ listed, earlier.1 ≠ number := by simp
    simp only [counted, Bool.true_eq_false, false_and, false_or, bind_eq_ok_iff,
      AnswerError.readSize_eq_ok_iff]
    constructor
    · rintro ⟨number, ⟨denotes, small⟩, read⟩
      split at read
      · contradiction
      · next nonzero =>
        split at read
        · contradiction
        · next unlisted =>
          obtain ⟨mapping, made, inserted⟩ := bind_eq_ok_iff.mp read
          refine ⟨(number, mapping), ⟨⟨Nat.pos_of_ne_zero nonzero, small⟩, assignments,
            numbered_iff.mpr ⟨denotes, rfl⟩, foldlM_assign_eq_ok_iff.mp made⟩, ?_,
            (Except.ok.inj inserted).symm⟩
          exact (fresh_iff number).mp (Bool.eq_false_iff.mpr unlisted)
    · rintro ⟨⟨number, mapping⟩, ⟨⟨positive, small⟩, text, holds, records⟩, fresh, rfl⟩
      obtain ⟨denotes, rfl⟩ := numbered_iff.mp holds
      refine ⟨number, ⟨denotes, small⟩, ?_⟩
      rw [if_neg (Nat.pos_iff_ne_zero.mp positive), (fresh_iff number).mpr fresh,
        if_neg Bool.false_ne_true]
      exact bind_eq_ok_iff.mpr ⟨mapping, foldlM_assign_eq_ok_iff.mpr records, rfl⟩

/-- The list is read when its copy lines hold copies of different numbers, and it is then those
copies, ascending. -/
theorem foldlM_listCopy_eq_ok_iff {sizes : Sizes} {lines : List Line}
    {start listed : List (Nat × Mapping)} (sorted : start.Pairwise (·.1 < ·.1)) :
    lines.foldlM (listCopy sizes) start = .ok listed ↔ listed.Pairwise (·.1 < ·.1) ∧
      ∃ listing, (listing ++ start).Perm listed ∧
        List.Forall₂ (fun copy (line : Line) => HoldsCopy sizes.pattern copy line.content) listing
          (lines.filter isCopyLine) := by
  induction lines generalizing start with
  | nil =>
    simp only [List.foldlM_nil, pure, Except.pure, Except.ok.injEq, List.filter_nil,
      List.forall₂_nil_right_iff, exists_eq_right, List.nil_append]
    constructor
    · rintro rfl
      exact ⟨sorted, .refl _⟩
    · rintro ⟨ascending, same⟩
      exact same.eq_of_pairwise (fun a b _ _ less greater => absurd greater (Nat.lt_asymm less))
        sorted ascending
  | cons line lines ih =>
    simp only [List.foldlM_cons, bind_eq_ok_iff, listCopy_eq_ok_iff]
    constructor
    · rintro ⟨next, ⟨other, rfl⟩ | ⟨copy, holds, fresh, rfl⟩, read⟩
      · rw [List.filter_cons_of_neg (by simp [other])]
        exact (ih sorted).mp read
      · obtain ⟨ascending, listing, same, held⟩ :=
          (ih (insertCopy_ascending sorted fresh copy.2)).mp read
        have own : isCopyLine line = true := by
          obtain ⟨_, assignments, shape, _⟩ := holds
          exact isCopyLine_iff.mpr ⟨_, _, shape⟩
        rw [List.filter_cons_of_pos own]
        have grown := (insertCopy_perm copy.1 copy.2 start).append_left listing
        exact ⟨ascending, copy :: listing, (grown.trans List.perm_middle).symm.trans same,
          .cons holds held⟩
    · rintro ⟨ascending, listing, same, held⟩
      by_cases own : isCopyLine line = true
      · rw [List.filter_cons_of_pos own] at held
        cases held with
        | @cons copy _ listing _ holds held =>
          have distinct : ((copy :: listing ++ start).map Prod.fst).Nodup :=
            (same.map Prod.fst).nodup_iff.mpr
              ((List.pairwise_map.mpr ascending).imp Nat.ne_of_lt)
          have fresh : ∀ earlier ∈ start, earlier.1 ≠ copy.1 := by
            rintro earlier member taken
            rw [List.cons_append, List.map_cons, List.nodup_cons] at distinct
            exact distinct.1 (taken ▸ List.mem_map_of_mem (List.mem_append_right _ member))
          have grown := (insertCopy_perm copy.1 copy.2 start).append_left listing
          exact ⟨_, .inr ⟨copy, holds, fresh, rfl⟩,
            (ih (insertCopy_ascending sorted fresh copy.2)).mpr
              ⟨ascending, listing, (grown.trans List.perm_middle).trans same, held⟩⟩
      · rw [List.filter_cons_of_neg own] at held
        exact ⟨start, .inl ⟨Bool.eq_false_iff.mpr own, rfl⟩,
          (ih sorted).mpr ⟨ascending, listing, same, held⟩⟩

/-- A line that lists a copy of a positive number that is a machine word holds it. -/
theorem Lists.holdsCopy {copy : Nat × Mapping} {content : Text} (lists : Lists copy content)
    (positive : 0 < copy.1) (bound : copy.1 < UInt64.size) :
    HoldsCopy copy.2.sources copy content := by
  obtain ⟨assignments, shape, made⟩ := lists
  exact ⟨⟨positive, bound⟩, assignments,
    copyLine_iff.mpr ⟨_, shape, Numeral.denotes_digits copy.1⟩, foldlM_assign_eq_ok_iff.mp (made 0)⟩

/-- Copies numbered from one, listed in any order, are all listed. -/
theorem foldlM_listCopy_numberedFrom {sizes : Sizes} {mappings : List Mapping}
    {listing : List (Nat × Mapping)} {lines : List Line}
    (listed : listing.Perm (numberedFrom 1 mappings))
    (shown : List.Forall₂ (fun copy (line : Line) => Lists copy line.content) listing
      (lines.filter isCopyLine))
    (bound : mappings.length < UInt64.size)
    (sources : ∀ mapping ∈ mappings, mapping.sources = sizes.pattern) :
    (lines.foldlM (listCopy sizes) []).map (arrange sizes) = .ok mappings := by
  have held : List.Forall₂ (fun copy (line : Line) => HoldsCopy sizes.pattern copy line.content)
      listing (lines.filter isCopyLine) := by
    refine List.Forall₂.imp ?_ ((List.forall₂_and_left _ _).mpr
      ⟨fun copy member => listed.mem_iff.mp member, shown⟩)
    rintro copy line ⟨member, lists⟩
    obtain ⟨⟨mapping, number⟩, placed, rfl⟩ := List.mem_map.mp member
    obtain ⟨positive, last, same⟩ := List.mem_zipIdx placed
    have below : number < UInt64.size := by omega
    have covered : mapping.sources = sizes.pattern := sources mapping (by simp [same])
    exact covered ▸ lists.holdsCopy positive below
  have all : lines.foldlM (listCopy sizes) [] = .ok (numberedFrom 1 mappings) :=
    (foldlM_listCopy_eq_ok_iff .nil).mpr
      ⟨numberedFrom_ascending 1 mappings, listing, by rwa [List.append_nil], held⟩
  rw [all]
  exact congrArg Except.ok (arrange_numberedFrom sizes mappings)

end Verbose

end CopyOracle
