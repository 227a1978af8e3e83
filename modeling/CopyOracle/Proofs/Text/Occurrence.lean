import CopyOracle.Proofs.Text.Pieces
/-!
# Where separators and labels occur

A text is cut at the first occurrence of a separator, so the pieces with the separator between
them are the text, and a text without the separator is not cut. What stands behind a label stands
behind its first occurrence. A label without line ends occurs in a text exactly when it occurs in
one of its lines, since each line is a stretch of the text; it is also left there by trimming when
it neither begins nor ends with white space, and so are the words behind it. The first lines of a
text are those of a front of it, and carriage returns before its line feeds are in none of its
lines.
-/

namespace CopyOracle

namespace Text

variable {text separator before after : Text}

/-- The pieces with the separator between them are the text. -/
theorem eq_of_cut? (cut : cut? text separator = some (before, after)) :
    text = before ++ (separator ++ after) := by
  induction text generalizing before with
  | nil =>
    rw [cut?] at cut
    split at cut
    · next empty =>
      obtain ⟨rfl, rfl⟩ := Prod.mk.inj (Option.some.inj cut)
      rw [List.isEmpty_iff.mp empty]
      rfl
    · contradiction
  | cons c rest ih =>
    rw [cut?] at cut
    split at cut
    · next front =>
      obtain ⟨rfl, rfl⟩ := Prod.mk.inj (Option.some.inj cut)
      exact (List.prefix_iff_eq_append.mp (List.isPrefixOf_iff_prefix.mp front)).symm
    · obtain ⟨⟨earlier, later⟩, found, same⟩ := Option.map_eq_some_iff.mp cut
      obtain ⟨rfl, rfl⟩ := Prod.mk.inj same
      rw [ih found, List.cons_append]

/-- A text is not cut exactly when the separator does not occur in it. -/
theorem cut?_eq_none_iff (nonempty : separator ≠ []) :
    cut? text separator = none ↔ ¬separator <:+: text := by
  induction text with
  | nil => simp [cut?, nonempty]
  | cons c rest ih =>
    rw [cut?, List.infix_cons_iff, not_or]
    split
    · next front => simp [List.isPrefixOf_iff_prefix.mp front]
    · next other =>
      rw [Option.map_eq_none_iff, ih]
      exact ⟨fun absent => ⟨fun front => other (List.isPrefixOf_iff_prefix.mpr front), absent⟩,
        And.right⟩

/-- A text is cut at the first occurrence of a character. -/
theorem cut?_singleton_eq_some_iff {c : Char} :
    cut? text [c] = some (before, after) ↔ text = before ++ c :: after ∧ c ∉ before := by
  constructor
  · intro cut
    refine ⟨eq_of_cut? cut, ?_⟩
    induction text generalizing before with
    | nil => simp [cut?] at cut
    | cons d rest ih =>
      rw [cut?] at cut
      split at cut
      · obtain ⟨rfl, _⟩ := Prod.mk.inj (Option.some.inj cut)
        exact List.not_mem_nil
      · next other =>
        obtain ⟨⟨earlier, later⟩, found, same⟩ := Option.map_eq_some_iff.mp cut
        obtain ⟨rfl, rfl⟩ := Prod.mk.inj same
        have differs : c ≠ d := by simpa [List.isPrefixOf] using other
        exact List.not_mem_cons_of_ne_of_not_mem differs (ih found)
  · rintro ⟨rfl, absent⟩
    exact cut?_append_cons absent [] after

/-- A label is found where it occurs first. -/
theorem exists_of_after? {label : Text} (found : after? text label = some after) :
    ∃ before, text = before ++ (label ++ after) ∧
      ∀ earlier later, text = earlier ++ (label ++ later) → before.length ≤ earlier.length := by
  induction text with
  | nil =>
    rw [after?] at found
    split at found
    · next empty =>
      obtain rfl := Option.some.inj found
      exact ⟨[], by rw [List.isEmpty_iff.mp empty]; rfl, fun _ _ _ => Nat.zero_le _⟩
    · contradiction
  | cons c rest ih =>
    rw [after?] at found
    split at found
    · next front =>
      obtain rfl := Option.some.inj found
      have shape := List.prefix_iff_eq_append.mp (List.isPrefixOf_iff_prefix.mp front)
      exact ⟨[], shape.symm, fun _ _ _ => Nat.zero_le _⟩
    · next other =>
      obtain ⟨before, rfl, first⟩ := ih found
      refine ⟨c :: before, rfl, fun earlier later same => ?_⟩
      cases earlier with
      | nil => exact absurd (List.isPrefixOf_iff_prefix.mpr ⟨later, same.symm⟩) other
      | cons d earlier => exact Nat.succ_le_succ (first earlier later (List.cons.inj same).2)

/-- What is found behind a label is what stands behind its first occurrence. -/
theorem after?_eq_some_iff {label : Text} : after? text label = some after ↔
    ∃ before, text = before ++ (label ++ after) ∧
      ∀ earlier later, text = earlier ++ (label ++ later) → before.length ≤ earlier.length := by
  refine ⟨exists_of_after?, ?_⟩
  rintro ⟨before, shape, first⟩
  have occurs : label <:+: text := ⟨before, after, by rw [shape, List.append_assoc]⟩
  obtain ⟨found, search⟩ := Option.isSome_iff_exists.mp (contains_eq_true_iff.mpr occurs)
  obtain ⟨least, here, leastFirst⟩ := exists_of_after? search
  -- Both occurrences are the first one, so they are at one place and the same stands behind them.
  have place := Nat.le_antisymm (first least found here) (leastFirst before after shape)
  have same := (List.append_inj (shape.symm.trans here) place).2
  rw [search, List.append_cancel_left same]

/-- Each line of a text is a stretch of it, and the first one stands at its front. -/
theorem lines_inside (text : Text) : (∀ line ∈ lines text, line <:+: text) ∧
    ∀ line, (lines text).head? = some line → line <+: text := by
  fun_induction lines text with
  | case1 => simp
  | case2 rest ih =>
    refine ⟨fun line listed => ?_, by simp⟩
    rcases List.mem_cons.mp listed with rfl | listed
    · exact List.nil_infix
    · exact List.infix_cons (ih.1 line listed)
  | case3 rest ih =>
    refine ⟨fun line listed => ?_, by simp⟩
    rcases List.mem_cons.mp listed with rfl | listed
    · exact List.nil_infix
    · exact List.infix_cons (List.infix_cons (ih.1 line listed))
  | case4 c rest =>
    have front : [c] <+: c :: rest := List.prefix_append [c] rest
    simpa using front.isInfix
  | case5 c rest _ _ first others cut ih =>
    have front : c :: first <+: c :: rest :=
      List.cons_prefix_cons.mpr ⟨rfl, ih.2 first (by rw [cut, List.head?_cons])⟩
    refine ⟨fun line listed => ?_, by simpa using front⟩
    rcases List.mem_cons.mp listed with rfl | listed
    · exact front.isInfix
    · exact List.infix_cons (ih.1 line (cut ▸ List.mem_cons_of_mem _ listed))

/-- The first lines of a text are the lines of a front of it. -/
theorem exists_prefix_lines (text : Text) (count : Nat) :
    ∃ front, front <+: text ∧ lines front = (lines text).take count := by
  fun_induction lines text generalizing count with
  | case1 => exact ⟨[], List.prefix_rfl, by simp [lines]⟩
  | case2 rest ih =>
    cases count with
    | zero => exact ⟨[], List.nil_prefix, rfl⟩
    | succ count =>
      obtain ⟨front, begins, same⟩ := ih count
      exact ⟨'\n' :: front, (List.prefix_cons_inj _).mpr begins, by rw [lines, same]; rfl⟩
  | case3 rest ih =>
    cases count with
    | zero => exact ⟨[], List.nil_prefix, rfl⟩
    | succ count =>
      obtain ⟨front, begins, same⟩ := ih count
      refine ⟨'\r' :: '\n' :: front, ?_, by rw [lines, same]; rfl⟩
      rwa [List.prefix_cons_inj, List.prefix_cons_inj]
  | case4 c rest noFeed noReturn empty ih =>
    cases count with
    | zero => exact ⟨[], List.nil_prefix, rfl⟩
    | succ count =>
      refine ⟨c :: rest, List.prefix_rfl, ?_⟩
      rw [lines.eq_4 c rest noFeed noReturn, empty, List.take_succ_cons, List.take_nil]
  | case5 c rest noFeed noReturn first others split ih =>
    cases count with
    | zero => exact ⟨[], List.nil_prefix, rfl⟩
    | succ count =>
      obtain ⟨front, begins, same⟩ := ih (count + 1)
      have noReturnHere (later : Text) (isReturn : c = '\r') (isFeed : front = '\n' :: later) :
          False := by
        obtain ⟨more, rfl⟩ := begins
        exact noReturn (later ++ more) isReturn (by rw [isFeed]; rfl)
      refine ⟨c :: front, (List.prefix_cons_inj _).mpr begins, ?_⟩
      rw [lines.eq_4 c front noFeed noReturnHere, same, split]
      rfl

/-- A label without line ends occurs in a text exactly when it occurs in one of its lines. -/
theorem occurs_iff_exists_line {label : Text} (nonempty : label ≠ [])
    (unbroken : ∀ c ∈ label, c ≠ '\n' ∧ c ≠ '\r') :
    label <:+: text ↔ ∃ line ∈ lines text, label <:+: line := by
  constructor
  · exact exists_line_of_occurs nonempty unbroken
  · rintro ⟨line, listed, occurs⟩
    exact occurs.trans ((lines_inside text).1 line listed)

/-- A label without a line feed occurs in two texts with a line feed between them exactly when it
occurs in one of them. -/
theorem occurs_append_feed_iff {label left right : Text} (unbroken : '\n' ∉ label) :
    label <:+: left ++ '\n' :: right ↔ label <:+: left ∨ label <:+: right := by
  have nothing (tail : Text) (inside : tail ⊆ label) (front : tail <+: '\n' :: right) :
      tail = [] := by
    cases tail with
    | nil => rfl
    | cons c tail =>
      obtain ⟨rfl, _⟩ := List.cons_prefix_cons.mp front
      exact absurd (inside List.mem_cons_self) unbroken
  constructor
  · intro occurs
    rcases List.infix_append_iff.mp occurs with inLeft | inRest | ⟨start, tail, rfl, ends, begins⟩
    · exact .inl inLeft
    · rcases List.infix_cons_iff.mp inRest with front | inRight
      · rw [nothing label (List.Subset.refl label) front]
        exact .inl List.nil_infix
      · exact .inr inRight
    · rw [nothing tail (List.subset_append_right start tail) begins, List.append_nil]
      exact .inl ends.isInfix
  · rintro (inLeft | inRight)
    · exact inLeft.trans (List.prefix_append _ _).isInfix
    · exact (List.infix_cons inRight).trans (List.suffix_append _ _).isInfix

/-- A text is white space exactly when each of its lines is. -/
theorem blank_iff_lines {text : Text} : Blank text ↔ ∀ line ∈ lines text, Blank line := by
  constructor
  · exact fun blank line listed c member => blank c (mem_of_mem_lines listed member)
  · intro blank c member
    by_contra visible
    have whole : ∀ d ∈ [c], d ≠ '\n' ∧ d ≠ '\r' := by
      intro d same
      obtain rfl := List.mem_singleton.mp same
      refine ⟨?_, ?_⟩ <;> rintro rfl <;> exact visible (by decide)
    obtain ⟨before, after, rfl⟩ := List.append_of_mem member
    have occurs : [c] <:+: before ++ c :: after := ⟨before, after, by simp⟩
    obtain ⟨line, listed, found⟩ := exists_line_of_occurs (List.cons_ne_nil c []) whole occurs
    exact visible (blank line listed c (found.subset List.mem_cons_self))

/-- The text with a carriage return before every line feed. -/
def withReturns (text : Text) : Text :=
  text.flatMap fun c => if c = '\n' then ['\r', '\n'] else [c]

/-- A line feed gets a carriage return. -/
theorem withReturns_feed (rest : Text) :
    withReturns ('\n' :: rest) = '\r' :: '\n' :: withReturns rest := by
  rw [withReturns, List.flatMap_cons, if_pos rfl]
  rfl

/-- Any other character stays as it is. -/
theorem withReturns_cons {c : Char} (other : c ≠ '\n') (rest : Text) :
    withReturns (c :: rest) = c :: withReturns rest := by
  rw [withReturns, List.flatMap_cons, if_neg other]
  rfl

/-- Carriage returns before the line feeds of a text that has none leave its lines. -/
theorem lines_withReturns {text : Text} (plain : '\r' ∉ text) :
    lines (withReturns text) = lines text := by
  induction text with
  | nil => rfl
  | cons c rest ih =>
    obtain ⟨notReturn, later⟩ := List.ne_and_not_mem_of_not_mem_cons plain
    by_cases feed : c = '\n'
    · subst feed
      rw [withReturns_feed, lines, lines, ih later]
    · rw [withReturns_cons feed, lines.eq_4 c _ feed (fun _ same => absurd same.symm notReturn),
        lines.eq_4 c _ feed (fun _ same => absurd same.symm notReturn), ih later]

/-- A label that does not begin with white space is left by trimming the front. -/
theorem occurs_trimStart {label : Text} (first : ∃ c rest, label = c :: rest ∧ isBlank c = false)
    (occurs : label <:+: text) : label <:+: trimStart text := by
  obtain ⟨c, rest, rfl, visible⟩ := first
  obtain ⟨front, back, rfl⟩ := occurs
  have kept : (c :: rest ++ back).dropWhile isBlank = c :: rest ++ back :=
    List.dropWhile_cons_of_neg (by simp [visible])
  rw [trimStart, List.append_assoc, List.dropWhile_append, kept]
  split
  · exact (List.prefix_append _ back).isInfix
  · exact ⟨_, back, List.append_assoc _ _ _⟩

/-- Trimming leaves the labels that neither begin nor end with white space. -/
theorem occurs_trim_iff {label : Text} (trimmed : Trimmed label) :
    label <:+: trim text ↔ label <:+: text := by
  constructor
  · intro occurs
    have front : trimStart text <:+: text := (List.dropWhile_suffix _).isInfix
    have back : trim text <+: trimStart text := List.reverse_suffix.mp (by
      rw [trim, trimEnd, List.reverse_reverse]
      exact List.dropWhile_suffix _)
    exact occurs.trans (back.isInfix.trans front)
  · intro occurs
    have ending : ∃ c rest, label.reverse = c :: rest ∧ isBlank c = false := by
      obtain ⟨before, c, rfl, visible⟩ := trimmed.last
      exact ⟨c, before.reverse, by simp, visible⟩
    have front := occurs_trimStart trimmed.first occurs
    have back := occurs_trimStart ending (List.reverse_infix.mpr front)
    rw [trim, trimEnd, ← List.reverse_infix, List.reverse_reverse]
    exact back

/-- White space at the front separates no words. -/
theorem words_blank_append {before : Text} (blank : Blank before) (text : Text) :
    words (before ++ text) = words text := by
  induction before with
  | nil => rfl
  | cons c before ih =>
    have first := words_append_cons (blank c List.mem_cons_self) [] (before ++ text)
    exact first.trans (ih fun d member => blank d (List.mem_cons_of_mem c member))

/-- White space at the end separates no words. -/
theorem words_append_blank {after : Text} (blank : Blank after) (text : Text) :
    words (text ++ after) = words text := by
  cases after with
  | nil => rw [List.append_nil]
  | cons c after =>
    have rest := words_blank_append (fun d member => blank d (List.mem_cons_of_mem c member)) []
    rw [List.append_nil] at rest
    rw [words_append_cons (blank c List.mem_cons_self), rest]
    exact List.append_nil _

/-- Trimming the front leaves the words. -/
theorem words_trimStart (text : Text) : words (trimStart text) = words text := by
  have front : Blank (text.takeWhile isBlank) := fun _ member => List.mem_takeWhile_imp member
  conv_rhs => rw [← List.takeWhile_append_dropWhile (p := isBlank) (l := text)]
  exact (words_blank_append front _).symm

/-- Trimming leaves the words. -/
theorem words_trim (text : Text) : words (trim text) = words text := by
  obtain ⟨after, blank, split⟩ := exists_eq_trimEnd_append (trimStart text)
  calc words (trim text)
      = words (trimEnd (trimStart text) ++ after) := (words_append_blank blank _).symm
    _ = words (trimStart text) := by rw [← split]
    _ = words text := words_trimStart text

/-- The first word is what stands before white space once the white space in front is gone. -/
theorem head?_words (text : Text) : (words text).head? =
    if trimStart text = [] then none
    else some ((trimStart text).takeWhile fun c => !isBlank c) := by
  rw [← words_trimStart]
  split
  · next nothing =>
    rw [nothing]
    rfl
  · next something =>
    obtain ⟨c, rest, shape⟩ := List.exists_cons_of_ne_nil something
    have visible : isBlank c = false := by
      have head := List.head?_dropWhile_not isBlank text
      rw [← trimStart, shape] at head
      simpa using head
    have nonempty : (trimStart text).takeWhile (fun c => !isBlank c) ≠ [] := by
      simp [shape, visible]
    have word : words ((trimStart text).takeWhile fun c => !isBlank c) =
        [(trimStart text).takeWhile fun c => !isBlank c] :=
      words_eq_singleton nonempty fun d member => by
        simpa using List.mem_takeWhile_imp member
    conv_lhs => rw [← List.takeWhile_append_dropWhile (p := fun c => !isBlank c)
      (l := trimStart text)]
    cases behind : (trimStart text).dropWhile fun c => !isBlank c with
    | nil => rw [List.append_nil, word, List.head?_cons]
    | cons d later =>
      have blank : isBlank d = true := by
        have head := List.head?_dropWhile_not (fun c => !isBlank c) (trimStart text)
        rw [behind] at head
        simpa using head
      rw [words_append_cons blank, word]
      rfl

variable {label : Text}

/-- White space in front of a text does not hide a label that does not begin with white space. -/
theorem after?_trimStart (first : ∃ c rest, label = c :: rest ∧ isBlank c = false) (text : Text) :
    after? (trimStart text) label = after? text label := by
  obtain ⟨d, front, rfl, visible⟩ := first
  induction text with
  | nil => rfl
  | cons c rest ih =>
    rw [trimStart, List.dropWhile_cons]
    split
    · next blank =>
      have other : d ≠ c := by
        rintro rfl
        rw [blank] at visible
        contradiction
      rw [← trimStart, ih, after?.eq_2, if_neg (by simp [other])]
    · rfl

/-- A label that does not end with white space does not reach into white space at the end. -/
theorem prefix_append_blank_iff (last : ∃ before c, label = before ++ [c] ∧ isBlank c = false)
    {text after : Text} (blank : Blank after) : label <+: text ++ after ↔ label <+: text := by
  obtain ⟨before, c, rfl, visible⟩ := last
  refine ⟨fun occurs => ?_, fun occurs => occurs.trans (List.prefix_append _ _)⟩
  rcases Nat.le_total (before ++ [c]).length text.length with short | long
  · exact List.prefix_of_prefix_length_le occurs (List.prefix_append _ _) short
  · obtain ⟨reached, same⟩ := List.prefix_of_prefix_length_le (List.prefix_append _ _) occurs long
    rcases List.eq_nil_or_concat reached with rfl | ⟨inner, d, rfl⟩
    · rw [← same, List.append_nil]
    · have ends : d = c := by
        have := congrArg List.getLast? same
        simpa using this
      have inside : d ∈ after := by
        rw [← same, List.prefix_append_right_inj] at occurs
        exact occurs.subset (by simp)
      rw [ends] at inside
      rw [blank c inside] at visible
      contradiction

/-- White space behind a text stays behind what follows a label that does not end with it. -/
theorem after?_append_blank (last : ∃ before c, label = before ++ [c] ∧ isBlank c = false)
    (text : Text) {after : Text} (blank : Blank after) :
    after? (text ++ after) label = (after? text label).map (· ++ after) := by
  induction text with
  | nil =>
    have absent : ¬label <:+: after := by
      obtain ⟨before, c, rfl, visible⟩ := last
      intro occurs
      rw [blank c (occurs.subset (by simp))] at visible
      contradiction
    obtain ⟨before, c, rfl, visible⟩ := last
    have here : after? [] (before ++ [c]) = none := by simp [after?]
    rw [List.nil_append, here, Option.map_none, ← Option.not_isSome_iff_eq_none, ← contains,
      contains_eq_true_iff]
    exact absent
  | cons c rest ih =>
    have same : label.isPrefixOf (c :: rest ++ after) = label.isPrefixOf (c :: rest) := by
      rw [Bool.eq_iff_iff, List.isPrefixOf_iff_prefix, List.isPrefixOf_iff_prefix,
        prefix_append_blank_iff last blank]
    rw [List.cons_append, after?, after?, ← List.cons_append, same]
    split
    · next here =>
      have short := (List.isPrefixOf_iff_prefix.mp here).length_le
      rw [Option.map_some, List.drop_append_of_le_length short]
    · exact ih

/-- The words behind a label are the same on the trimmed line. -/
theorem map_words_after?_trim (solid : Trimmed label) (line : Text) :
    (after? (trim line) label).map words = (after? line label).map words := by
  obtain ⟨after, blank, split⟩ := exists_eq_trimEnd_append (trimStart line)
  rw [← after?_trimStart solid.first line, split, after?_append_blank solid.last _ blank,
    Option.map_map, trim]
  exact Option.map_congr fun rest _ => (words_append_blank blank rest).symm

end Text

end CopyOracle
