import CopyOracle.Text.Basic
import Mathlib.Data.List.Infix
import Mathlib.Data.List.TakeWhile
/-!
# Trimming, lines and labels

White space around a text never changes what is left after trimming it. A label without line
ends occurs in a text exactly when it occurs in one of its lines. `Interspersed` says that lines
show given contents in order, each with white space around it, among other lines that do not
count; dropping the latter after trimming leaves the contents.
-/

namespace CopyOracle

namespace Text

-- The characters of a text are decided one by one, not among all characters.
instance (priority := 2000) (text : Text) (p : Char → Prop) [DecidablePred p] :
    Decidable (∀ c ∈ text, p c) :=
  List.decidableBAll p text

instance (priority := 2000) (text : Text) (p : Char → Prop) [DecidablePred p] :
    Decidable (∃ c ∈ text, p c) :=
  List.decidableBEx p text

/-- Every character is white space. -/
def Blank (text : Text) : Prop := ∀ c ∈ text, isBlank c = true

instance (text : Text) : Decidable (Blank text) :=
  inferInstanceAs (Decidable (∀ c ∈ text, isBlank c = true))

/-- The text begins and ends with a character that is not white space. -/
structure Trimmed (text : Text) : Prop where
  /-- It begins so. -/
  first : ∃ c rest, text = c :: rest ∧ isBlank c = false
  /-- It ends so. -/
  last : ∃ before c, text = before ++ [c] ∧ isBlank c = false

/-- The digits are a range of characters. -/
theorem isDigit_iff {c : Char} : c.isDigit = true ↔ 48 ≤ c.toNat ∧ c.toNat ≤ 57 := by
  simp [Char.isDigit, UInt32.le_iff_toNat_le]

/-- The small letters are a range of characters. -/
theorem isLower_iff {c : Char} : c.isLower = true ↔ 97 ≤ c.toNat ∧ c.toNat ≤ 122 :=
  Bool.and_eq_true_iff.trans (and_congr (decide_eq_true_iff.trans UInt32.le_iff_toNat_le)
    (decide_eq_true_iff.trans UInt32.le_iff_toNat_le))

/-- Characters outside the range of the capitals stay in small letters. -/
theorem toLower_eq_self {c : Char} (other : c.toNat < 65 ∨ 90 < c.toNat) : c.toLower = c := by
  refine dif_neg fun capital => ?_
  have lower : 65 ≤ c.toNat := UInt32.le_iff_toNat_le.mp capital.1
  have upper : c.toNat ≤ 90 := UInt32.le_iff_toNat_le.mp capital.2
  omega

/-- White space is no digit and no letter. -/
theorem toNat_of_isBlank {c : Char} (blank : isBlank c = true) :
    c.toNat < 48 ∨ 122 < c.toNat := by
  simp only [isBlank, Bool.or_eq_true, Bool.and_eq_true, beq_iff_eq, decide_eq_true_eq] at blank
  omega

/-- White space at the front does not count. -/
theorem trimStart_append {before : Text} (blank : Blank before) (text : Text) :
    trimStart (before ++ text) = trimStart text :=
  List.dropWhile_append_of_pos blank

/-- White space at the end does not count. -/
theorem trimEnd_append {after : Text} (blank : Blank after) (text : Text) :
    trimEnd (text ++ after) = trimEnd text := by
  rw [trimEnd, List.reverse_append, List.dropWhile_append_of_pos, ← trimEnd]
  exact fun c member => blank c (List.mem_reverse.mp member)

/-- White space on both sides does not count. -/
theorem trim_append {before after : Text} (front : Blank before) (back : Blank after)
    (text : Text) : trim (before ++ text ++ after) = trim text := by
  rw [trim, List.append_assoc, trimStart_append front, trimStart, List.dropWhile_append]
  split
  · next nothing =>
    have after_blank : after.dropWhile isBlank = [] := List.dropWhile_eq_nil_iff.mpr back
    rw [after_blank, trim, trimStart, List.isEmpty_iff.mp nothing]
  · rw [trimEnd_append back, trim, trimStart]

/-- A text is trimmed when neither of its ends is white space. -/
theorem trimmed_of_ends {text : Text} (nonempty : text ≠ [])
    (front : isBlank (text.head nonempty) = false)
    (back : isBlank (text.getLast nonempty) = false) : Trimmed text where
  first := ⟨text.head nonempty, text.tail, (List.cons_head_tail nonempty).symm, front⟩
  last := ⟨text.dropLast, text.getLast nonempty, (List.dropLast_append_getLast nonempty).symm, back⟩

/-- The ends of a trimmed text are not white space. -/
theorem trimmed_iff_ends {text : Text} : Trimmed text ↔ ∃ nonempty : text ≠ [],
    isBlank (text.head nonempty) = false ∧ isBlank (text.getLast nonempty) = false := by
  constructor
  · rintro ⟨⟨c, rest, rfl, front⟩, before, d, same, back⟩
    refine ⟨List.cons_ne_nil c rest, front, ?_⟩
    simp only [same, List.getLast_append_singleton, back]
  · rintro ⟨nonempty, front, back⟩
    exact trimmed_of_ends nonempty front back

instance (text : Text) : Decidable (Trimmed text) := decidable_of_iff _ trimmed_iff_ends.symm

/-- A character that is not white space is trimmed. -/
theorem trimmed_singleton {c : Char} (visible : isBlank c = false) : Trimmed [c] :=
  trimmed_of_ends (List.cons_ne_nil c []) visible visible

/-- Nothing is taken from the front of a trimmed text. -/
theorem Trimmed.trimStart_eq {text : Text} (trimmed : Trimmed text) : trimStart text = text := by
  obtain ⟨c, rest, rfl, front⟩ := trimmed.first
  rw [trimStart, List.dropWhile_cons_of_neg (by simp [front])]

/-- A trimmed text stays as it is. -/
theorem Trimmed.trim_eq {text : Text} (trimmed : Trimmed text) : trim text = text := by
  rw [trim, trimmed.trimStart_eq]
  obtain ⟨before, c, rfl, back⟩ := trimmed.last
  rw [trimEnd, List.reverse_append, List.reverse_singleton, List.singleton_append,
    List.dropWhile_cons_of_neg (by simp [back]), List.reverse_cons, List.reverse_reverse]

/-- Behind a trimmed text only the end is trimmed. -/
theorem Trimmed.trim_append {left : Text} (trimmed : Trimmed left) (text : Text) :
    trim (left ++ text) = left ++ trimEnd text := by
  obtain ⟨c, rest, same, front⟩ := trimmed.first
  obtain ⟨before, d, ended, back⟩ := trimmed.last
  rw [trim, trimStart, same, List.cons_append, List.dropWhile_cons_of_neg (by simp [front]),
    ← List.cons_append, ← same, trimEnd, List.reverse_append, List.dropWhile_append]
  split
  · next nothing =>
    rw [trimEnd, List.isEmpty_iff.mp nothing, ended, List.reverse_append, List.reverse_singleton,
      List.singleton_append, List.dropWhile_cons_of_neg (by simp [back])]
    simp
  · rw [List.reverse_append, List.reverse_reverse, trimEnd]

/-- Before a trimmed text the end is kept. -/
theorem Trimmed.trimEnd_append {right : Text} (trimmed : Trimmed right) (before : Text) :
    trimEnd (before ++ right) = before ++ right := by
  obtain ⟨front, c, rfl, visible⟩ := trimmed.last
  rw [← List.append_assoc, trimEnd, List.reverse_append, List.reverse_singleton,
    List.singleton_append, List.dropWhile_cons_of_neg (by simp [visible]), List.reverse_cons,
    List.reverse_reverse]

/-- Trimming takes away nothing but white space. -/
theorem mem_trim_iff {c : Char} (visible : isBlank c = false) {text : Text} :
    c ∈ trim text ↔ c ∈ text := by
  have kept (rest : Text) : c ∈ rest.dropWhile isBlank ↔ c ∈ rest := by
    refine ⟨fun member => (List.dropWhile_sublist _).subset member, fun member => ?_⟩
    rw [← List.takeWhile_append_dropWhile (p := isBlank) (l := rest), List.mem_append] at member
    refine member.resolve_left fun front => ?_
    rw [List.mem_takeWhile_imp front] at visible
    contradiction
  rw [trim, trimEnd, List.mem_reverse, kept, List.mem_reverse, trimStart, kept]

/-- Nothing is left exactly of white space. -/
theorem trim_eq_nil_iff {text : Text} : trim text = [] ↔ Blank text := by
  rw [trim, trimEnd, List.reverse_eq_nil_iff, List.dropWhile_eq_nil_iff]
  constructor
  · intro rest_blank c member
    rw [← List.takeWhile_append_dropWhile (p := isBlank) (l := text), List.mem_append] at member
    rcases member with front | rest
    · exact List.mem_takeWhile_imp front
    · exact rest_blank c (List.mem_reverse.mpr rest)
  · intro blank c member
    exact blank c ((List.dropWhile_sublist _).subset (List.mem_reverse.mp member))

/-- A trimmed text is not empty. -/
theorem Trimmed.ne_nil {text : Text} (trimmed : Trimmed text) : text ≠ [] := by
  obtain ⟨c, rest, rfl, _⟩ := trimmed.first
  exact List.cons_ne_nil c rest

/-- What stands between trimmed texts does not matter for the ends. -/
theorem Trimmed.append {left right : Text} (front : Trimmed left) (between : Text)
    (back : Trimmed right) : Trimmed (left ++ between ++ right) where
  first := by
    obtain ⟨c, rest, rfl, visible⟩ := front.first
    exact ⟨c, rest ++ between ++ right, rfl, visible⟩
  last := by
    obtain ⟨before, c, rfl, visible⟩ := back.last
    exact ⟨left ++ between ++ before, c, by simp, visible⟩

/-- Trimmed texts with a separator between them form a trimmed text. -/
theorem trimmed_intercalate {separator : Text} {texts : List Text} (nonempty : texts ≠ [])
    (trimmed : ∀ text ∈ texts, Trimmed text) : Trimmed (separator.intercalate texts) := by
  induction texts with
  | nil => contradiction
  | cons text rest ih =>
    have first := trimmed text List.mem_cons_self
    cases rest with
    | nil => simpa using first
    | cons next rest =>
      rw [List.intercalate_cons_cons]
      exact first.append separator
        (ih (List.cons_ne_nil next rest) fun other member =>
          trimmed other (List.mem_cons_of_mem _ member))

/-- A character of texts with a separator between them is one of the separator or of a text. -/
theorem mem_intercalate {separator : Text} {texts : List Text} {c : Char}
    (member : c ∈ separator.intercalate texts) : c ∈ separator ∨ ∃ text ∈ texts, c ∈ text := by
  induction texts with
  | nil => simp at member
  | cons text rest ih =>
    cases rest with
    | nil => exact .inr ⟨text, List.mem_cons_self, by simpa using member⟩
    | cons next rest =>
      rw [List.intercalate_cons_cons, List.append_assoc, List.mem_append, List.mem_append] at member
      rcases member with first | between | later
      · exact .inr ⟨text, List.mem_cons_self, first⟩
      · exact .inl between
      · exact (ih later).imp_right fun ⟨other, listed, inside⟩ =>
          ⟨other, List.mem_cons_of_mem _ listed, inside⟩

/-- White space between two texts separates their words. -/
theorem words_append_cons {c : Char} (blank : isBlank c = true) (before after : Text) :
    words (before ++ c :: after) = words before ++ words after := by
  rw [words, List.splitOnP_append_cons before after blank, List.filter_append, ← words, ← words]

/-- A text without white space is one word. -/
theorem words_eq_singleton {word : Text} (nonempty : word ≠ [])
    (visible : ∀ c ∈ word, isBlank c = false) : words word = [word] := by
  rw [words, List.splitOnP_eq_singleton visible]
  simp [nonempty]

/-- Words written with a space between them are read back. -/
theorem words_intercalate {tokens : List Text}
    (tokens_words : ∀ word ∈ tokens, word ≠ [] ∧ ∀ c ∈ word, isBlank c = false) :
    words ([' '].intercalate tokens) = tokens := by
  induction tokens with
  | nil => rfl
  | cons word rest ih =>
    obtain ⟨nonempty, visible⟩ := tokens_words word List.mem_cons_self
    have later := ih fun other member => tokens_words other (List.mem_cons_of_mem _ member)
    cases rest with
    | nil => simpa using words_eq_singleton nonempty visible
    | cons next rest =>
      rw [List.intercalate_cons_cons, List.append_assoc, List.singleton_append,
        words_append_cons (by decide), words_eq_singleton nonempty visible, later]
      rfl

/-- A label occurs in a text when the text has it as a stretch. -/
theorem contains_eq_true_iff {text label : Text} :
    contains text label = true ↔ label <:+: text := by
  induction text with
  | nil => cases label <;> simp [contains, after?]
  | cons c rest ih =>
    rw [contains, after?, List.infix_cons_iff]
    split
    · next front => simp [List.isPrefixOf_iff_prefix.mp front]
    · next other =>
      rw [← contains, ih]
      exact ⟨.inr, fun occurs => occurs.resolve_left fun front =>
        other (List.isPrefixOf_iff_prefix.mpr front)⟩

/-- A text is cut at the first occurrence of a separator whose first character does not occur
earlier. -/
theorem cut?_append_cons {c : Char} {before : Text} (absent : c ∉ before) (separator rest : Text) :
    cut? (before ++ c :: (separator ++ rest)) (c :: separator) = some (before, rest) := by
  induction before with
  | nil => simp [cut?]
  | cons d before ih =>
    have other : c ≠ d := fun same => absent (same ▸ List.mem_cons_self)
    rw [List.cons_append, cut?, if_neg (by simp [other]),
      ih fun member => absent (List.mem_cons_of_mem _ member)]
    rfl

/-- The characters of the lines are those of the text. -/
theorem mem_of_mem_lines {text line : Text} (listed : line ∈ lines text) {c : Char}
    (member : c ∈ line) : c ∈ text := by
  fun_induction lines text generalizing line with
  | case1 => simp at listed
  | case2 rest ih =>
    rcases List.mem_cons.mp listed with rfl | listed
    · simp at member
    · exact List.mem_cons_of_mem _ (ih listed member)
  | case3 rest ih =>
    rcases List.mem_cons.mp listed with rfl | listed
    · simp at member
    · exact List.mem_cons_of_mem _ (List.mem_cons_of_mem _ (ih listed member))
  | case4 c rest _ _ empty ih =>
    obtain rfl := List.mem_singleton.mp listed
    obtain rfl := List.mem_singleton.mp member
    exact List.mem_cons_self
  | case5 c rest _ _ first later cut ih =>
    rcases List.mem_cons.mp listed with rfl | listed
    · rcases List.mem_cons.mp member with rfl | member
      · exact List.mem_cons_self
      · exact List.mem_cons_of_mem _ (ih (cut ▸ List.mem_cons_self) member)
    · exact List.mem_cons_of_mem _ (ih (cut ▸ List.mem_cons_of_mem _ listed) member)

/-- A label without line ends that stands at the front of a text stands at the front of its
first line. -/
theorem exists_first_line {label : Text} (nonempty : label ≠ [])
    (unbroken : ∀ c ∈ label, c ≠ '\n' ∧ c ≠ '\r') {text : Text} (front : label <+: text) :
    ∃ line later, lines text = line :: later ∧ label <+: line := by
  induction label generalizing text with
  | nil => contradiction
  | cons c label ih =>
    obtain ⟨suffix, rfl⟩ := front
    obtain ⟨notFeed, notReturn⟩ := unbroken c List.mem_cons_self
    rw [List.cons_append, lines.eq_4 _ _ (by simp [notFeed]) (by simp [notReturn])]
    cases label with
    | nil =>
      cases lines ([] ++ suffix) with
      | nil => exact ⟨_, _, rfl, List.prefix_rfl⟩
      | cons line later => exact ⟨_, _, rfl, by simp⟩
    | cons d label =>
      have front : d :: label <+: (d :: label) ++ suffix := List.prefix_append _ _
      obtain ⟨line, later, cut, kept⟩ := ih (List.cons_ne_nil d label)
        (fun e member => unbroken e (List.mem_cons_of_mem _ member)) front
      rw [cut]
      exact ⟨_, _, rfl, List.cons_prefix_cons.mpr ⟨rfl, kept⟩⟩

/-- A label that begins otherwise than a text and occurs in it occurs after its first character. -/
theorem occurs_of_occurs_cons {label rest : Text} {c : Char} (nonempty : label ≠ [])
    (other : ∀ d ∈ label, d ≠ c) (occurs : label <:+: c :: rest) : label <:+: rest := by
  refine (List.infix_cons_iff.mp occurs).resolve_left fun front => ?_
  cases label with
  | nil => contradiction
  | cons d label => exact other d List.mem_cons_self (List.cons_prefix_cons.mp front).1

/-- A label without line ends that occurs in a text occurs in one of its lines. -/
theorem exists_line_of_occurs {label : Text} (nonempty : label ≠ [])
    (unbroken : ∀ c ∈ label, c ≠ '\n' ∧ c ≠ '\r') {text : Text} (occurs : label <:+: text) :
    ∃ line ∈ lines text, label <:+: line := by
  fun_induction lines text with
  | case1 => exact absurd (List.infix_nil.mp occurs) nonempty
  | case2 rest ih =>
    obtain ⟨line, listed, found⟩ :=
      ih (occurs_of_occurs_cons nonempty (fun c member => (unbroken c member).1) occurs)
    exact ⟨line, List.mem_cons_of_mem _ listed, found⟩
  | case3 rest ih =>
    have afterReturn :=
      occurs_of_occurs_cons nonempty (fun c member => (unbroken c member).2) occurs
    obtain ⟨line, listed, found⟩ :=
      ih (occurs_of_occurs_cons nonempty (fun c member => (unbroken c member).1) afterReturn)
    exact ⟨line, List.mem_cons_of_mem _ listed, found⟩
  | case4 c rest noFeed noReturn empty ih =>
    have cut : lines (c :: rest) = [[c]] := by rw [lines.eq_4 c rest noFeed noReturn, empty]
    rcases List.infix_cons_iff.mp occurs with front | later
    · obtain ⟨line, later, same, found⟩ := exists_first_line nonempty unbroken front
      exact ⟨line, by rw [← cut, same]; exact List.mem_cons_self, found.isInfix⟩
    · obtain ⟨line, listed, _⟩ := ih later
      simp [empty] at listed
  | case5 c rest noFeed noReturn first others split ih =>
    have cut : lines (c :: rest) = (c :: first) :: others := by
      rw [lines.eq_4 c rest noFeed noReturn, split]
    rcases List.infix_cons_iff.mp occurs with front | later
    · obtain ⟨line, _, same, found⟩ := exists_first_line nonempty unbroken front
      exact ⟨line, by rw [← cut, same]; exact List.mem_cons_self, found.isInfix⟩
    · obtain ⟨line, listed, found⟩ := ih later
      rcases List.mem_cons.mp (split ▸ listed) with rfl | listed
      · exact ⟨c :: line, List.mem_cons_self, List.infix_cons found⟩
      · exact ⟨line, List.mem_cons_of_mem _ listed, found⟩

/-- A line feed ends a line without line ends. -/
theorem lines_append_cons {line : Text} (unbroken : ∀ c ∈ line, c ≠ '\n' ∧ c ≠ '\r')
    (rest : Text) : lines (line ++ '\n' :: rest) = line :: lines rest := by
  induction line with
  | nil => rw [List.nil_append, lines]
  | cons c line ih =>
    obtain ⟨notFeed, notReturn⟩ := unbroken c List.mem_cons_self
    rw [List.cons_append, lines.eq_4 _ _ (by simp [notFeed]) (by simp [notReturn]),
      ih fun d member => unbroken d (List.mem_cons_of_mem _ member)]

/-- Lines that were each ended by a line feed are read back. -/
theorem lines_flatMap {contents : List Text}
    (unbroken : ∀ line ∈ contents, ∀ c ∈ line, c ≠ '\n' ∧ c ≠ '\r') (rest : Text) :
    lines (contents.flatMap (· ++ ['\n']) ++ rest) = contents ++ lines rest := by
  induction contents with
  | nil => rfl
  | cons line contents ih =>
    rw [List.flatMap_cons, List.append_assoc, List.append_assoc, List.singleton_append,
      lines_append_cons (unbroken line List.mem_cons_self),
      ih fun other member => unbroken other (List.mem_cons_of_mem _ member)]
    rfl

/-- The contents of the numbered lines are the trimmed lines. -/
theorem numberedLines_map_content (text : Text) :
    (numberedLines text).map Line.content = (lines text).map trim := by
  have unnumbered := congrArg (List.map trim) (List.zipIdx_map_fst 1 (lines text))
  rw [List.map_map] at unnumbered
  rw [numberedLines, List.map_map]
  exact unnumbered

/-- The lines show the contents in order, each with white space around it, and between them only
lines of another kind. -/
inductive Interspersed (noise : Text → Prop) : (contents lines : List Text) → Prop
  /-- Nothing is left to show. -/
  | done : Interspersed noise [] []
  /-- A line that does not count. -/
  | other {line : Text} {contents lines : List Text} (ignored : noise line)
      (later : Interspersed noise contents lines) : Interspersed noise contents (line :: lines)
  /-- The line of the next content. -/
  | content {before text after : Text} {contents lines : List Text} (front : Blank before)
      (back : Blank after) (later : Interspersed noise contents lines) :
      Interspersed noise (text :: contents) ((before ++ text ++ after) :: lines)

namespace Interspersed

variable {noise : Text → Prop} {contents lines : List Text}

/-- Keeping what counts among the trimmed lines leaves the trimmed contents. -/
theorem filter_trim (shown : Interspersed noise contents lines) {keep : Text → Bool}
    (dropped : ∀ line, noise line → keep (trim line) = false)
    (kept : ∀ text ∈ contents, keep (trim text) = true) :
    (lines.map trim).filter keep = contents.map trim := by
  induction shown with
  | done => rfl
  | other ignored _ ih =>
    rw [List.map_cons, List.filter_cons_of_neg (by simp [dropped _ ignored]), ih kept]
  | content front back _ ih =>
    have first := kept _ List.mem_cons_self
    rw [List.map_cons, List.map_cons, trim_append front back, List.filter_cons_of_pos first,
      ih fun text member => kept text (List.mem_cons_of_mem _ member)]

/-- Each line is one that does not count or shows a content. -/
theorem line_cases (shown : Interspersed noise contents lines) {line : Text}
    (listed : line ∈ lines) : noise line ∨ ∃ text ∈ contents, ∃ before after,
      Blank before ∧ Blank after ∧ line = before ++ text ++ after := by
  induction shown with
  | done => simp at listed
  | other ignored _ ih =>
    rcases List.mem_cons.mp listed with rfl | listed
    · exact .inl ignored
    · exact ih listed
  | @content before text after _ _ front back _ ih =>
    rcases List.mem_cons.mp listed with rfl | listed
    · exact .inr ⟨text, List.mem_cons_self, before, after, front, back, rfl⟩
    · rcases ih listed with ignored | ⟨text, member, rest⟩
      · exact .inl ignored
      · exact .inr ⟨text, List.mem_cons_of_mem _ member, rest⟩

/-- Each content is shown on a line. -/
theorem exists_line (shown : Interspersed noise contents lines) {text : Text}
    (member : text ∈ contents) : ∃ line ∈ lines, text <:+: line := by
  induction shown with
  | done => simp at member
  | other _ _ ih =>
    obtain ⟨line, listed, found⟩ := ih member
    exact ⟨line, List.mem_cons_of_mem _ listed, found⟩
  | @content before first after _ _ _ _ _ ih =>
    rcases List.mem_cons.mp member with rfl | member
    · exact ⟨_, List.mem_cons_self, before, after, rfl⟩
    · obtain ⟨line, listed, found⟩ := ih member
      exact ⟨line, List.mem_cons_of_mem _ listed, found⟩

end Interspersed

end Text

end CopyOracle
