import CopyOracle.Proofs.Text
/-!
# Pieces between line feeds

The lines of a text and the pieces between its line feeds differ in two ways: a line has lost a
carriage return at its end, and a text has no empty last line. Neither is left after trimming the
pieces and dropping the blank ones, so what counts in a text can be said by its line feeds alone.
-/

namespace CopyOracle

namespace Text

/-- The trimmed pieces between line feeds that are not blank. -/
def contents (text : Text) : List Text :=
  ((text.splitOn '\n').map trim).filter fun piece => !piece.isEmpty

/-- The words of each piece that is not blank. -/
def tokenLines (text : Text) : List (List Text) := text.contents.map words

/-- Nothing but white space is taken from the end. -/
theorem exists_eq_trimEnd_append (text : Text) :
    ∃ after, Blank after ∧ text = trimEnd text ++ after := by
  refine ⟨(text.reverse.takeWhile isBlank).reverse, fun c member => ?_, ?_⟩
  · exact List.mem_takeWhile_imp (List.mem_reverse.mp member)
  · rw [trimEnd, ← List.reverse_append, List.takeWhile_append_dropWhile, List.reverse_reverse]

/-- What trimming leaves is decided by what is left of the end. -/
theorem trim_trimEnd (text : Text) : trim (trimEnd text) = trim text := by
  obtain ⟨after, blank, same⟩ := exists_eq_trimEnd_append text
  have nothing : Blank [] := by simp [Blank]
  conv_rhs => rw [same, ← List.nil_append (trimEnd text)]
  exact (trim_append nothing blank (trimEnd text)).symm

/-- One more character in front keeps an agreement up to the end. -/
theorem trimEnd_cons_congr {left right : Text} (same : trimEnd left = trimEnd right) (c : Char) :
    trimEnd (c :: left) = trimEnd (c :: right) := by
  obtain ⟨after, blank, split⟩ := exists_eq_trimEnd_append left
  obtain ⟨after', blank', split'⟩ := exists_eq_trimEnd_append right
  calc trimEnd (c :: left)
      = trimEnd ((c :: trimEnd left) ++ after) := by rw [List.cons_append, ← split]
    _ = trimEnd ((c :: trimEnd right) ++ after') := by
        rw [trimEnd_append blank, same, trimEnd_append blank']
    _ = trimEnd (c :: right) := by rw [List.cons_append, ← split']

/-- A text has a first piece. -/
theorem exists_splitOn_eq_cons (text : Text) :
    ∃ piece pieces, text.splitOn '\n' = piece :: pieces :=
  List.exists_cons_of_ne_nil (List.splitOnP_ne_nil (· == '\n') text)

/-- Up to their ends, the pieces are the lines and perhaps an empty piece after them. -/
theorem splitOn_map_trimEnd (text : Text) : ∃ last, (last = [] ∨ last = [[]]) ∧
    (text.splitOn '\n').map trimEnd = (lines text).map trimEnd ++ last := by
  fun_induction lines text with
  | case1 => exact ⟨[[]], .inr rfl, rfl⟩
  | case2 rest ih =>
    obtain ⟨last, shape, same⟩ := ih
    refine ⟨last, shape, ?_⟩
    rw [List.splitOn_cons_eq_if_modifyHead, if_pos (by decide), List.map_cons, same]
    rfl
  | case3 rest ih =>
    obtain ⟨last, shape, same⟩ := ih
    refine ⟨last, shape, ?_⟩
    rw [List.splitOn_cons_eq_if_modifyHead, if_neg (by decide),
      List.splitOn_cons_eq_if_modifyHead, if_pos (by decide), List.modifyHead_cons, List.map_cons,
      same]
    rfl
  | case4 c rest noFeed _ empty ih =>
    obtain ⟨last, shape, same⟩ := ih
    obtain ⟨piece, pieces, cut⟩ := exists_splitOn_eq_cons rest
    rw [empty, cut, List.map_cons, List.map_nil, List.nil_append] at same
    obtain rfl | rfl := shape
    · contradiction
    · obtain ⟨same, none⟩ := List.cons.inj same
      have blank : trimEnd piece = trimEnd [] := same
      refine ⟨[], .inl rfl, ?_⟩
      rw [List.splitOn_cons_eq_if_modifyHead, if_neg (by simpa using noFeed), cut,
        List.modifyHead_cons, List.map_cons, none, trimEnd_cons_congr blank]
      rfl
  | case5 c rest noFeed _ line later split ih =>
    obtain ⟨last, shape, same⟩ := ih
    obtain ⟨piece, pieces, cut⟩ := exists_splitOn_eq_cons rest
    rw [split, cut, List.map_cons, List.map_cons, List.cons_append] at same
    obtain ⟨first, others⟩ := List.cons.inj same
    refine ⟨last, shape, ?_⟩
    rw [List.splitOn_cons_eq_if_modifyHead, if_neg (by simpa using noFeed), cut,
      List.modifyHead_cons, List.map_cons, others, trimEnd_cons_congr first c]
    rfl

/-- The trimmed lines that are not blank are the trimmed pieces that are not. -/
theorem lines_map_trim_filter (text : Text) :
    ((lines text).map trim).filter (fun line => !line.isEmpty) = text.contents := by
  obtain ⟨last, shape, same⟩ := splitOn_map_trimEnd text
  have trimmed (pieces : List Text) : (pieces.map trimEnd).map trim = pieces.map trim := by
    rw [List.map_map]
    exact List.map_congr_left fun piece _ => trim_trimEnd piece
  rw [contents, ← trimmed (text.splitOn '\n'), same, List.map_append, trimmed, List.filter_append]
  rcases shape with rfl | rfl <;> simp [trim, trimStart, trimEnd]

/-- What the lines of a text that count hold. -/
theorem contents_eq_map_trim {text : Text} {shown : List Text} (same : lines text = shown)
    (trimmed : ∀ line ∈ shown, Trimmed line) : text.contents = shown := by
  have kept : shown.map trim = shown :=
    (List.map_congr_left fun line member => (trimmed line member).trim_eq).trans (List.map_id _)
  rw [← lines_map_trim_filter, same, kept, List.filter_eq_self]
  intro line member
  simp [(trimmed line member).ne_nil]

end Text

end CopyOracle
