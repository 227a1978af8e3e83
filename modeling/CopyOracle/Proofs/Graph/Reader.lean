import CopyOracle.Graph.Reader
import CopyOracle.Proofs.Number.Numeral
import CopyOracle.Proofs.Result
/-!
# Reading and writing matrices

`ShowsRow` says that the words of a line are numerals of the entries of a row, in order. A graph
is read from the front of the lines exactly when as many lines as it has vertices show its rows;
the names of the faults do not matter for that. A written row shows itself. A graph is determined
by its rows, and so by its order and its entries; and it is made again from its rows.
-/

namespace CopyOracle

/-- The words of the line are numerals of the entries, in order. -/
def ShowsRow (entries : List UInt32) (line : Text) : Prop :=
  List.Forall₂ (fun entry token => Numeral.Denotes token entry.toNat) entries line.words

namespace Graph

/-- A written row is made of digits and spaces. -/
theorem isDigit_or_eq_space_of_mem_writeRow {row : List UInt32} {c : Char}
    (member : c ∈ writeRow row) : c.isDigit = true ∨ c = ' ' := by
  rcases Text.mem_intercalate member with space | ⟨text, listed, digit⟩
  · exact .inr (List.mem_singleton.mp space)
  · obtain ⟨entry, _, rfl⟩ := List.mem_map.mp listed
    exact .inl (Numeral.isDigit_of_mem_digits digit)

/-- A written row that is not empty has nothing to trim. -/
theorem writeRow_trimmed {row : List UInt32} (nonempty : row ≠ []) : (writeRow row).Trimmed := by
  refine Text.trimmed_intercalate (by simpa using nonempty) fun text member => ?_
  obtain ⟨entry, _, rfl⟩ := List.mem_map.mp member
  exact Numeral.digits_trimmed _

/-- A written row that is not empty begins with a digit. -/
theorem writeRow_eq_cons {row : List UInt32} (nonempty : row ≠ []) :
    ∃ c rest, writeRow row = c :: rest ∧ c.isDigit = true := by
  obtain ⟨c, rest, same, visible⟩ := (writeRow_trimmed nonempty).first
  refine ⟨c, rest, same, ?_⟩
  have member : c ∈ writeRow row := by simp [same]
  refine (isDigit_or_eq_space_of_mem_writeRow member).resolve_right fun space => ?_
  rw [space] at visible
  contradiction

/-- A written row shows its entries. -/
theorem showsRow_writeRow (row : List UInt32) : ShowsRow row (writeRow row) := by
  have tokens : (writeRow row).words = row.map fun entry => Numeral.digits entry.toNat := by
    refine Text.words_intercalate fun word member => ?_
    obtain ⟨entry, _, rfl⟩ := List.mem_map.mp member
    exact ⟨Numeral.digits_ne_nil _, fun c digit =>
      Numeral.isBlank_of_isDigit (Numeral.isDigit_of_mem_digits digit)⟩
  rw [ShowsRow, tokens, List.forall₂_map_right_iff, List.forall₂_same]
  exact fun entry _ => Numeral.denotes_digits entry.toNat

/-- The rows of a graph are as long as it has vertices. -/
theorem length_of_mem_toRows {graph : Graph} {row : List UInt32} (member : row ∈ graph.toRows) :
    row.length = graph.order := by
  obtain ⟨entries, _, rfl⟩ := List.mem_map.mp member
  simp

/-- A row of a graph is not empty. -/
theorem ne_nil_of_mem_toRows {graph : Graph} {row : List UInt32} (member : row ∈ graph.toRows) :
    row ≠ [] := by
  intro empty
  have sized := length_of_mem_toRows member
  have count : graph.toRows.length = graph.order := by simp [toRows]
  rw [empty, List.length_nil] at sized
  rw [← sized, List.length_eq_zero_iff] at count
  simp [count] at member

/-- The lines of a written graph. -/
def writtenLines (graph : Graph) : List Text :=
  Numeral.digits graph.order :: graph.toRows.map writeRow

/-- A written graph is its lines, each ended by a line feed. -/
theorem write_eq_flatMap (graph : Graph) :
    graph.write = graph.writtenLines.flatMap (· ++ ['\n']) := by
  simp [write, writtenLines, List.flatMap_map]

/-- A line of a written graph begins and ends with a digit and is made of digits and spaces. -/
theorem trimmed_of_mem_writtenLines {graph : Graph} {line : Text}
    (member : line ∈ graph.writtenLines) :
    line.Trimmed ∧ ∀ c ∈ line, c.isDigit = true ∨ c = ' ' := by
  rw [writtenLines, List.mem_cons, List.mem_map] at member
  rcases member with rfl | ⟨row, listed, rfl⟩
  · exact ⟨Numeral.digits_trimmed _, fun _ digit => .inl (Numeral.isDigit_of_mem_digits digit)⟩
  · exact ⟨writeRow_trimmed (ne_nil_of_mem_toRows listed),
      fun _ => isDigit_or_eq_space_of_mem_writeRow⟩

end Graph

namespace MatrixFaults

variable {ε : Type} {faults : MatrixFaults ε}

/-- The numbers of a line are read exactly when the line shows them. -/
theorem readEntries_eq_ok_iff {line : Line} {entries : List UInt32} :
    faults.readEntries line = .ok entries ↔ ShowsRow entries line.content := by
  rw [readEntries, mapM_eq_ok_iff, ShowsRow]
  constructor
  · refine List.Forall₂.imp fun entry word read => ?_
    rw [← Numeral.readWord32?_eq_some_iff]
    split at read
    · next found =>
      obtain rfl := Except.ok.inj read
      exact found
    · contradiction
  · refine List.Forall₂.imp fun entry word denoted => ?_
    simp only [Numeral.readWord32?_eq_some_iff.mpr denoted]

/-- A row is read exactly when its line shows it. -/
theorem readRow_eq_ok_iff {order row : Nat} {line : Line} {entries : Vector UInt32 order} :
    faults.readRow order row line = .ok entries ↔ ShowsRow entries.toList line.content := by
  rw [readRow, bind_eq_ok_iff]
  simp only [readEntries_eq_ok_iff]
  constructor
  · rintro ⟨numbers, shown, made⟩
    split at made
    · obtain rfl := Except.ok.inj made
      simpa using shown
    · contradiction
  · intro shown
    refine ⟨entries.toList, shown, ?_⟩
    rw [dif_pos (by simp)]
    exact congrArg Except.ok (Vector.toArray_inj.mp (Array.toArray_toList))

/-- Rows are read exactly when the lines begin with lines that show them. -/
theorem readRows_eq_ok_iff {order count row : Nat} {lines rest : List Line}
    {rows : { rows : List (Vector UInt32 order) // rows.length = count }} :
    faults.readRows order count row lines = .ok (rows, rest) ↔ ∃ front, lines = front ++ rest ∧
      List.Forall₂ (fun entries (line : Line) => ShowsRow entries.toList line.content)
        rows.val front := by
  induction count generalizing row lines with
  | zero =>
    obtain ⟨rows, sized⟩ := rows
    obtain rfl := List.length_eq_zero_iff.mp sized
    simp [readRows, eq_comm]
  | succ count ih =>
    obtain ⟨rows, sized⟩ := rows
    obtain ⟨entries, later, rfl⟩ := List.exists_cons_of_length_eq_add_one sized
    cases lines with
    | nil => simp [readRows]
    | cons line lines =>
      simp only [readRows, bind_eq_ok_iff, readRow_eq_ok_iff, Prod.exists, Subtype.exists]
      constructor
      · rintro ⟨head, first, tail, length, left, others, made⟩
        simp only [Except.ok.injEq, Prod.mk.injEq, Subtype.mk.injEq, List.cons.injEq] at made
        obtain ⟨⟨rfl, rfl⟩, rfl⟩ := made
        obtain ⟨front, rfl, shown⟩ := ih.mp others
        exact ⟨line :: front, rfl, .cons first shown⟩
      · rintro ⟨front, split, shown⟩
        cases shown with
        | cons head tail =>
          obtain ⟨rfl, rfl⟩ := List.cons.inj split
          exact ⟨entries, head, later, by simpa using sized, rest, ih.mpr ⟨_, rfl, tail⟩, rfl⟩

/-- A graph is read exactly when the lines begin with lines that show its rows. -/
theorem readGraph_eq_ok_iff {order : Nat} {lines rest : List Line} {graph : Graph} :
    faults.readGraph order lines = .ok (graph, rest) ↔ graph.order = order ∧
      ∃ front, lines = front ++ rest ∧
        List.Forall₂ (fun entries (line : Line) => ShowsRow entries line.content)
          graph.toRows front := by
  simp only [readGraph, bind_eq_ok_iff, readRows_eq_ok_iff, Prod.exists, Subtype.exists,
    Except.ok.injEq, Prod.mk.injEq]
  constructor
  · rintro ⟨rows, sized, left, ⟨front, split, shown⟩, rfl, rfl⟩
    exact ⟨rfl, front, split, List.forall₂_map_left_iff.mpr shown⟩
  · rintro ⟨rfl, front, split, shown⟩
    exact ⟨graph.rows.toList, by simp, rest, ⟨front, split, List.forall₂_map_left_iff.mp shown⟩,
      rfl, rfl⟩

end MatrixFaults

namespace Graph

/-- Graphs with the same rows are the same. -/
theorem toRows_injective : Function.Injective Graph.toRows := by
  rintro ⟨order, rows⟩ ⟨other, others⟩ same
  have orders : order = other := by
    have lengths := congrArg List.length same
    simpa [toRows] using lengths
  subst orders
  have lists : rows.toList = others.toList :=
    List.map_injective_iff.mpr (fun _ _ => Vector.toList_inj.mp) same
  rw [Vector.toList_inj.mp lists]

/-- The graph of a square matrix has its rows. -/
theorem toRows_ofSquare (matrix : List (List UInt32))
    (square : ∀ row ∈ matrix, row.length = matrix.length) :
    (ofSquare matrix square).toRows = matrix := by
  simp [toRows, ofSquare, Function.comp_def]

/-- A graph is made again from its rows. -/
theorem ofRows_toRows (graph : Graph) : ofRows graph.toRows = .ok graph := by
  have square : (graph.toRows.findIdx? fun row => row.length != graph.toRows.length) = none := by
    rw [List.findIdx?_eq_none_iff]
    intro row member
    have sized := length_of_mem_toRows member
    simpa [toRows] using sized
  rw [ofRows]
  split
  · next row found =>
    rw [square] at found
    contradiction
  · exact congrArg Except.ok (toRows_injective (toRows_ofSquare _ _))

/-- The rows hold the entries. -/
theorem toRows_eq_map (graph : Graph) : graph.toRows =
    (List.range graph.order).map fun u => (List.range graph.order).map (graph.edgeCount u) := by
  refine List.ext_getElem (by simp [toRows]) fun u inRows inRange => ?_
  refine List.ext_getElem (by simp [toRows]) fun v inRow inLine => ?_
  have hu : u < graph.order := by simpa using inRange
  have hv : v < graph.order := by simpa using inLine
  simp [toRows, edgeCount, hu, hv]

/-- Graphs of one order with the same entries are the same. -/
theorem eq_of_edgeCount {left right : Graph} (order : left.order = right.order)
    (entries : ∀ u < left.order, ∀ v < left.order, left.edgeCount u v = right.edgeCount u v) :
    left = right := by
  apply toRows_injective
  rw [toRows_eq_map, toRows_eq_map, ← order]
  refine List.map_congr_left fun u hu => List.map_congr_left fun v hv => ?_
  exact entries u (List.mem_range.mp hu) v (List.mem_range.mp hv)

end Graph

end CopyOracle
