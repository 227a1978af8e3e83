import CopyOracle.Graph.Basic

/-!
# Reading a square matrix from lines

A matrix of known order is read one line a row: every word of the line is the numeral of a
32-bit word, and there are as many words as the matrix has rows. The faults are named by the
reader that calls, since a missing row of an input file and of an answer are different errors.
-/
namespace CopyOracle

/-- How a reader of a matrix names what can be wrong with it. -/
structure MatrixFaults (ε : Type) where
  /-- A word of a row is no numeral of a 32-bit word. -/
  notNumber (line : Nat) (token : String) : ε
  /-- The lines end before the row. -/
  rowMissing (row : Nat) : ε
  /-- A row has another number of entries than the matrix has rows. -/
  rowLength (line row expected actual : Nat) : ε

namespace MatrixFaults

variable {ε : Type} (faults : MatrixFaults ε)

/-- The numbers on a line, or the first word that is none. -/
def readEntries (line : Line) : Except ε (List UInt32) :=
  line.content.words.mapM fun token =>
    match Numeral.readWord32? token with
    | some entry => .ok entry
    | none => .error (faults.notNumber line.number (.ofList token))

/-- A row of the matrix. A word that is no numeral is reported before a wrong length. -/
def readRow (order row : Nat) (line : Line) : Except ε (Vector UInt32 order) := do
  let entries ← faults.readEntries line
  if sized : entries.length = order then .ok ⟨entries.toArray, by simpa using sized⟩
  else .error (faults.rowLength line.number row order entries.length)

/-- The next rows of the matrix, `row` being the first of them, with the lines after them. -/
def readRows (order : Nat) : (count row : Nat) → List Line →
    Except ε ({ rows : List (Vector UInt32 order) // rows.length = count } × List Line)
  | 0, _, lines => .ok (⟨[], rfl⟩, lines)
  | _ + 1, row, [] => .error (faults.rowMissing row)
  | count + 1, row, line :: later => do
    let entries ← faults.readRow order row line
    let (rows, rest) ← readRows order count (row + 1) later
    .ok (⟨entries :: rows.val, by simp [rows.property]⟩, rest)

/-- A graph of known order from the front of the lines, with the lines after it. -/
def readGraph (order : Nat) (lines : List Line) : Except ε (Graph × List Line) := do
  let (rows, rest) ← faults.readRows order order 0 lines
  .ok (⟨order, ⟨rows.val.toArray, by simp [rows.property]⟩⟩, rest)

end MatrixFaults

end CopyOracle
