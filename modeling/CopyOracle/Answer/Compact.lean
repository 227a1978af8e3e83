import CopyOracle.Answer.Basic
import CopyOracle.Graph.Reader

/-!
# The compact dialect

A bare answer is the vertex count, the rows of the matrix and the cost, a line each. Blank lines
and lines that start with `ERROR` or `TIME_MS` do not count, wherever they stand; nothing may
follow the cost. Copies are not printed.
-/
namespace CopyOracle.Compact

/-- Whether a line counts: it is not blank and is no diagnostic. -/
def isContent (line : Line) : Bool :=
  !line.isEmpty && !"ERROR".toList.isPrefixOf line.content &&
    !"TIME_MS".toList.isPrefixOf line.content

/-- The faults of the matrix of a bare answer. -/
def matrixFaults (order : Nat) : MatrixFaults AnswerError where
  notNumber := .invalidInteger
  rowMissing row := .missingRows order row
  rowLength := .rowLength

/-- The answer on the lines that count. -/
def ofLines (order : Nat) : List Line → Except AnswerError Answer
  | [] => .error .emptyOutput
  | line :: lines => do
    let printed ← AnswerError.readSize line.number line.content
    if printed ≠ order then .error (.dimensionMismatch order printed)
    else
      let (extended, lines) ← (matrixFaults order).readGraph order lines
      match lines with
      | [] => .error (.missingPart .compact .cost)
      | line :: later => do
        let cost ← AnswerError.readWord line.number line.content
        match later with
        | [] => .ok ⟨extended, none, cost⟩
        | extra :: _ => .error (.trailingContent extra.number)

/-- The bare answer that a text holds, for a target of the given sizes. -/
def read (sizes : Sizes) (text : Text) : Except AnswerError Answer :=
  ofLines sizes.target (text.numberedLines.filter isContent)

/-- The written bare answer. -/
def write (extended : Graph) (cost : UInt64) : Text :=
  extended.write ++ Numeral.digits cost.toNat ++ ['\n']

end CopyOracle.Compact
