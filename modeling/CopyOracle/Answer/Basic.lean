import CopyOracle.Case.Basic
import CopyOracle.Mapping

/-!
# Answers

An answer is what a solver claims: an extended target, the copies it found there if it lists
them, and the cost of the extension. Solvers print one of two dialects, a labelled report or a
bare matrix, or say that they found none.
-/
namespace CopyOracle

/-- A claimed solution of a case. -/
structure Answer where
  /-- The target with edges added. -/
  extended : Graph
  /-- The copies in the order they were numbered; none when the dialect omits them. -/
  copies : Option (List Mapping)
  /-- The printed cost of the extension. -/
  cost : UInt64
deriving DecidableEq

/-- What a solver printed. -/
inductive Claim where
  /-- It claims a solution. -/
  | found (answer : Answer)
  /-- It claims that there is none. -/
  | notFound
deriving DecidableEq

/-- The two ways in which solvers print an answer. -/
inductive Dialect where
  /-- Labelled parts with the cost, the copies and the extended graph. -/
  | verbose
  /-- The vertex count, the rows of the matrix, and the cost. -/
  | compact
deriving DecidableEq, Repr

/-- The name of a dialect. -/
def Dialect.name : Dialect → String
  | .verbose => "verbose"
  | .compact => "compact"

/-- A part that every answer of a dialect has. -/
inductive AnswerPart where
  /-- The cost line of a labelled report. -/
  | extensionCost
  /-- The list of copies of a labelled report. -/
  | mappings
  /-- The matrix of a labelled report. -/
  | extendedGraph
  /-- The cost after a bare matrix. -/
  | cost
deriving DecidableEq, Repr

/-- The name of a part. -/
def AnswerPart.name : AnswerPart → String
  | .extensionCost => "extension cost"
  | .mappings => "mappings"
  | .extendedGraph => "extended graph"
  | .cost => "cost"

/-- Why a printed text is no answer. -/
inductive AnswerError where
  /-- Nothing was printed. -/
  | emptyOutput
  /-- A part is missing. -/
  | missingPart (dialect : Dialect) (part : AnswerPart)
  /-- A word is no numeral of the size needed there. -/
  | invalidInteger (line : Nat) (token : String)
  /-- The printed vertex count is not that of the target. -/
  | dimensionMismatch (expected actual : Nat)
  /-- A row does not have as many entries as the target has vertices. -/
  | rowLength (line row expected actual : Nat)
  /-- The matrix ends early. -/
  | missingRows (expected actual : Nat)
  /-- A copy is numbered zero. -/
  | copyOutOfRange (line copy copies : Nat)
  /-- A copy assigns a vertex that the pattern does not have. -/
  | sourceOutOfRange (line copy vertex order : Nat)
  /-- A copy is listed twice. -/
  | duplicateCopy (line copy : Nat)
  /-- A line follows the cost. -/
  | trailingContent (line : Nat)
  /-- The rows form no graph for another reason than their length. -/
  | invalidMatrix (error : GraphError)
deriving DecidableEq, Repr

/-- The wording of an answer error. -/
def AnswerError.message : AnswerError → String
  | .emptyOutput => "solver output is empty"
  | .missingPart dialect part => s!"{dialect.name} output lacks the {part.name} section"
  | .invalidInteger line token => s!"line {line}: `{token}` is not a non-negative integer"
  | .dimensionMismatch expected actual =>
    s!"extended graph has {actual} vertices, expected {expected}"
  | .rowLength line row expected actual =>
    s!"line {line}: row {row} has {actual} entries, expected {expected}"
  | .missingRows expected actual => s!"extended graph has {actual} of {expected} rows"
  | .copyOutOfRange line copy copies => s!"line {line}: copy {copy} is outside 1..={copies}"
  | .sourceOutOfRange line copy vertex order =>
    s!"line {line}: copy {copy} maps vertex {vertex}, outside a pattern with {order} vertices"
  | .duplicateCopy line copy => s!"line {line}: copy {copy} is listed more than once"
  | .trailingContent line => s!"line {line}: unexpected trailing content"
  | .invalidMatrix error => s!"extended graph is malformed: {error.message}"

namespace AnswerError

/-- The 64-bit size that a token on a line stands for. -/
def readSize (line : Nat) (token : Text) : Except AnswerError Nat :=
  match Numeral.readSize? token with
  | some value => .ok value
  | none => .error (.invalidInteger line (.ofList token))

/-- The 64-bit word that a token on a line stands for. -/
def readWord (line : Nat) (token : Text) : Except AnswerError UInt64 :=
  match Numeral.readWord64? token with
  | some value => .ok value
  | none => .error (.invalidInteger line (.ofList token))

end AnswerError

end CopyOracle
