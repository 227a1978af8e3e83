import CopyOracle.Case.Basic
import CopyOracle.Graph.Reader

/-!
# Input files

An input file holds a case: the vertex count of the pattern, the rows of its matrix, the same of
the target, and the number of copies, which is one when the line is missing. Lines are trimmed,
blank lines do not count, and entries stand apart by white space. Every error but the two of the
case itself is met at the first line that shows it, with the number that the line has in the
text; so what follows that line does not matter. A case is written in one form, and that form
reads back as the case.
-/
namespace CopyOracle

/-- The lines of a text that are not blank, with their numbers in the text. -/
def Text.contentLines (text : Text) : List Line :=
  text.numberedLines.filter fun line => !line.isEmpty

namespace Case

/-- The faults of the matrix of a graph in an input file. -/
def matrixFaults (role : GraphRole) : MatrixFaults InputError where
  notNumber := .invalidInteger
  rowMissing row := .truncated (.row role row)
  rowLength line row expected actual := .rowLength line role row expected actual

/-- The one number on the line of a count. -/
def readCount (line : Line) : Except InputError Nat :=
  match line.content.words with
  | [token] =>
    match Numeral.readSize? token with
    | some count => .ok count
    | none => .error (.invalidInteger line.number (.ofList token))
  | _ => .error (.invalidCount line.number)

/-- A graph from the front of the lines, with the lines after it. -/
def readGraph (role : GraphRole) : List Line → Except InputError (Graph × List Line)
  | [] => .error (.truncated (.vertexCount role))
  | line :: later => do
    let order ← readCount line
    (matrixFaults role).readGraph order later

/-- The number of copies on the last line; one when there is no line. -/
def readCopies : List Line → Except InputError Nat
  | [] => .ok 1
  | [line] => readCount line
  | line :: extra :: _ => do
    let _ ← readCount line
    .error (.trailingContent extra.number)

/-- The case on the lines that are not blank. -/
def ofLines : List Line → Except InputError Case
  | [] => .error .empty
  | lines => do
    let (pattern, lines) ← readGraph .pattern lines
    let (target, lines) ← readGraph .target lines
    let copies ← readCopies lines
    make pattern target (.ofNat copies)

/-- The case that an input file holds. -/
def read (text : Text) : Except InputError Case := ofLines text.contentLines

/-- The case that an input file holds. -/
def parse (text : String) : Except InputError Case := read text.toList

/-- The written case: its pattern, its target, and a line with the number of copies. -/
def write (problem : Case) : Text :=
  problem.pattern.write ++ problem.target.write ++ Numeral.digits problem.copies.toNat ++ ['\n']

/-- The input file of a case. -/
def render (problem : Case) : String := .ofList problem.write

/-- The bytes of the input file, put together from those of its three parts. -/
def inputBytes (problem : Case) : ByteArray :=
  (String.ofList problem.pattern.write).toUTF8 ++ (String.ofList problem.target.write).toUTF8 ++
    (String.ofList (Numeral.digits problem.copies.toNat)).toUTF8 ++ "\n".toUTF8

end Case

end CopyOracle
