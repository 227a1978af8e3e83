import CopyOracle.Graph.Basic
import CopyOracle.Number.Binomial

/-!
# Cases

A case asks for a number of distinct copies of a pattern in a cheapest extension of a target.
Two copies are distinct when they use different vertex sets, so there can be no more copies than
subsets of target vertices of the size of the pattern: a case that asks for more, or whose
target is smaller than its pattern, is impossible.
-/
namespace CopyOracle

/-- The two graphs of a case. -/
inductive GraphRole where
  /-- The graph whose copies are asked for. -/
  | pattern
  /-- The graph that is extended. -/
  | target
deriving DecidableEq, Repr

/-- The name of a graph in messages. -/
def GraphRole.name : GraphRole → String
  | .pattern => "G1"
  | .target => "G2"

/-- What an input file lacks at its end. -/
inductive MissingInput where
  /-- The line with the vertex count of a graph. -/
  | vertexCount (role : GraphRole)
  /-- A row of the matrix of a graph. -/
  | row (role : GraphRole) (index : Nat)
deriving DecidableEq, Repr

/-- The wording of what is missing. -/
def MissingInput.describe : MissingInput → String
  | .vertexCount role => s!"the {role.name} vertex count"
  | .row role index => s!"{role.name} row {index}"

/-- Why a text is no input file, or two graphs and a number are no case. -/
inductive InputError where
  /-- The file has no line that is not blank. -/
  | empty
  /-- The file ends before a needed line. -/
  | truncated (what : MissingInput)
  /-- A word is no numeral of the size needed there. -/
  | invalidInteger (line : Nat) (token : String)
  /-- The line of a count does not hold exactly one word. -/
  | invalidCount (line : Nat)
  /-- A row does not have as many entries as its graph has vertices. -/
  | rowLength (line : Nat) (role : GraphRole) (row expected actual : Nat)
  /-- The pattern has no vertex. -/
  | emptyPattern
  /-- No copy is asked for. -/
  | zeroCopies
  /-- A line that is not blank follows the number of copies. -/
  | trailingContent (line : Nat)
deriving DecidableEq, Repr

/-- The wording of an input error. -/
def InputError.message : InputError → String
  | .empty => "input is empty"
  | .truncated what => s!"input ended before {what.describe}"
  | .invalidInteger line token => s!"line {line}: `{token}` is not a non-negative integer"
  | .invalidCount line => s!"line {line}: expected a single vertex count"
  | .rowLength line role row expected actual =>
    s!"line {line}: {role.name} row {row} has {actual} entries, expected {expected}"
  | .emptyPattern => "pattern graph must have at least one vertex"
  | .zeroCopies => "copy count must be at least 1"
  | .trailingContent line => s!"line {line}: unexpected trailing content"

/-- The sizes that an answer to a case is read against. -/
structure Sizes where
  /-- Vertices of the pattern. -/
  pattern : Nat
  /-- Vertices of the target. -/
  target : Nat
  /-- Copies asked for. -/
  copies : Nat
deriving DecidableEq, Repr

/-- A pattern, a target, and how many distinct copies of the pattern are asked for. -/
structure Case where
  /-- The graph whose copies are asked for. -/
  pattern : Graph
  /-- The graph that is extended. -/
  target : Graph
  /-- How many distinct copies are asked for. -/
  copies : UInt64
  /-- A pattern has a vertex. -/
  pattern_nonempty : 0 < pattern.order
  /-- A copy is asked for. -/
  copies_positive : 0 < copies
deriving DecidableEq

namespace Case

/-- The case of two graphs and a number; an empty pattern is reported before a zero. -/
def make (pattern target : Graph) (copies : UInt64) : Except InputError Case :=
  if nonempty : 0 < pattern.order then
    if positive : 0 < copies then .ok ⟨pattern, target, copies, nonempty, positive⟩
    else .error .zeroCopies
  else .error .emptyPattern

/-- The sizes that an answer is read against. -/
def sizes (problem : Case) : Sizes :=
  ⟨problem.pattern.order, problem.target.order, problem.copies.toNat⟩

/-- The number of vertex sets that a copy can use. -/
def maxImages (problem : Case) : Nat := binomial problem.target.order problem.pattern.order

/-- Whether the target has fewer vertices than the pattern. -/
def targetTooSmall (problem : Case) : Bool := problem.target.order < problem.pattern.order

/-- Whether no answer exists. -/
def isImpossible (problem : Case) : Bool :=
  problem.targetTooSmall || problem.maxImages < problem.copies.toNat

end Case

end CopyOracle
