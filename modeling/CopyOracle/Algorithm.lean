import CopyOracle.Text.Basic

/-!
# Algorithms

A solver has two algorithms, and a run exercises one of them. Their names are read in any case
and with white space around them; the heuristic one has a long name besides its short one.
-/
namespace CopyOracle

/-- Which algorithm of the solver a run exercises. -/
inductive Algorithm where
  /-- The search for a cheapest extension. -/
  | exact
  /-- The heuristic. -/
  | approximate
deriving DecidableEq, Repr, Ord

/-- A name that no algorithm has. -/
structure UnknownAlgorithm where
  /-- The name as it was given. -/
  name : String
deriving DecidableEq, Repr

/-- The wording of an unknown algorithm. -/
def UnknownAlgorithm.message (unknown : UnknownAlgorithm) : String :=
  s!"unknown algorithm `{unknown.name}`; expected `exact` or `approx`"

namespace Algorithm

/-- All algorithms in order. -/
def all : List Algorithm := [.exact, .approximate]

/-- The short name, which is also the word given to a solver. -/
def name : Algorithm → String
  | .exact => "exact"
  | .approximate => "approx"

/-- The algorithm of a name. -/
def parse (text : String) : Except UnknownAlgorithm Algorithm :=
  let name := (Text.trim text.toList).lower
  if name = "exact".toList then .ok .exact
  else if name = "approx".toList || name = "approximate".toList then .ok .approximate
  else .error ⟨text⟩

end Algorithm

end CopyOracle
