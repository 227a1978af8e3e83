import CopyOracle.Text.Basic

/-!
# Diagnostics

Solvers announce a refusal or a failure with fixed phrases. The phrases are a table, and the
first entry all of whose phrases occur in the text decides.
-/
namespace CopyOracle

/-- A refusal or a failure that a solver announces. -/
inductive Diagnostic where
  /-- It could not open its input file. -/
  | unreadableInput
  /-- It takes its input file for malformed. -/
  | malformedInput
  /-- It found the target smaller than the pattern. -/
  | targetTooSmall
  /-- It was asked for more copies than there are vertex sets. -/
  | impossibleCopies
  /-- It searched and found nothing. -/
  | noSolution
deriving DecidableEq, Repr

namespace Diagnostic

/-- The name of a diagnostic. -/
def name : Diagnostic → String
  | .unreadableInput => "unreadable input"
  | .malformedInput => "malformed input"
  | .targetTooSmall => "target too small"
  | .impossibleCopies => "impossible copy count"
  | .noSolution => "no solution"

/-- The phrases of the diagnostics, the first to be taken in front. -/
def table : List (List Text × Diagnostic) :=
  [(["ERROR: Cannot open file".toList], .unreadableInput),
    (["ERROR: Cannot read".toList], .malformedInput),
    (["ERROR: Invalid".toList], .malformedInput),
    (["n2=".toList, "< n1=".toList], .targetTooSmall),
    (["n2 < n1".toList], .targetTooSmall),
    (["ERROR: Impossible".toList], .impossibleCopies),
    (["cannot add new vertices".toList], .impossibleCopies),
    (["k > C(n2,n1)".toList], .impossibleCopies),
    (["exceeds the maximum number".toList], .impossibleCopies),
    (["No solution found".toList], .noSolution),
    (["Nie znaleziono".toList], .noSolution)]

/-- The diagnostic that a text announces. -/
def recognise? (text : Text) : Option Diagnostic :=
  (table.find? fun entry => entry.1.all text.contains).map Prod.snd

end Diagnostic

end CopyOracle
