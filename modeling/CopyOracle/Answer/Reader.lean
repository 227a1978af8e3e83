import CopyOracle.Answer.Compact
import CopyOracle.Answer.Verbose

/-!
# Reading what a solver printed

The dialect is told by a few marks that only a labelled report has. A text with a mark of
refusal claims that there is no solution, whatever else it holds.
-/
namespace CopyOracle

/-- What a solver prints when it searched and found nothing. -/
def refusalMarks : List Text := ["No solution found".toList, "Nie znaleziono".toList]

/-- Whether a text says that no solution was found. -/
def reportsNoSolution (text : Text) : Bool := Verbose.containsAny text refusalMarks

namespace Dialect

/-- What a line of a labelled report may hold and no bare answer does. -/
def verboseMarks : List Text := "===".toList :: "Results".toList :: Verbose.costLabels

/-- The dialect of a text. -/
def sniff (text : Text) : Dialect :=
  if text.lines.any fun line => Verbose.containsAny line verboseMarks then .verbose else .compact

/-- The claim in a text of this dialect. -/
def read (dialect : Dialect) (sizes : Sizes) (text : Text) : Except AnswerError Claim :=
  if reportsNoSolution text then .ok .notFound
  else match dialect with
    | .verbose => (Verbose.read sizes text).map .found
    | .compact => (Compact.read sizes text).map .found

end Dialect

/-- The claim in what a solver printed. -/
def Claim.read (sizes : Sizes) (text : Text) : Except AnswerError Claim :=
  if text.trim.isEmpty then .error .emptyOutput else (Dialect.sniff text).read sizes text

end CopyOracle
