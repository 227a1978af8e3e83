import CopyOracle.Batch.Basic

/-!
# Summaries

What a command did is shown as lines of text. A batch is shown by its counts, over all and by
slice, its failures and the files that it left; generated corpora by their directories; a checked
answer by its verdict.
-/
namespace CopyOracle

/-- What a command did. -/
inductive Summary where
  /-- It ran a batch, perhaps of random cases from a seed, and perhaps wrote the records. -/
  | batch (report : BatchReport) (results : Option String) (seed : Option UInt64)
  /-- It wrote so many cases into each of some directories. -/
  | generated (corpora : List (String × Nat))
  /-- It judged the answer to the case in a file. -/
  | checked (input : String) (judgement : Judgement)
deriving DecidableEq, Repr

namespace Summary

/-- Whether everything that was judged passed. -/
def isClean : Summary → Bool
  | .batch report _ _ => report.isClean
  | .generated _ => true
  | .checked _ judgement => judgement.verdict.isPass

/-- The mean time of passing runs, in milliseconds with three decimals. -/
def meanText (counts : Counts) : String :=
  match counts.meanPassingTime? with
  | some time => .ofList (FloatText.threeDecimals time.toMilliseconds) ++ " ms"
  | none => "n/a"

/-- The line of a slice of a batch. -/
def countsLine (label : String) (counts : Counts) : String :=
  "\t".intercalate
    [label, s!"passed {counts.passRate.describe}", s!"ok {counts.ok}",
      s!"validation {counts.validationFailures}", s!"parse {counts.parseErrors}",
      s!"no-solution {counts.expectedNoSolution}/{counts.unexpectedNoSolution}",
      s!"impossible {counts.impossible}", s!"timeout {counts.timeouts}",
      s!"process {counts.runErrors}", s!"mean {meanText counts}"]

/-- The line of a run that did not pass. -/
def failureLine (record : Record) : String :=
  "\t".intercalate
    [s!"  {record.test}", record.algorithm.name, record.verdict.outcome, record.verdict.describe]

/-- The line of a value that may be missing. -/
def optionalLine (label : String) (value : Option String) : List String :=
  match value with
  | some text => [s!"{label}: {text}"]
  | none => []

/-- The lines of a batch. -/
def batchLines (report : BatchReport) (results : Option String) (seed : Option UInt64) :
    List String :=
  let failed := report.records.filter fun record => !record.passed
  optionalLine "seed" (seed.map toString) ++
    [s!"runs: {report.records.length}"] ++
    (if report.skipped = 0 then [] else [s!"skipped: {report.skipped}"]) ++
    [countsLine "overall" report.tally.overall] ++
    report.tally.byAlgorithm.map (fun (algorithm, counts) =>
      countsLine s!"algorithm {algorithm.name}" counts) ++
    report.tally.bySource.map (fun (source, counts) => countsLine s!"source {source}" counts) ++
    (if failed.isEmpty then [] else "failures:" :: failed.map failureLine) ++
    report.archived.map (fun path => s!"archived: {path}") ++
    optionalLine "results" results

/-- The lines of a judged answer. -/
def judgementLines (input : String) (judgement : Judgement) : List String :=
  [s!"input: {input}", s!"outcome: {judgement.verdict.outcome}",
    s!"detail: {judgement.verdict.describe}"] ++
    optionalLine "cost" (judgement.cost.map toString) ++
    judgement.notes.map fun note => s!"note: {note.message}"

/-- The lines of a summary. -/
def lines : Summary → List String
  | .batch report results seed => batchLines report results seed
  | .generated corpora => corpora.map fun (directory, cases) => s!"{directory}\t{cases} cases"
  | .checked input judgement => judgementLines input judgement

/-- The text of a summary, each line with its line end. -/
def render (summary : Summary) : String := .join (summary.lines.map (· ++ "\n"))

end Summary

end CopyOracle
