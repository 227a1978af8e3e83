import CopyOracle.Job.Basic
import CopyOracle.Json.Basic
import CopyOracle.Judgement.Basic

/-!
# Records of runs

A record is what is kept of one judged run. It holds the texts of the verdict and of the remarks,
so that it can be read without the program that wrote it. Members that a run does not have are
null, and a few are left out altogether.
-/
namespace CopyOracle

/-- What is kept of one run. -/
structure Record where
  /-- The name of the case. -/
  test : String
  /-- The generator or the directory of the case. -/
  source : String
  /-- The algorithm. -/
  algorithm : Algorithm
  /-- The sizes of the case; none for a malformed input. -/
  sizes : Option Sizes
  /-- The time of the solver. -/
  time : Option Duration
  /-- The cost that the solver reported. -/
  cost : Option UInt64
  /-- The verdict. -/
  verdict : Verdict
  /-- The seed of a random case. -/
  seed : Option UInt64
  /-- Remarks. -/
  notes : List Note
deriving DecidableEq, Repr

namespace Record

/-- The record of a judged job. -/
def ofJudgement (job : Job) (judgement : Judgement) : Record where
  test := job.name
  source := job.source
  algorithm := job.algorithm
  sizes := job.input.sizes?
  time := judgement.time
  cost := judgement.cost
  verdict := judgement.verdict
  seed := job.seed
  notes := judgement.notes

/-- Whether the run passed. -/
def passed (record : Record) : Bool := record.verdict.isPass

/-- Whether there truly is no solution, for a claim of none. -/
def expected? (record : Record) : Option Bool :=
  match record.verdict with
  | .noSolution expected => some expected
  | _ => none

/-- A member that is left out when its value is missing. -/
def optionalMember {α : Type} (key : String) (write : α → JsonValue) (value : Option α) :
    List (String × JsonValue) :=
  match value with
  | none => []
  | some value => [(key, write value)]

/-- A 64-bit word as a JSON integer. -/
def wordValue (word : UInt64) : JsonValue := .natural word.toNat

/-- The record as a JSON object. -/
def toJson (record : Record) : JsonValue :=
  .object
    ([("test", .string record.test),
      ("source", .string record.source),
      ("algorithm", .string record.algorithm.name),
      ("n1", .option .natural (record.sizes.map Sizes.pattern)),
      ("n2", .option .natural (record.sizes.map Sizes.target)),
      ("k", .option .natural (record.sizes.map Sizes.copies)),
      ("time_ms", .option .double (record.time.map Duration.toMilliseconds)),
      ("cost", .option wordValue record.cost),
      ("outcome", .string record.verdict.outcome),
      ("passed", .bool record.passed),
      ("detail", .string record.verdict.describe)] ++
    optionalMember "expected" .bool record.expected? ++
    optionalMember "seed" wordValue record.seed ++
    (if record.notes.isEmpty then []
      else [("notes", .array (record.notes.map fun note => .string note.message))]))

/-- The text of a results file: an array of the records, and a line end. -/
def writeAll (records : List Record) : Text :=
  JsonValue.pretty 0 (.array (records.map toJson)) ++ ['\n']

end Record

end CopyOracle
