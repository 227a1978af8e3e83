import CopyOracle.CommandLine.Execution
import CopyOracle.Proofs.Case.Input
import CopyOracle.Proofs.File.Action
import Mathlib
/-!
# Replaying a run

What a job sends to its solver is enough to judge the run again: reading it gives the input of the
job back, well-formed or not, and checking what was captured of the run against it finds what the
batch found. Only the measured time may differ, since a judgement depends on it nowhere else.
-/

namespace CopyOracle

/-- Two judgements found the same; their times may differ. -/
structure Judgement.SameFindings (left right : Judgement) : Prop where
  /-- They reach the same verdict. -/
  verdict : left.verdict = right.verdict
  /-- They go through the same stages. -/
  stages : left.stages = right.stages
  /-- They report the same cost. -/
  cost : left.cost = right.cost
  /-- They make the same remarks. -/
  notes : left.notes = right.notes

namespace Judgement

/-- The output of a solver is judged without its time. -/
theorem sameFindings_ofOutput (strict : Bool) (problem : Case) {left right : Capture}
    (stdout : left.stdout = right.stdout) (diagnostic : Option Diagnostic)
    (time time' : Option Duration) :
    SameFindings (ofOutput strict problem left diagnostic time)
      (ofOutput strict problem right diagnostic time') := by
  rw [ofOutput, ofOutput, stdout]
  rcases Claim.read problem.sizes right.stdout with error | answer | _
  · cases diagnostic <;> constructor <;> rfl
  · constructor <;> rfl
  · constructor <;> rfl

/-- A failed exit is judged without its time. -/
theorem sameFindings_ofFailure (problem : Case) {left right : Capture}
    (status : left.status = right.status) (excerpt : left.excerpt = right.excerpt)
    (diagnostic : Option Diagnostic) (time time' : Option Duration) :
    SameFindings (ofFailure problem left diagnostic time)
      (ofFailure problem right diagnostic time') := by
  simp only [ofFailure, status, excerpt]
  cases diagnostic <;> constructor <;> rfl

/-- Runs that printed the same and exited alike are judged alike, however long they took. -/
theorem sameFindings_ofCapture (strict : Bool) (input : Except InputError Case)
    {left right : Capture} (stdout : left.stdout = right.stdout)
    (stderr : left.stderr = right.stderr) (status : left.status = right.status) :
    SameFindings (ofCapture strict input left) (ofCapture strict input right) := by
  have excerpt : left.excerpt = right.excerpt := by
    rw [Capture.excerpt, Capture.excerpt, stdout, stderr]
  simp only [ofCapture, stdout, stderr, status]
  cases input with
  | error error =>
    constructor
    · simp only [judgeMalformed, excerpt]
    all_goals rfl
  | ok problem =>
    dsimp only
    split
    · exact sameFindings_ofOutput strict problem stdout _ _ _
    · exact sameFindings_ofFailure problem status excerpt _ _ _

end Judgement

/-- Where the input of a job can come from: a text, or a case that was generated. -/
inductive JobInput.Origin : JobInput → Prop
  /-- It was read from a text. -/
  | read (text : String) : Origin (.parse text)
  /-- It is that of a job for a generated case. -/
  | generated (generated : GeneratedCase) (algorithm : Algorithm)
    (sized : generated.problem.WordSized) : Origin (Job.ofGenerated generated algorithm).input

/-- A well-formed input with 64-bit vertex counts is read back from the text that is sent. -/
theorem JobInput.parse_text_wellFormed {problem : Case} (sized : problem.WordSized) :
    JobInput.parse (JobInput.wellFormed problem).text = .wellFormed problem := by
  rw [JobInput.text, JobInput.parse, Case.parse, Case.render, String.toList_ofList,
    Case.read_write sized]

/-- The input of a job is read back from the text that is sent. -/
theorem JobInput.Origin.parse_text {input : JobInput} (origin : input.Origin) :
    JobInput.parse input.text = input := by
  cases origin with
  | read text =>
    cases held : Case.parse text with
    | ok problem =>
      have sized := (Case.read_eq_ok_iff.mp held).wordSized
      have input : JobInput.parse text = .wellFormed problem := by rw [JobInput.parse, held]
      rw [input, parse_text_wellFormed sized]
    | error error =>
      have input : JobInput.parse text = .malformed text error := by rw [JobInput.parse, held]
      rw [input, JobInput.text, input]
  | generated generated algorithm sized => exact parse_text_wellFormed sized

/-- An input that is read back from its text holds the case, or the error, of that text. -/
theorem JobInput.problem_parse (text : String) :
    (JobInput.parse text).problem = Case.parse text := by
  rw [JobInput.parse]
  cases Case.parse text <;> rfl

namespace CheckRequest

/-- The files that a request names hold the text that was sent and what was captured of a run, and
the request names the exit status and how the order of copies is judged. A request without a file
for the error stream stands for one on which nothing was printed. -/
structure Replays (request : CheckRequest) (files : FileTree) (strict : Bool) (sent : String)
    (capture : Capture) : Prop where
  /-- The input file holds the text that was sent. -/
  input : files.readText request.input = .ok sent
  /-- The output file holds what was printed. -/
  stdout : files.readText request.stdout = .ok (.ofList capture.stdout)
  /-- The file of the error stream, if there is one, holds what was printed on it. -/
  stderr : match request.stderr with
    | some path => files.readText path = .ok (.ofList capture.stderr)
    | none => capture.stderr = []
  /-- The exit status is that of the run. -/
  status : capture.status = some request.status
  /-- The order of copies is judged alike. -/
  order : request.strictOrder = strict

/-- Reading a named file gives its text and changes nothing. -/
theorem gives_readNamed {files : FileTree} {path text : String}
    (held : files.readText path = .ok text) :
    (RequestAction.readNamed path).Gives files text files :=
  FileAction.gives_inspect_iff.mpr ⟨held, rfl⟩

/-- Checking gives the judgement on what the named files hold, with no time measured, and changes
no file. -/
theorem Replays.gives_run {request : CheckRequest} {files : FileTree} {strict : Bool}
    {sent : String} {capture : Capture} (replays : request.Replays files strict sent capture) :
    request.run.Gives files
      (.checked request.input (Judgement.ofRun strict (Case.parse sent)
        (.completed { capture with elapsed := .zero }))) files := by
  have printed : (request.stderr.mapM RequestAction.readNamed).Gives files
      (request.stderr.map fun _ => .ofList capture.stderr) files := by
    have held := replays.stderr
    cases named : request.stderr with
    | none => exact FileAction.gives_pure_iff.mpr ⟨rfl, rfl⟩
    | some path =>
      rw [named] at held
      exact FileAction.gives_bind_iff.mpr ⟨.ofList capture.stderr, files, gives_readNamed held,
        FileAction.gives_pure_iff.mpr ⟨rfl, rfl⟩⟩
  have error : ((request.stderr.map fun _ => String.ofList capture.stderr).getD "").toList =
      capture.stderr := by
    have held := replays.stderr
    cases named : request.stderr with
    | none =>
      rw [named] at held
      rw [held]
      rfl
    | some path => exact String.toList_ofList
  have judged : (⟨(String.ofList capture.stdout).toList,
      ((request.stderr.map fun _ => String.ofList capture.stderr).getD "").toList,
      some request.status, .zero⟩ : Capture) = { capture with elapsed := .zero } := by
    rw [error, String.toList_ofList, replays.status]
  rw [run, ← judged, ← replays.order]
  refine FileAction.gives_bind_iff.mpr ⟨sent, files, gives_readNamed replays.input, ?_⟩
  refine FileAction.gives_bind_iff.mpr ⟨_, files, gives_readNamed replays.stdout, ?_⟩
  refine FileAction.gives_bind_iff.mpr ⟨_, files, printed, ?_⟩
  exact FileAction.gives_pure_iff.mpr ⟨rfl, rfl⟩

end CheckRequest

/-- The text that a job sends is read as its input, and checking it against what was captured of a
run finds what the batch found, however long the run took: the record of the batch is that of the
check but for the time. -/
theorem Job.replay_agrees {job : Job} (origin : job.input.Origin) :
    JobInput.parse job.input.text = job.input ∧
    ∀ (settings : BatchSettings) (capture : Capture) (request : CheckRequest) (files : FileTree),
      request.Replays files settings.strictOrder job.input.text capture →
      ∃ replayed : Judgement,
        request.run.Gives files (.checked request.input replayed) files ∧
        replayed.SameFindings
          (Judgement.ofRun settings.strictOrder job.input.problem (.completed capture)) ∧
        { (settings.judge job (.completed capture)).record with time := replayed.time } =
          Record.ofJudgement job replayed := by
  have back := origin.parse_text
  have problem : Case.parse job.input.text = job.input.problem := by
    rw [← JobInput.problem_parse, back]
  refine ⟨back, fun settings capture request files replays => ?_⟩
  have found : Judgement.SameFindings
      (Judgement.ofRun settings.strictOrder job.input.problem
        (.completed { capture with elapsed := .zero }))
      (Judgement.ofRun settings.strictOrder job.input.problem (.completed capture)) :=
    Judgement.sameFindings_ofCapture _ _ rfl rfl rfl
  refine ⟨_, replays.gives_run, problem ▸ found, ?_⟩
  rw [problem]
  simp only [BatchSettings.judge, Record.ofJudgement, found.verdict, found.cost, found.notes]

/-- A loose text is sent in its one written form, and a run on it that printed the same on both
streams is judged again from two files. -/
theorem Job.replay_agrees_loose :
    let files : FileTree := { entries := [(["in"], .file "1\n0\n1\n0\n1\n".toUTF8),
      (["out"], .file "1\n0\n7\n".toUTF8)] }
    let input : JobInput := .parse " 1\n\n0\n1\n+0\n"
    let request : CheckRequest := { input := "in", stdout := "out", stderr := some "out" }
    let capture : Capture := ⟨"1\n0\n7\n".toList, "1\n0\n7\n".toList, some 0, ⟨5⟩⟩
    input.Origin ∧ request.Replays files false input.text capture ∧
    JobInput.parse "1\n0\n1\n0\n1\n" = input ∧
    ∃ replayed : Judgement, request.run.Gives files (.checked "in" replayed) files ∧
      replayed.SameFindings (Judgement.ofRun false input.problem (.completed capture)) := by
  intro files input request capture
  have origin : input.Origin := .read _
  have sent : input.text = "1\n0\n1\n0\n1\n" := by decide +kernel
  have readable : files.readText "in" = .ok "1\n0\n1\n0\n1\n" := by cbv
  have printed : files.readText "out" = .ok "1\n0\n7\n" := by cbv
  have replays : request.Replays files false input.text capture :=
    ⟨sent ▸ readable, printed, printed, rfl, rfl⟩
  obtain ⟨back, agrees⟩ := @Job.replay_agrees ⟨"loose", "corpus", none, .exact, input⟩ origin
  obtain ⟨replayed, given, found, _⟩ := agrees {} capture request files replays
  exact ⟨origin, replays, sent ▸ back, replayed, given, found⟩

end CopyOracle
