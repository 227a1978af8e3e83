import CopyOracle.Proofs.Batch.Progress
import CopyOracle.Proofs.Tally.Records
/-!
# What the report of a batch says

The report of a progress in which each result is the judgement on its run lists the runs that
ended, in job order, with their counts and the places of the inputs that failed.
-/

namespace CopyOracle

/-- The judgement on the run of a job at a place, under an assignment of outcomes to places. -/
def BatchSettings.judgement (settings : BatchSettings) (outcome : Nat → RunOutcome)
    (entry : Job × Nat) : Judgement :=
  Judgement.ofRun settings.strictOrder entry.1.input.problem (outcome entry.2)

/-- Whether the run of a job at a place fails. -/
def BatchSettings.fails (settings : BatchSettings) (outcome : Nat → RunOutcome)
    (entry : Job × Nat) : Bool :=
  !(settings.judgement outcome entry).verdict.isPass

/-- Values of the entries that are kept, in one pass. -/
theorem filterMap_ite {α β : Type} (kept : α → Bool) (value : α → β) (entries : List α) :
    entries.filterMap (fun entry => if kept entry then some (value entry) else none) =
      (entries.filter kept).map value := by
  induction entries with
  | nil => rfl
  | cons entry entries ih => cases held : kept entry <;> simp [held, ih]

namespace Progress

/-- The jobs whose runs ended with their places, in job order. -/
def ranJobs (jobs : List Job) (events : List BatchEvent) : List (Job × Nat) :=
  jobs.zipIdx.filter fun entry => entry.2 ∈ endedJobs events

variable {settings : BatchSettings} {jobs : List Job} {outcome : Nat → RunOutcome}
  {events : List BatchEvent} {progress : Progress}

/-- The results in job order. -/
theorem Traced.map_result? (traced : Traced settings jobs outcome events progress) :
    progress.phases.map JobPhase.result? = jobs.zipIdx.map fun entry =>
      if entry.2 ∈ endedJobs events then some (settings.judge entry.1 (outcome entry.2))
      else none := by
  refine List.ext_getElem? fun index => ?_
  rw [List.getElem?_map, traced index, List.getElem?_map, List.getElem?_zipIdx, Option.map_map,
    Nat.zero_add]
  rfl

/-- The results that there are. -/
theorem Traced.filterMap_result? (traced : Traced settings jobs outcome events progress) :
    (progress.phases.map JobPhase.result?).filterMap id =
      (ranJobs jobs events).map fun entry => settings.judge entry.1 (outcome entry.2) := by
  rw [traced.map_result?, ranJobs, List.filterMap_map, ← filterMap_ite]
  refine List.filterMap_congr fun entry _ => ?_
  rw [Function.comp_apply, id_eq]
  simp only [decide_eq_true_eq]

/-- The records are those of the runs that ended. -/
theorem Traced.records_report (traced : Traced settings jobs outcome events progress) :
    progress.report.records = (ranJobs jobs events).map fun entry =>
      Record.ofJudgement entry.1 (settings.judgement outcome entry) := by
  simp only [report, BatchReport.ofResults, traced.filterMap_result?, List.map_map]
  rfl

/-- The inputs that are kept are those of the records that did not pass. -/
theorem Traced.archived_report (traced : Traced settings jobs outcome events progress) :
    progress.report.archived = match settings.archive with
      | some directory => (progress.report.records.filter fun record => !record.passed).map
          fun record => Path.join directory
            (Job.archiveName record.source record.test record.seed record.algorithm)
      | none => [] := by
  have archived : progress.report.archived = (ranJobs jobs events).filterMap fun entry =>
      (settings.judge entry.1 (outcome entry.2)).archived := by
    simp only [report, BatchReport.ofResults, traced.filterMap_result?, List.filterMap_map]
    rfl
  rw [archived, traced.records_report]
  cases kept : settings.archive with
  | none => simp [BatchSettings.judge, kept]
  | some directory =>
    simp only [List.filter_map, List.map_map]
    rw [← filterMap_ite]
    refine List.filterMap_congr fun entry _ => ?_
    have same : (settings.judge entry.1 (outcome entry.2)).archived =
        if (Record.ofJudgement entry.1 (settings.judgement outcome entry)).passed then none
        else some (Path.join directory entry.1.archiveFile) := by
      rw [BatchSettings.judge, kept]
      rfl
    rw [same, Function.comp_apply]
    cases (Record.ofJudgement entry.1 (settings.judgement outcome entry)).passed <;> rfl

/-- The failed records are the failed phases. -/
theorem countP_records_report (progress : Progress) :
    progress.report.records.countP (fun record => !record.passed) =
      progress.phases.countP hasFailed := by
  simp only [report, BatchReport.ofResults, List.countP_map, List.countP_filterMap]
  refine List.countP_congr fun phase _ => ?_
  rw [Function.comp_apply, id_eq, hasFailed]
  cases phase.result? <;> rfl

/-- The counter of failures counts the runs that ended and failed. -/
theorem Traced.failures_eq (traced : Traced settings jobs outcome events progress)
    (counted : Counted settings progress) :
    progress.failures = (ranJobs jobs events).countP (settings.fails outcome) := by
  rw [counted.failures, ← countP_records_report, traced.records_report, List.countP_map]
  rfl

/-- Every job has a record or is counted as skipped. -/
theorem Traced.length_records (traced : Traced settings jobs outcome events progress) :
    progress.report.records.length + progress.report.skipped = jobs.length := by
  have count := congrArg List.length traced.map_result?
  rw [List.length_map, List.length_map, List.length_zipIdx] at count
  have split := List.length_eq_countP_add_countP Option.isSome
    (l := progress.phases.map JobPhase.result?)
  have other : (progress.phases.map JobPhase.result?).countP Option.isNone =
      (progress.phases.map JobPhase.result?).countP fun result => decide ¬result.isSome = true :=
    List.countP_congr fun result _ => by cases result <;> simp
  rw [List.length_map, count, ← other] at split
  simp only [report, BatchReport.ofResults, List.length_map, List.length_filterMap_eq_countP, split]
  rfl

/-- No job is skipped exactly when the run of every job has ended. -/
theorem Traced.skipped_eq_zero_iff (traced : Traced settings jobs outcome events progress) :
    progress.report.skipped = 0 ↔ ∀ entry ∈ jobs.zipIdx, entry ∈ ranJobs jobs events := by
  have count := traced.length_records
  have all := List.length_filter_eq_length_iff (l := jobs.zipIdx)
    (p := fun entry => decide (entry.2 ∈ endedJobs events))
  rw [traced.records_report, List.length_map, ranJobs] at count
  rw [List.length_zipIdx] at all
  have same : (∀ entry ∈ jobs.zipIdx, entry ∈ ranJobs jobs events) ↔
      ∀ entry ∈ jobs.zipIdx, decide (entry.2 ∈ endedJobs events) = true :=
    forall₂_congr fun entry member => by rw [ranJobs, List.mem_filter]; simp [member]
  rw [same, ← all]
  omega

/-- In a complete batch a job is skipped only when the batch has stopped. -/
theorem Counted.stopped_of_skipped (counted : Counted settings progress)
    (complete : progress.isComplete = true) (skipped : 0 < progress.report.skipped) :
    progress.stopped = true := by
  obtain ⟨result, listed, none⟩ := List.countP_pos_iff.mp skipped
  obtain ⟨phase, member, rfl⟩ := List.mem_map.mp listed
  refine counted.skipped ?_
  have settled := List.all_eq_true.mp complete phase member
  cases phase with
  | skipped => exact member
  | finished | failing => contradiction
  | waiting | running => contradiction

/-- A report is clean exactly when every job ran and passed. -/
theorem Traced.isClean_iff (traced : Traced settings jobs outcome events progress) :
    progress.report.isClean = true ↔ ∀ entry ∈ jobs.zipIdx,
      entry ∈ ranJobs jobs events ∧ (settings.judgement outcome entry).verdict.isPass = true := by
  have passed : progress.report.tally.allPassed = true ↔
      ∀ entry ∈ ranJobs jobs events, (settings.judgement outcome entry).verdict.isPass = true := by
    have tally : progress.report.tally = BatchReport.tallyOf progress.report.records := rfl
    rw [Tally.allPassed, decide_eq_true_eq, tally, BatchReport.failed_tallyOf,
      traced.records_report, List.countP_map, List.countP_eq_zero]
    simp [Record.passed, Record.ofJudgement]
  rw [BatchReport.isClean, Bool.and_eq_true, decide_eq_true_eq, traced.skipped_eq_zero_iff, passed]
  constructor
  · rintro ⟨ran, passes⟩ entry member
    exact ⟨ran entry member, passes entry (ran entry member)⟩
  · intro clean
    refine ⟨fun entry member => (clean entry member).1, fun entry member => ?_⟩
    exact (clean entry (List.mem_of_mem_filter member)).2

end Progress

end CopyOracle
