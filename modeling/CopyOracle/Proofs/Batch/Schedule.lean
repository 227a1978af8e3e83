import CopyOracle.Proofs.Batch.Order
/-!
# Every schedule is accounted for

However the workers interleave, the report of a complete batch accounts for its schedule: it lists
exactly the jobs whose runs ended, counts them, and names what was kept of the failed ones; a limit
of failures is exceeded by fewer jobs than there are workers; and one worker that takes the jobs in
order runs the shortest front of them in which the limit is reached.
-/

namespace CopyOracle

/-- The report accounts for a schedule of the jobs under an assignment of outcomes. -/
structure BatchReport.Accounts (report : BatchReport) (settings : BatchSettings)
    (jobs : List Job) (outcome : Nat → RunOutcome) (events : List BatchEvent) : Prop where
  /-- Every job has a record or is counted as skipped. -/
  total : report.records.length + report.skipped = jobs.length
  /-- The records are those of the jobs that ran, in job order. -/
  records : report.records = (Progress.ranJobs jobs events).map fun entry =>
    Record.ofJudgement entry.1 (settings.judgement outcome entry)
  /-- The tally records the verdicts of exactly these jobs. -/
  tally : report.tally = (Progress.ranJobs jobs events).foldl (fun tally entry =>
    tally.record entry.1.source entry.1.algorithm (settings.judgement outcome entry).verdict
      (settings.judgement outcome entry).time) {}
  /-- The tally counts the records that did not pass as failed. -/
  failed : report.tally.overall.failed = report.records.countP fun record => !record.passed
  /-- Each record that did not pass has a place in the archive, if there is one, in job order. -/
  archived : report.archived = match settings.archive with
    | some directory => (report.records.filter fun record => !record.passed).map fun record =>
        Path.join directory
          (Job.archiveName record.source record.test record.seed record.algorithm)
    | none => []
  /-- The report is clean exactly when every job ran and passed. -/
  clean : report.isClean = true ↔ ∀ entry ∈ jobs.zipIdx,
    entry ∈ Progress.ranJobs jobs events ∧
      (settings.judgement outcome entry).verdict.isPass = true
  /-- A job is skipped only when as many failed as the limit says. -/
  reached : 0 < report.skipped → ∃ limit, settings.maxFailures = some limit ∧
    limit ≤ report.records.countP fun record => !record.passed
  /-- Of the workers all but one may let a job fail beyond the limit. -/
  bounded : ∀ limit, settings.maxFailures = some limit →
    (report.records.countP fun record => !record.passed) ≤ limit + settings.workers - 1
  /-- One worker that takes the jobs in order runs the shortest front of them that reaches the
  limit. -/
  ordered : ∀ limit, settings.maxFailures = some limit → settings.workers = 1 →
    Progress.takenJobs events = List.range jobs.length →
    ∃ count, settings.ShortestPrefix jobs outcome limit count ∧
      Progress.ranJobs jobs events = jobs.zipIdx.take count

namespace Progress

variable {settings : BatchSettings} {jobs : List Job} {outcome : Nat → RunOutcome}
  {events : List BatchEvent} {progress : Progress}

/-- After a schedule each result is the judgement on the run of its job. -/
theorem traced_of_run? (ran : (start jobs).run? settings jobs events = some progress)
    (assigned : Assigned outcome events) : Traced settings jobs outcome events progress := by
  refine run?_invariant (Traced settings jobs outcome) ran (traced_start settings jobs outcome)
    fun split traced step => ?_
  refine traced.step (fun job ended same => assigned job ended ?_) step
  rw [split, same]
  exact List.mem_append_right _ List.mem_cons_self

/-- What has a result depends on the outcomes of the runs that have ended only. -/
theorem Traced.congr {past : List BatchEvent} (traced : Traced settings jobs outcome past progress)
    {other : Nat → RunOutcome} (same : ∀ job ∈ endedJobs past, other job = outcome job) :
    Traced settings jobs other past progress := by
  intro index
  rw [traced index]
  refine Option.map_congr fun job _ => ?_
  split
  · next ended => rw [same index ended]
  · rfl

/-- A run that ends has not ended before. -/
theorem Traced.not_mem_endedJobs {past : List BatchEvent} {job : Nat} {ended : RunOutcome}
    {next : Progress} (traced : Traced settings jobs outcome past progress)
    (step : Step settings jobs progress (.finish job ended) next) : job ∉ endedJobs past := by
  have open' {taken : Job} (listed : jobs[job]? = some taken)
      (running : progress.phases[job]? = some .running) : job ∉ endedJobs past :=
    (traced.mem_endedJobs_iff listed running).not.mpr Bool.false_ne_true
  cases step with
  | pass running listed _ => exact open' listed running
  | fail running listed _ => exact open' listed running

/-- No run ends twice, so each schedule has an assignment of outcomes. -/
theorem exists_assigned_of_run?
    (ran : (start jobs).run? settings jobs events = some progress) :
    ∃ outcome, Assigned outcome events := by
  have both := run?_invariant (fun past progress => ∃ outcome, Assigned outcome past ∧
      Traced settings jobs outcome past progress) ran
    ⟨fun _ => .timedOut .zero, by simp [Assigned], traced_start settings jobs _⟩ ?_
  · obtain ⟨outcome, assigned, _⟩ := both
    exact ⟨outcome, assigned⟩
  rintro past later event progress next - ⟨outcome, assigned, traced⟩ step
  -- The outcome of a run that ends now is free, since the run has not ended before.
  have new : ∃ other : Nat → RunOutcome, (∀ job ∈ endedJobs past, other job = outcome job) ∧
      Assigned other [event] := by
    cases event with
    | take | compare => exact ⟨outcome, fun _ _ => rfl, by simp [Assigned]⟩
    | finish job ended =>
      refine ⟨Function.update outcome job ended, fun index earlier => ?_, ?_⟩
      · refine Function.update_of_ne ?_ _ _
        rintro rfl
        exact traced.not_mem_endedJobs step earlier
      · intro index now member
        obtain ⟨rfl, rfl⟩ := BatchEvent.finish.inj (List.mem_singleton.mp member)
        exact (Function.update_self index now outcome).symm
  obtain ⟨other, same, now⟩ := new
  have before : Assigned other past := fun job ended member =>
    (assigned job ended member).trans (same job (List.mem_filterMap.mpr ⟨_, member, rfl⟩)).symm
  refine ⟨other, before.append now, (traced.congr same).step (fun job ended event => ?_) step⟩
  exact now job ended (List.mem_singleton.mpr event.symm)

/-- After a schedule the failures are counted. -/
theorem counted_of_run? (ran : (start jobs).run? settings jobs events = some progress) :
    Counted settings progress :=
  run?_invariant (fun _ => Counted settings) ran (counted_start settings jobs)
    fun _ counted step => counted.step step

/-- After a schedule the failures are within their bound. -/
theorem bounded_of_run? (ran : (start jobs).run? settings jobs events = some progress) {limit : Nat}
    (limited : settings.maxFailures = some limit) (positive : 0 < limit) :
    Bounded limit settings.workers progress :=
  run?_invariant (fun _ => Bounded limit settings.workers) ran
    (bounded_start positive jobs) fun _ bounded step => bounded.step limited step

/-- After a schedule of one worker that takes the jobs in order, the skipped jobs are in line with
the limit. -/
theorem sequential_of_run? (ran : (start jobs).run? settings jobs events = some progress)
    (assigned : Assigned outcome events) {limit : Nat}
    (limited : settings.maxFailures = some limit) (positive : 0 < limit)
    (single : settings.workers = 1) (order : takenJobs events = List.range jobs.length) :
    Sequential settings jobs outcome limit events progress := by
  -- What a step keeps of the order needs the other facts at the same point of the schedule.
  have all := run?_invariant (fun past progress =>
    Traced settings jobs outcome past progress ∧ Counted settings progress ∧
      Bounded limit settings.workers progress ∧
      Sequential settings jobs outcome limit past progress)
    ran ⟨traced_start settings jobs outcome, counted_start settings jobs,
      bounded_start positive jobs, sequential_start settings jobs outcome limit⟩
    fun split ⟨traced, counted, bounded, sequential⟩ step =>
      ⟨traced.step (fun job ended same => assigned job ended (by simp [split, same])) step,
        counted.step step, bounded.step limited step,
        sequential.step limited single order split traced counted bounded step⟩
  exact all.2.2.2

/-- The limit of usable settings is not zero, and there is a worker. -/
theorem positive_of_fault? (usable : settings.fault? = none) : 0 < settings.workers ∧
    ∀ limit, settings.maxFailures = some limit → 0 < limit := by
  rw [BatchSettings.fault?] at usable
  split at usable
  · contradiction
  · next workers =>
    split at usable
    · contradiction
    · next limits =>
      refine ⟨Nat.pos_of_ne_zero workers, fun limit limited => Nat.pos_of_ne_zero ?_⟩
      rintro rfl
      exact limits limited

/-- The report of a complete batch accounts for its schedule, whatever the outcomes of the runs and
however the workers interleave. -/
theorem report_accounts (usable : settings.fault? = none)
    (ran : (start jobs).run? settings jobs events = some progress)
    (assigned : Assigned outcome events) (complete : progress.isComplete = true) :
    progress.report.Accounts settings jobs outcome events := by
  obtain ⟨workers, positive⟩ := positive_of_fault? usable
  have traced := traced_of_run? ran assigned
  have counted := counted_of_run? ran
  have failures := counted.failures.trans (countP_records_report progress).symm
  exact {
    total := traced.length_records
    records := traced.records_report
    tally := by
      have tally : progress.report.tally = BatchReport.tallyOf progress.report.records := rfl
      rw [tally, BatchReport.tallyOf, traced.records_report, List.foldl_map]
      rfl
    failed := BatchReport.failed_tallyOf _
    archived := traced.archived_report
    clean := traced.isClean_iff
    reached := fun skipped => by
      have stops := counted.stopped (counted.stopped_of_skipped complete skipped)
      rw [BatchSettings.stopsAfter] at stops
      cases limited : settings.maxFailures with
      | none => simp [limited] at stops
      | some limit =>
        rw [limited, decide_eq_true_eq, failures] at stops
        exact ⟨limit, rfl, stops⟩
    bounded := fun limit limited => by
      have capacity := (bounded_of_run? ran limited (positive limit limited)).capacity
      rw [failures] at capacity
      omega
    ordered := fun limit limited single order =>
      (sequential_of_run? ran assigned limited (positive limit limited) single order).ranJobs_eq
        order traced complete }

/-- Two workers on four bad inputs under a limit of one failure: the first is rejected as it should
be, the next two fail before the limit is noticed, and the last is skipped. -/
theorem report_accounts_overtaking :
    let settings : BatchSettings :=
      { workers := 2, maxFailures := some 1, archive := some "kept" }
    let jobs : List Job := ["a", "b", "c", "d"].map fun name =>
      ⟨name, "corpus", none, .exact, .malformed "" .empty⟩
    let rejected : RunOutcome := .completed ⟨[], "ERROR: Invalid".toList, some 1, ⟨5⟩⟩
    let late : RunOutcome := .timedOut ⟨7⟩
    let outcome : Nat → RunOutcome := fun job => if job = 0 then rejected else late
    let events : List BatchEvent := [.take 0, .take 1, .finish 0 rejected, .take 2,
      .finish 2 late, .finish 1 late, .compare 1, .take 3, .compare 2]
    ∃ progress : Progress, settings.fault? = none ∧
      (start jobs).run? settings jobs events = some progress ∧ Assigned outcome events ∧
      progress.isComplete = true ∧ progress.report.Accounts settings jobs outcome events ∧
      progress.report.skipped = 1 ∧ progress.report.archived =
        ["kept/fail_corpus_b_exact.txt", "kept/fail_corpus_c_exact.txt"] := by
  intro settings jobs rejected late outcome events
  have usable : settings.fault? = none := by decide
  have runs : ((start jobs).run? settings jobs events).isSome = true := by decide +kernel
  have ends : ((start jobs).run? settings jobs events).all (fun progress =>
      progress.isComplete && progress.report.skipped = 1 && progress.report.archived =
        ["kept/fail_corpus_b_exact.txt", "kept/fail_corpus_c_exact.txt"]) = true := by
    decide +kernel
  have assigned : Assigned outcome events := by
    intro job ended member
    simp only [events, List.mem_cons, BatchEvent.finish.injEq, List.not_mem_nil, or_false,
      reduceCtorEq, false_or] at member
    rcases member with ⟨rfl, rfl⟩ | ⟨rfl, rfl⟩ | ⟨rfl, rfl⟩ <;> rfl
  obtain ⟨progress, ran⟩ := Option.isSome_iff_exists.mp runs
  rw [ran, Option.all_some, Bool.and_eq_true, Bool.and_eq_true, decide_eq_true_eq,
    decide_eq_true_eq] at ends
  obtain ⟨⟨complete, skipped⟩, archived⟩ := ends
  exact ⟨progress, usable, ran, assigned, complete,
    report_accounts usable ran assigned complete, skipped, archived⟩

end Progress

end CopyOracle
