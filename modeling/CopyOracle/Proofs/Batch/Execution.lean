import CopyOracle.Batch.Execution
import CopyOracle.Proofs.Batch.Schedule
import CopyOracle.Proofs.File.Action
/-!
# The run of a batch is a schedule

Running the jobs one after the other is a schedule of one worker that takes them in order, as long
as nothing goes wrong with the files. So what holds of all schedules holds of the run: its report
accounts for the schedule, and the jobs that ran are the shortest front of the jobs in which the
limit of failures is reached.
-/

namespace CopyOracle

/-- The settings with one worker. -/
def BatchSettings.single (settings : BatchSettings) : BatchSettings :=
  { settings with workers := 1 }

namespace Progress

variable {settings : BatchSettings} {jobs : List Job} {events : List BatchEvent}

/-- What one worker can do, any workers can. -/
theorem Step.of_single (workers : 0 < settings.workers) {progress next : Progress}
    {event : BatchEvent} (step : Step settings.single jobs progress event next) :
    Step settings jobs progress event next := by
  have more (free : progress.busy < 1) : progress.busy < settings.workers :=
    Nat.lt_of_lt_of_le free workers
  cases step with
  | skip waiting free stopped => exact .skip waiting (more free) stopped
  | start waiting free going => exact .start waiting (more free) going
  | pass running listed passed => exact .pass running listed passed
  | fail running listed failed => exact .fail running listed failed
  | compare failing => exact .compare failing

end Progress

namespace Batch

open Progress (takenJobs Step)

variable {launcher : Launcher} {batch : Batch} {jobs : List Job} {count : Nat}
  {events : List BatchEvent} {progress next : Progress}

/-- One worker has settled so many jobs from the front, and has not taken the others. -/
structure Served (settings : BatchSettings) (jobs : List Job) (count : Nat)
    (events : List BatchEvent) (progress : Progress) : Prop where
  /-- The events are a schedule. -/
  ran : (Progress.start jobs).run? settings.single jobs events = some progress
  /-- The jobs were taken in order. -/
  order : takenJobs events = List.range count
  /-- There are so many jobs. -/
  within : count ≤ jobs.length
  /-- The jobs from the front are settled. -/
  settled : ∀ index < count, ∀ phase, progress.phases[index]? = some phase →
    phase.isSettled = true
  /-- The others wait. -/
  waiting : ∀ index, count ≤ index → index < jobs.length →
    progress.phases[index]? = some .waiting

/-- Before a batch no job is settled. -/
theorem served_start (settings : BatchSettings) (jobs : List Job) :
    Served settings jobs 0 [] (.start jobs) where
  ran := rfl
  order := rfl
  within := Nat.zero_le _
  settled := fun index inside => absurd inside (Nat.not_lt_zero index)
  waiting := fun index _ inside => by simp [Progress.start, inside]

/-- Between two jobs the worker is free. -/
theorem Served.busy (served : Served batch.settings jobs count events progress) :
    progress.busy = 0 := by
  refine List.countP_eq_zero.mpr fun phase member => ?_
  obtain ⟨index, here⟩ := List.mem_iff_getElem?.mp member
  have inside := (List.getElem?_eq_some_iff.mp here).1
  rw [Progress.length_phases_of_run? served.ran] at inside
  rcases Nat.lt_or_ge index count with before | later
  · have settled := served.settled index before phase here
    cases phase with
    | finished | skipped => exact Bool.false_ne_true
    | waiting | running | failing => contradiction
  · have waiting := served.waiting index later inside
    obtain rfl := Option.some.inj (here.symm.trans waiting)
    exact Bool.false_ne_true

/-- The worker has settled one more job when it has taken the next one and settled it. -/
theorem Served.extend (served : Served batch.settings jobs count events progress)
    (inside : count < jobs.length) {later : List BatchEvent}
    (ran : progress.run? batch.settings.single jobs later = some next)
    (taken : takenJobs later = [count]) {phase : JobPhase}
    (moved : next.phases = progress.phases.set count phase) (settled : phase.isSettled = true) :
    Served batch.settings jobs (count + 1) (events ++ later) next where
  ran := by rw [Progress.run?_append, served.ran, Option.bind_some, ran]
  order := by
    rw [takenJobs, List.filterMap_append, List.range_succ]
    exact congrArg₂ (· ++ ·) served.order taken
  within := inside
  settled := fun index before now here => by
    rw [moved, List.getElem?_set] at here
    split at here
    · obtain ⟨_, same⟩ := Option.ite_none_right_eq_some.mp here
      exact Option.some.inj same ▸ settled
    · exact served.settled index (by omega) now here
  waiting := fun index after inside => by
    rw [moved, List.getElem?_set_ne (by omega)]
    exact served.waiting index (by omega) inside

/-- An event that can happen happens. -/
theorem advance_eq_of_step (workers : 0 < batch.settings.workers) {event : BatchEvent}
    (step : Step batch.settings.single jobs progress event next) :
    batch.advance jobs event progress = next := by
  rw [advance, Progress.advance?_eq_some_iff.mpr (step.of_single workers), Option.getD_some]

/-- A running job is finished by the end of its run, and by the comparison if it fails. -/
theorem exists_finished (workers : 0 < batch.settings.workers) {job : Job}
    (running : progress.phases[count]? = some .running) (listed : jobs[count]? = some job)
    {outcome : RunOutcome}
    (ended : next = batch.advance jobs (.compare count)
      (batch.advance jobs (.finish count outcome) progress)) :
    ∃ later, progress.run? batch.settings.single jobs later = some next ∧ takenJobs later = [] ∧
      next.phases = progress.phases.set count (.finished (batch.settings.judge job outcome)) := by
  cases passed : (batch.settings.judge job outcome).record.passed with
  | true =>
    let finished := progress.move count (.finished (batch.settings.judge job outcome))
    have pass : Step batch.settings.single jobs progress (.finish count outcome) finished :=
      .pass running listed passed
    have settled : finished.phases[count]? = some (.finished _) :=
      Progress.phases_move_self running _
    rw [advance_eq_of_step workers pass, advance, Progress.advance?, settled] at ended
    exact ⟨[.finish count outcome], ended ▸ Progress.run?_cons pass [], rfl, ended ▸ rfl⟩
  | false =>
    let counted := { progress.move count
      (.failing (progress.failures + 1) (batch.settings.judge job outcome)) with
        failures := progress.failures + 1 }
    have fail : Step batch.settings.single jobs progress (.finish count outcome) counted :=
      .fail running listed passed
    have compare : Step batch.settings.single jobs counted (.compare count) _ :=
      .compare (Progress.phases_move_self running _)
    rw [advance_eq_of_step workers fail, advance_eq_of_step workers compare] at ended
    refine ⟨[.finish count outcome, .compare count], ?_, rfl, ended ▸ List.set_set ..⟩
    rw [Progress.run?_cons fail, ended]
    exact Progress.run?_cons compare []

/-- What is done with a waiting job: nothing while no worker is free, it is skipped when the batch
has stopped, and else it is run and its input is kept if the run failed. -/
theorem runJob_cases {job : Job} (waiting : progress.phases[count]? = some .waiting)
    {before after : FileTree}
    (given : (batch.runJob launcher jobs progress job count).Gives before next after) :
    (¬progress.busy < batch.settings.workers ∧ next = progress ∧ before = after) ∨
    (progress.stopped = true ∧ next = progress.move count .skipped ∧ before = after) ∨
    (progress.stopped = false ∧ ∃ outcome between,
      (batch.launch launcher count job).Gives before outcome between ∧
      (batch.archive job outcome).Gives between () after ∧
      next = batch.advance jobs (.compare count)
        (batch.advance jobs (.finish count outcome) (progress.move count .running))) := by
  by_cases free : progress.busy < batch.settings.workers
  · right
    cases stopped : progress.stopped with
    | true =>
      have taken : batch.advance jobs (.take count) progress = progress.move count .skipped := by
        simp [advance, Progress.advance?, waiting, free, stopped]
      have phase := Progress.phases_move_self waiting .skipped
      simp only [Batch.runJob, taken, phase] at given
      obtain ⟨rfl, rfl⟩ := FileAction.gives_pure_iff.mp given
      exact .inl ⟨rfl, rfl, rfl⟩
    | false =>
      have taken : batch.advance jobs (.take count) progress = progress.move count .running := by
        simp [advance, Progress.advance?, waiting, free, stopped]
      have phase := Progress.phases_move_self waiting .running
      simp only [Batch.runJob, taken, phase] at given
      obtain ⟨outcome, launched, ran, archiving⟩ := FileAction.gives_bind_iff.mp given
      obtain ⟨_, archived, kept, returned⟩ := FileAction.gives_bind_iff.mp archiving
      obtain ⟨rfl, rfl⟩ := FileAction.gives_pure_iff.mp returned
      exact .inr ⟨rfl, outcome, launched, ran, kept, rfl⟩
  · have taken : batch.advance jobs (.take count) progress = progress := by
      simp [advance, Progress.advance?, waiting, free]
    simp only [Batch.runJob, taken, waiting] at given
    obtain ⟨rfl, rfl⟩ := FileAction.gives_pure_iff.mp given
    exact .inl ⟨free, rfl, rfl⟩

/-- Taking a job settles it. -/
theorem Served.runJob (served : Served batch.settings jobs count events progress)
    (workers : 0 < batch.settings.workers) {job : Job} (listed : jobs[count]? = some job)
    {before after : FileTree}
    (given : (batch.runJob launcher jobs progress job count).Gives before next after) :
    ∃ later, Served batch.settings jobs (count + 1) (events ++ later) next := by
  have among := (List.getElem?_eq_some_iff.mp listed).1
  have waiting := served.waiting count (Nat.le_refl _) among
  have free : progress.busy < batch.settings.single.workers := served.busy ▸ Nat.one_pos
  obtain ⟨busy, -, -⟩ | ⟨stopped, rfl, -⟩ | ⟨going, outcome, _, -, -, ended⟩ :=
    runJob_cases waiting given
  · exact absurd (served.busy ▸ workers) busy
  · have skip : Step batch.settings.single jobs progress (.take count) _ :=
      .skip waiting free stopped
    exact ⟨[.take count], served.extend among (Progress.run?_cons skip []) rfl rfl rfl⟩
  · have start : Step batch.settings.single jobs progress (.take count) _ :=
      .start waiting free going
    have running := Progress.phases_move_self waiting .running
    obtain ⟨later, ran, taken, phases⟩ := exists_finished workers running listed ended
    have moved : next.phases = progress.phases.set count (.finished _) :=
      phases.trans (List.set_set ..)
    refine ⟨.take count :: later, served.extend among ?_ ?_ moved rfl⟩
    · exact (Progress.run?_cons start later).trans ran
    · rw [takenJobs, List.filterMap_cons]
      exact congrArg (count :: ·) taken

/-- Where nothing goes wrong with the files, the run of a batch is a complete schedule of one worker
that takes the jobs in order. -/
theorem exists_schedule_of_run (workers : 0 < batch.settings.workers) {before after : FileTree}
    (given : (batch.run launcher jobs false).Gives before progress after) :
    ∃ outcome events,
      (Progress.start jobs).run? batch.settings.single jobs events = some progress ∧
      Progress.Assigned outcome events ∧ takenJobs events = List.range jobs.length ∧
      progress.isComplete = true := by
  obtain ⟨_, prepared, -, running⟩ := FileAction.gives_bind_iff.mp given
  obtain ⟨_, _, ranAll, -⟩ := FileAction.gives_tryFinally_iff.mp running
  obtain ⟨events, served⟩ := FileAction.gives_foldlM_zipIdx
    (fun count progress _ => ∃ events, Served batch.settings jobs count events progress)
    (fun listed ⟨_, served⟩ given => (served.runJob workers listed given).imp' _ fun _ => id)
    List.drop_zero (Nat.zero_le _) ⟨[], served_start batch.settings jobs⟩ ranAll
  obtain ⟨outcome, assigned⟩ := Progress.exists_assigned_of_run? served.ran
  refine ⟨outcome, events, served.ran, assigned, served.order, ?_⟩
  refine List.all_eq_true.mpr fun phase member => ?_
  obtain ⟨index, here⟩ := List.mem_iff_getElem?.mp member
  have inside := (List.getElem?_eq_some_iff.mp here).1
  rw [Progress.length_phases_of_run? served.ran] at inside
  exact served.settled index inside phase here

end Batch

end CopyOracle
