import CopyOracle.Batch.Progress
import Mathlib.Data.List.Basic
/-!
# What every schedule of a batch keeps

`Progress.Step` lists what an event can do, and every fact about schedules here is proved for one
step and carried along a whole schedule by `Progress.run?_invariant`. A job has a result exactly
when its run has ended, and then it is the judgement on the outcome that the run had. The number
of failures is that of the failed results. Once the limit is reached by a count, the batch stops
when that count is compared; until then its job is busy, so the workers bound how many jobs can
fail beyond the limit.
-/

namespace CopyOracle

namespace BatchEvent

/-- The job that a worker takes. -/
def taken? : BatchEvent → Option Nat
  | .take job => some job
  | _ => none

/-- The job whose run ends. -/
def ended? : BatchEvent → Option Nat
  | .finish job _ => some job
  | _ => none

end BatchEvent

namespace Progress

/-- The jobs that were taken, in the order of the schedule. -/
def takenJobs (events : List BatchEvent) : List Nat := events.filterMap BatchEvent.taken?

/-- The jobs whose runs ended, in the order of the schedule. -/
def endedJobs (events : List BatchEvent) : List Nat := events.filterMap BatchEvent.ended?

/-- Whether the run of the job failed. -/
def hasFailed (phase : JobPhase) : Bool :=
  phase.result?.any fun executed => !executed.record.passed

/-- Whether the job runs. -/
def isRunning : JobPhase → Bool
  | .running => true
  | _ => false

/-- Whether the job failed with a count that reaches the limit, and the count is not compared. -/
def isReaching (limit : Nat) : JobPhase → Bool
  | .failing failures _ => limit ≤ failures
  | _ => false

variable {settings : BatchSettings} {jobs : List Job}

/-- What an event does where it can happen. -/
inductive Step (settings : BatchSettings) (jobs : List Job) (progress : Progress) :
    BatchEvent → Progress → Prop
  /-- A free worker takes a job after the batch has stopped, and does not run it. -/
  | skip {job : Nat} (waiting : progress.phases[job]? = some .waiting)
    (free : progress.busy < settings.workers) (stopped : progress.stopped = true) :
    Step settings jobs progress (.take job) (progress.move job .skipped)
  /-- A free worker takes a job and runs it. -/
  | start {job : Nat} (waiting : progress.phases[job]? = some .waiting)
    (free : progress.busy < settings.workers) (going : progress.stopped = false) :
    Step settings jobs progress (.take job) (progress.move job .running)
  /-- A run ends that passes. -/
  | pass {job : Nat} {taken : Job} {outcome : RunOutcome}
    (running : progress.phases[job]? = some .running) (listed : jobs[job]? = some taken)
    (passed : (settings.judge taken outcome).record.passed = true) :
    Step settings jobs progress (.finish job outcome)
      (progress.move job (.finished (settings.judge taken outcome)))
  /-- A run ends that fails, and is counted. -/
  | fail {job : Nat} {taken : Job} {outcome : RunOutcome}
    (running : progress.phases[job]? = some .running) (listed : jobs[job]? = some taken)
    (failed : (settings.judge taken outcome).record.passed = false) :
    Step settings jobs progress (.finish job outcome)
      { progress.move job (.failing (progress.failures + 1) (settings.judge taken outcome)) with
        failures := progress.failures + 1 }
  /-- The count of a failed run is compared with the limit. -/
  | compare {job failures : Nat} {executed : Executed}
    (failing : progress.phases[job]? = some (.failing failures executed)) :
    Step settings jobs progress (.compare job)
      { progress.move job (.finished executed) with
        stopped := progress.stopped || settings.stopsAfter failures }

/-- An event leads from one progress to another exactly when it is a step between them. -/
theorem advance?_eq_some_iff {progress next : Progress} {event : BatchEvent} :
    progress.advance? settings jobs event = some next ↔ Step settings jobs progress event next := by
  constructor
  · intro advanced
    cases event with
    | take job =>
      simp only [advance?] at advanced
      split at advanced
      · next waiting =>
        split at advanced
        · next free =>
          obtain rfl := Option.some.inj advanced
          cases stopped : progress.stopped with
          | true => exact .skip waiting free stopped
          | false => exact .start waiting free stopped
        · contradiction
      · contradiction
    | finish job outcome =>
      simp only [advance?] at advanced
      split at advanced
      · next taken running listed =>
        split at advanced
        · next passed =>
          obtain rfl := Option.some.inj advanced
          exact .pass running listed passed
        · next failed =>
          obtain rfl := Option.some.inj advanced
          exact .fail running listed (Bool.eq_false_iff.mpr failed)
      · contradiction
    | compare job =>
      simp only [advance?] at advanced
      split at advanced
      · next failing =>
        obtain rfl := Option.some.inj advanced
        exact .compare failing
      · contradiction
  · intro step
    cases step with
    | skip waiting free stopped => simp [advance?, waiting, free, stopped]
    | start waiting free going => simp [advance?, waiting, free, going]
    | pass running listed passed => simp [advance?, running, listed, passed]
    | fail running listed failed => simp [advance?, running, listed, failed]
    | compare failing => simp [advance?, failing]

/-- A schedule begins with a step. -/
theorem run?_cons {progress next : Progress} {event : BatchEvent}
    (step : Step settings jobs progress event next) (later : List BatchEvent) :
    progress.run? settings jobs (event :: later) = next.run? settings jobs later := by
  rw [run?, advance?_eq_some_iff.mpr step, Option.bind_some]

/-- What holds before a schedule and is kept by each of its steps holds after it. The fact may
speak of the events so far. -/
theorem run?_invariant (holds : List BatchEvent → Progress → Prop) {events : List BatchEvent}
    {first last : Progress} (ran : first.run? settings jobs events = some last)
    (initial : holds [] first)
    (kept : ∀ {past later : List BatchEvent} {event : BatchEvent} {progress next : Progress},
      events = past ++ event :: later → holds past progress →
        Step settings jobs progress event next → holds (past ++ [event]) next) :
    holds events last := by
  -- The schedule is cut into the events so far and those to come, and the latter get fewer.
  suffices along : ∀ {future past : List BatchEvent} {progress : Progress},
      events = past ++ future → holds past progress →
        progress.run? settings jobs future = some last → holds events last from
    along (List.nil_append events).symm initial ran
  intro future
  induction future with
  | nil =>
    intro past progress split now ended
    obtain rfl := Option.some.inj ended
    rwa [split, List.append_nil]
  | cons event later ih =>
    intro past progress split now ended
    obtain ⟨next, advanced, rest⟩ := Option.bind_eq_some_iff.mp ended
    refine ih ?_ (kept split now (advance?_eq_some_iff.mp advanced)) rest
    rw [split, List.append_assoc, List.singleton_append]

/-- A schedule goes on from where an earlier one ended. -/
theorem run?_append (first : Progress) (past later : List BatchEvent) :
    first.run? settings jobs (past ++ later) =
      (first.run? settings jobs past).bind (run? settings jobs · later) := by
  induction past generalizing first with
  | nil => rfl
  | cons event past ih =>
    rw [List.cons_append, run?, run?, Option.bind_assoc]
    exact Option.bind_congr fun next _ => ih next

/-- Each step keeps the number of phases. -/
theorem Step.length_phases {event : BatchEvent} {progress next : Progress}
    (step : Step settings jobs progress event next) :
    next.phases.length = progress.phases.length := by
  cases step <;> exact List.length_set

/-- After a schedule each job has a phase. -/
theorem length_phases_of_run? {events : List BatchEvent} {progress : Progress}
    (ran : (start jobs).run? settings jobs events = some progress) :
    progress.phases.length = jobs.length :=
  run?_invariant (fun _ progress => progress.phases.length = jobs.length) ran
    (List.length_map _) fun _ same step => step.length_phases.trans same

/-- Moving a job fails nothing. -/
@[simp]
theorem move_failures (progress : Progress) (job : Nat) (new : JobPhase) :
    (progress.move job new).failures = progress.failures := rfl

/-- Moving a job does not stop the batch. -/
@[simp]
theorem move_stopped (progress : Progress) (job : Nat) (new : JobPhase) :
    (progress.move job new).stopped = progress.stopped := rfl

/-- A job is where it was moved. -/
theorem phases_move_self {progress : Progress} {job : Nat} {old : JobPhase}
    (here : progress.phases[job]? = some old) (new : JobPhase) :
    (progress.move job new).phases[job]? = some new :=
  List.getElem?_set_self (List.getElem?_eq_some_iff.mp here).1

/-- Every other job is where it was. -/
theorem phases_move_ne {progress : Progress} {job index : Nat} (other : job ≠ index)
    (new : JobPhase) : (progress.move job new).phases[index]? = progress.phases[index]? :=
  List.getElem?_set_ne other

/-- Moving a job takes its old phase out of a count and puts its new phase in. -/
theorem countP_move {progress : Progress} {job : Nat} {old : JobPhase}
    (here : progress.phases[job]? = some old) (new : JobPhase) (counted : JobPhase → Bool) :
    (progress.move job new).phases.countP counted + (if counted old then 1 else 0) =
      progress.phases.countP counted + (if counted new then 1 else 0) := by
  obtain ⟨inside, rfl⟩ := List.getElem?_eq_some_iff.mp here
  rw [move, List.countP_set inside]
  by_cases old : counted progress.phases[job] = true
  · have present : 0 < progress.phases.countP counted :=
      List.countP_pos_iff.mpr ⟨_, List.getElem_mem inside, old⟩
    rw [if_pos old]
    omega
  · rw [if_neg old]
    omega

/-- A phase after a job was moved is the new one or an old one. -/
theorem mem_phases_move {progress : Progress} {job : Nat} {new phase : JobPhase}
    (member : phase ∈ (progress.move job new).phases) : phase = new ∨ phase ∈ progress.phases :=
  (List.mem_or_eq_of_mem_set member).symm

/-- The runs of a schedule end as the assignment says. -/
def Assigned (outcome : Nat → RunOutcome) (events : List BatchEvent) : Prop :=
  ∀ job ended, BatchEvent.finish job ended ∈ events → ended = outcome job

/-- Where both parts of a schedule end their runs as the assignment says, so does the whole. -/
theorem Assigned.append {outcome : Nat → RunOutcome} {past later : List BatchEvent}
    (before : Assigned outcome past) (after : Assigned outcome later) :
    Assigned outcome (past ++ later) := fun job ended member =>
  (List.mem_append.mp member).elim (before job ended) (after job ended)

/-- A job has a result exactly when its run has ended, and then it is the judgement on the outcome
of the run. -/
def Traced (settings : BatchSettings) (jobs : List Job) (outcome : Nat → RunOutcome)
    (past : List BatchEvent) (progress : Progress) : Prop :=
  ∀ index : Nat, progress.phases[index]?.map JobPhase.result? = jobs[index]?.map fun job =>
    if index ∈ endedJobs past then some (settings.judge job (outcome index)) else none

/-- Before a schedule no job has a result. -/
theorem traced_start (settings : BatchSettings) (jobs : List Job) (outcome : Nat → RunOutcome) :
    Traced settings jobs outcome [] (start jobs) := by
  intro index
  simp only [start, endedJobs, List.filterMap_nil, List.not_mem_nil, if_false, List.getElem?_map,
    Option.map_map]
  rfl

/-- An event that ends no run may move a job to a phase with the same result. -/
theorem Traced.move {outcome : Nat → RunOutcome} {past : List BatchEvent} {progress : Progress}
    (traced : Traced settings jobs outcome past progress) {event : BatchEvent}
    (silent : event.ended? = none) {job : Nat} {old : JobPhase}
    (here : progress.phases[job]? = some old) (new : JobPhase)
    (same : new.result? = old.result?) :
    Traced settings jobs outcome (past ++ [event]) (progress.move job new) := by
  have list : endedJobs (past ++ [event]) = endedJobs past := by simp [endedJobs, silent]
  intro index
  rw [list, ← traced index]
  by_cases moved : job = index
  · subst moved
    rw [phases_move_self here, here, Option.map_some, Option.map_some, same]
  · rw [phases_move_ne moved]

/-- The end of a run gives its job the result, and no other job. -/
theorem Traced.finish {outcome : Nat → RunOutcome} {past : List BatchEvent} {progress : Progress}
    (traced : Traced settings jobs outcome past progress) {job : Nat} {taken : Job}
    {ended : RunOutcome} (assigned : ended = outcome job)
    (running : progress.phases[job]? = some .running) (listed : jobs[job]? = some taken)
    {new : JobPhase} (result : new.result? = some (settings.judge taken ended)) :
    Traced settings jobs outcome (past ++ [.finish job ended]) (progress.move job new) := by
  have list : endedJobs (past ++ [.finish job ended]) = endedJobs past ++ [job] := by
    simp [endedJobs, BatchEvent.ended?]
  intro index
  rw [list]
  by_cases moved : job = index
  · subst moved
    simp [phases_move_self running, listed, result, assigned]
  · rw [phases_move_ne moved, traced index]
    simp [Ne.symm moved]

/-- Each step keeps the results in line with the runs that have ended. -/
theorem Traced.step {outcome : Nat → RunOutcome} {past : List BatchEvent} {event : BatchEvent}
    {progress next : Progress} (traced : Traced settings jobs outcome past progress)
    (assigned : ∀ job ended, event = .finish job ended → ended = outcome job)
    (step : Step settings jobs progress event next) :
    Traced settings jobs outcome (past ++ [event]) next := by
  cases step with
  | skip waiting _ _ => exact traced.move rfl waiting .skipped rfl
  | start waiting _ _ => exact traced.move rfl waiting .running rfl
  | pass running listed _ => exact traced.finish (assigned _ _ rfl) running listed rfl
  | fail running listed _ => exact traced.finish (assigned _ _ rfl) running listed rfl
  | @compare job failures executed failing =>
    exact traced.move rfl failing (.finished executed) rfl

/-- The counter of failures, and what stopping and skipping say about it. -/
structure Counted (settings : BatchSettings) (progress : Progress) : Prop where
  /-- It counts the failed results. -/
  failures : progress.failures = progress.phases.countP hasFailed
  /-- A count that is still to be compared is one of the past. -/
  compared : ∀ failures executed, .failing failures executed ∈ progress.phases →
    failures ≤ progress.failures
  /-- The batch stops for the number of failures only. -/
  stopped : progress.stopped = true → settings.stopsAfter progress.failures = true
  /-- A job is skipped after the batch has stopped only. -/
  skipped : .skipped ∈ progress.phases → progress.stopped = true

/-- More failures stop a batch that fewer stop. -/
theorem stopsAfter_mono {fewer more : Nat} (less : fewer ≤ more)
    (stops : settings.stopsAfter fewer = true) : settings.stopsAfter more = true := by
  rw [BatchSettings.stopsAfter] at stops ⊢
  cases limited : settings.maxFailures with
  | none => simp [limited] at stops
  | some limit =>
    simp only [limited, decide_eq_true_eq] at stops ⊢
    exact Nat.le_trans stops less

/-- Before a schedule nothing has failed. -/
theorem counted_start (settings : BatchSettings) (jobs : List Job) :
    Counted settings (start jobs) where
  failures := by
    refine (List.countP_eq_zero.mpr fun phase member => ?_).symm
    obtain ⟨_, _, rfl⟩ := List.mem_map.mp member
    exact Bool.false_ne_true
  compared := by simp [start]
  stopped := by simp [start]
  skipped := by simp [start]

/-- A job may be moved where it fails neither more nor less, when no count is left to be compared
and nothing is skipped too early. -/
theorem Counted.move {progress : Progress} (counted : Counted settings progress) {job : Nat}
    {old : JobPhase} (here : progress.phases[job]? = some old) (new : JobPhase)
    (same : hasFailed new = hasFailed old)
    (compared : ∀ failures executed, .failing failures executed ≠ new)
    (skipped : .skipped = new → progress.stopped = true) :
    Counted settings (progress.move job new) where
  failures := by
    have count := countP_move here new hasFailed
    rw [same, Nat.add_right_cancel_iff] at count
    exact counted.failures.trans count.symm
  compared := fun failures executed member =>
    counted.compared _ _ ((mem_phases_move member).resolve_left (compared failures executed))
  stopped := counted.stopped
  skipped := fun member => (mem_phases_move member).elim skipped counted.skipped

/-- Each step keeps the counter in line with the phases. -/
theorem Counted.step {event : BatchEvent} {progress next : Progress}
    (counted : Counted settings progress) (step : Step settings jobs progress event next) :
    Counted settings next := by
  cases step with
  | skip waiting _ stopped => exact counted.move waiting .skipped rfl (by simp) fun _ => stopped
  | start waiting _ _ => exact counted.move waiting .running rfl (by simp) (by simp)
  | @pass job taken outcome running _ passed =>
    have same : hasFailed (.finished (settings.judge taken outcome)) = hasFailed .running := by
      simp [hasFailed, JobPhase.result?, passed]
    exact counted.move running _ same (by simp) (by simp)
  | @fail job taken outcome running _ failed =>
    have count := countP_move running
      (.failing (progress.failures + 1) (settings.judge taken outcome)) hasFailed
    exact {
      failures := by simpa [hasFailed, JobPhase.result?, failed, counted.failures] using count.symm
      compared := fun failures executed member => by
        rcases mem_phases_move member with same | earlier
        · exact Nat.le_of_eq (JobPhase.failing.inj same).1
        · exact Nat.le_succ_of_le (counted.compared _ _ earlier)
      stopped := fun stopped => stopsAfter_mono (Nat.le_succ _) (counted.stopped stopped)
      skipped := fun member => counted.skipped ((mem_phases_move member).resolve_left (by simp)) }
  | @compare job failures executed failing =>
    have moved := counted.move failing (.finished executed) rfl (by simp) (by simp)
    exact {
      failures := moved.failures
      compared := moved.compared
      stopped := fun stopped => by
        rcases Bool.or_eq_true_iff.mp stopped with before | now
        · exact counted.stopped before
        · exact stopsAfter_mono (counted.compared _ _ (List.mem_of_getElem? failing)) now
      skipped := fun member => Bool.or_eq_true_iff.mpr (.inl (moved.skipped member)) }

/-- How many jobs can have failed under a limit. -/
structure Bounded (limit workers : Nat) (progress : Progress) : Prop where
  /-- While the batch goes on, each failure from the limit on is still to be compared. -/
  reaching : progress.stopped = false →
    progress.failures < limit + progress.phases.countP (isReaching limit)
  /-- The failures and the jobs that may still fail go beyond the limit by less than the number of
  workers. -/
  capacity : progress.failures + progress.phases.countP isRunning < limit + workers

/-- A busy job runs or waits for the comparison of its count, but not both. -/
theorem countP_busy (limit : Nat) (progress : Progress) :
    progress.phases.countP (isReaching limit) + progress.phases.countP isRunning ≤
      progress.busy := by
  rw [busy]
  induction progress.phases with
  | nil => exact Nat.le_refl 0
  | cons phase phases ih =>
    simp only [List.countP_cons]
    cases phase with
    | failing failures executed =>
      simp only [isRunning, JobPhase.isBusy, if_true, Bool.false_eq_true, if_false]
      split <;> omega
    | running =>
      simp only [isRunning, JobPhase.isBusy, isReaching, if_true, Bool.false_eq_true, if_false]
      omega
    | waiting | finished | skipped => simpa [isRunning, JobPhase.isBusy, isReaching] using ih

/-- Before a schedule nothing has failed, which is below a limit. -/
theorem bounded_start {limit workers : Nat} (positive : 0 < limit) (jobs : List Job) :
    Bounded limit workers (start jobs) where
  reaching := fun _ => Nat.add_pos_left positive _
  capacity := by
    have none : (start jobs).phases.countP isRunning = 0 := by
      simp [start, isRunning]
    rw [none]
    exact Nat.add_pos_left positive _

/-- Each step keeps the number of failures within its bound. -/
theorem Bounded.step {limit : Nat} (limited : settings.maxFailures = some limit)
    {event : BatchEvent} {progress next : Progress}
    (bounded : Bounded limit settings.workers progress)
    (step : Step settings jobs progress event next) : Bounded limit settings.workers next := by
  have reaching := bounded.reaching
  have capacity := bounded.capacity
  cases step with
  | skip waiting _ stopped =>
    have running := countP_move waiting .skipped isRunning
    simp only [isRunning, Bool.false_eq_true, if_false, Nat.add_zero] at running
    exact ⟨fun going => by simp [stopped] at going, by rwa [running, move_failures]⟩
  | start waiting free going =>
    have running := countP_move waiting .running isRunning
    have reached := countP_move waiting .running (isReaching limit)
    have occupied := countP_busy limit progress
    simp only [isRunning, isReaching, Bool.false_eq_true, if_false, if_true, Nat.add_zero]
      at running reached
    have failures := reaching going
    constructor
    · rw [reached]
      exact reaching
    · -- The free worker leaves room for one more job that may fail.
      rw [running, move_failures]
      omega
  | @pass job taken outcome here _ _ =>
    have running := countP_move here (.finished (settings.judge taken outcome)) isRunning
    have reached := countP_move here (.finished (settings.judge taken outcome)) (isReaching limit)
    simp only [isRunning, isReaching, Bool.false_eq_true, if_false, if_true, Nat.add_zero]
      at running reached
    constructor
    · rw [reached]
      exact reaching
    · rw [move_failures]
      omega
  | @fail job taken outcome here _ _ =>
    have running := countP_move here
      (.failing (progress.failures + 1) (settings.judge taken outcome)) isRunning
    have reached := countP_move here
      (.failing (progress.failures + 1) (settings.judge taken outcome)) (isReaching limit)
    simp only [isRunning, isReaching, Bool.false_eq_true, if_false, if_true, Nat.add_zero,
      decide_eq_true_eq] at running reached
    constructor
    · -- From the limit on, the new count is one more that is still to be compared.
      intro going
      have before := reaching going
      dsimp only
      split at reached <;> omega
    · dsimp only
      omega
  | @compare job failures executed here =>
    have running := countP_move here (.finished executed) isRunning
    have reached := countP_move here (.finished executed) (isReaching limit)
    simp only [isRunning, isReaching, Bool.false_eq_true, if_false, Nat.add_zero,
      decide_eq_true_eq] at running reached
    constructor
    · -- A count that does not stop the batch is below the limit.
      intro going
      obtain ⟨before, below⟩ := Bool.or_eq_false_iff.mp going
      rw [BatchSettings.stopsAfter, limited, decide_eq_false_iff_not] at below
      rw [if_neg below] at reached
      have failed := reaching before
      simp only [move_failures]
      omega
    · simp only [move_failures]
      omega

end Progress

end CopyOracle
