import CopyOracle.Proofs.Batch.Progress
import Mathlib.Algebra.Ring.Nat
/-!
# Every schedule can be completed

Each event leaves fewer events for its job, so a schedule has at most three events for each job.
With a worker there is always a next event until all jobs are settled: a batch cannot get stuck,
whatever its schedule was so far and whatever the outcomes of the runs will be.
-/

namespace CopyOracle

/-- The most events that are still to come for a job. -/
def JobPhase.remaining : JobPhase → Nat
  | .waiting => 3
  | .running => 2
  | .failing _ _ => 1
  | .finished _ | .skipped => 0

namespace Progress

variable {settings : BatchSettings} {jobs : List Job} {events : List BatchEvent}
  {progress next last : Progress}

/-- The most events that are still to come for all jobs. -/
def remaining (progress : Progress) : Nat := (progress.phases.map JobPhase.remaining).sum

/-- Moving a job to where fewer events are to come for it leaves fewer events for all. -/
theorem remaining_move_lt {job : Nat} {old new : JobPhase}
    (here : progress.phases[job]? = some old) (fewer : new.remaining < old.remaining) :
    (progress.move job new).remaining < progress.remaining := by
  obtain ⟨inside, rfl⟩ := List.getElem?_eq_some_iff.mp here
  have split := List.take_append_drop job progress.phases
  rw [List.drop_eq_getElem_cons inside] at split
  rw [remaining, remaining, move, List.set_eq_take_append_cons_drop, if_pos inside]
  conv_rhs => rw [← split]
  simp only [List.map_append, List.map_cons, List.sum_append, List.sum_cons]
  omega

/-- Each step leaves fewer events. -/
theorem Step.remaining_lt {event : BatchEvent} (step : Step settings jobs progress event next) :
    next.remaining < progress.remaining := by
  cases step with
  | skip waiting _ _ => exact remaining_move_lt waiting (Nat.succ_pos 2)
  | start waiting _ _ => exact remaining_move_lt waiting (Nat.lt_succ_self 2)
  | pass running _ _ => exact remaining_move_lt running (Nat.succ_pos 1)
  | @fail job taken outcome running _ _ =>
    have fewer : (JobPhase.failing (progress.failures + 1) (settings.judge taken outcome)).remaining
        < JobPhase.running.remaining := Nat.lt_succ_self 1
    exact remaining_move_lt running fewer
  | @compare job failures executed failing =>
    have fewer : (JobPhase.finished executed).remaining <
        (JobPhase.failing failures executed).remaining := Nat.one_pos
    exact remaining_move_lt failing fewer

/-- A schedule has at most three events for each job. -/
theorem length_le_of_run? (ran : (start jobs).run? settings jobs events = some progress) :
    events.length ≤ 3 * jobs.length := by
  have bound := run?_invariant
    (fun past progress => past.length + progress.remaining ≤ 3 * jobs.length) ran
    (by simp [remaining, start, JobPhase.remaining, Nat.mul_comm])
    fun _ bound step => by
      have fewer := step.remaining_lt
      rw [List.length_append, List.length_singleton]
      omega
  omega

/-- The worker of a busy job can go on: it ends the run as its outcome says, or compares its
count. -/
theorem exists_step_of_busy (same : progress.phases.length = jobs.length) {job : Nat}
    {phase : JobPhase} (here : progress.phases[job]? = some phase) (busy : phase.isBusy = true)
    (outcome : Nat → RunOutcome) :
    ∃ event next, Step settings jobs progress event next ∧ Assigned outcome [event] := by
  cases phase with
  | running =>
    obtain ⟨inside, _⟩ := List.getElem?_eq_some_iff.mp here
    have listed : jobs[job]? = some jobs[job] := List.getElem?_eq_getElem (same ▸ inside)
    have assigned : Assigned outcome [.finish job (outcome job)] := by
      intro index ended member
      obtain ⟨rfl, rfl⟩ := BatchEvent.finish.inj (List.mem_singleton.mp member)
      rfl
    cases passed : (settings.judge jobs[job] (outcome job)).record.passed with
    | true => exact ⟨_, _, .pass here listed passed, assigned⟩
    | false => exact ⟨_, _, .fail here listed passed, assigned⟩
  | failing failures executed =>
    exact ⟨.compare job, _, .compare here, by simp [Assigned]⟩
  | waiting | finished | skipped => contradiction

/-- There is a next event until all jobs are settled, and it ends a run as its outcome says. -/
theorem exists_step (workers : 0 < settings.workers)
    (same : progress.phases.length = jobs.length) (open' : progress.isComplete = false)
    (outcome : Nat → RunOutcome) :
    ∃ event next, Step settings jobs progress event next ∧ Assigned outcome [event] := by
  by_cases idle : progress.busy = 0
  · obtain ⟨phase, member, unsettled⟩ := List.all_eq_false.mp open'
    obtain ⟨job, here⟩ := List.mem_iff_getElem?.mp member
    have free : progress.busy < settings.workers := idle ▸ workers
    have resting := List.countP_eq_zero.mp idle phase member
    cases phase with
    | waiting =>
      cases stopped : progress.stopped with
      | true => exact ⟨.take job, _, .skip here free stopped, by simp [Assigned]⟩
      | false => exact ⟨.take job, _, .start here free stopped, by simp [Assigned]⟩
    | running | failing => exact absurd rfl resting
    | finished | skipped => exact absurd rfl unsettled
  · obtain ⟨phase, member, busy⟩ := List.countP_pos_iff.mp (Nat.pos_of_ne_zero idle)
    obtain ⟨job, here⟩ := List.mem_iff_getElem?.mp member
    exact exists_step_of_busy same here busy outcome

/-- With a worker a batch can go on until all jobs are settled, and the further runs may have any
outcomes. -/
theorem exists_completion (workers : 0 < settings.workers)
    (same : progress.phases.length = jobs.length) (outcome : Nat → RunOutcome) :
    ∃ later last, progress.run? settings jobs later = some last ∧ Assigned outcome later ∧
      last.isComplete = true := by
  induction left : progress.remaining using Nat.strongRecOn generalizing progress with
  | ind left ih =>
    cases complete : progress.isComplete with
    | true => exact ⟨[], progress, rfl, by simp [Assigned], complete⟩
    | false =>
      obtain ⟨event, next, step, assigned⟩ := exists_step workers same complete outcome
      obtain ⟨later, last, ran, others, ends⟩ :=
        ih next.remaining (left ▸ step.remaining_lt) (step.length_phases.trans same) rfl
      exact ⟨[event] ++ later, last, (run?_cons step later).trans ran, assigned.append others, ends⟩

/-- With a worker every schedule is the beginning of a complete one: no batch gets stuck. -/
theorem exists_complete_schedule (workers : 0 < settings.workers)
    (ran : (start jobs).run? settings jobs events = some progress) (outcome : Nat → RunOutcome) :
    ∃ later last, (start jobs).run? settings jobs (events ++ later) = some last ∧
      Assigned outcome later ∧ last.isComplete = true := by
  obtain ⟨later, last, rest, assigned, ends⟩ :=
    exists_completion workers (length_phases_of_run? ran) outcome
  exact ⟨later, last, by rw [run?_append, ran, Option.bind_some, rest], assigned, ends⟩

end Progress

end CopyOracle
