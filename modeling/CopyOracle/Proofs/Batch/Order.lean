import CopyOracle.Proofs.Batch.Report
import Mathlib.Data.Nat.Find
/-!
# One worker that takes the jobs in order

With one worker a job is taken only after the jobs before it are settled. So the batch has stopped
by then exactly when the limit is reached by the failures among the jobs before it, and the jobs
that run are the shortest front of the jobs in which the limit is reached.
-/

namespace CopyOracle

namespace BatchSettings

/-- How many of so many jobs from the front fail. -/
def failuresBefore (settings : BatchSettings) (jobs : List Job) (outcome : Nat → RunOutcome)
    (count : Nat) : Nat := (jobs.zipIdx.take count).countP (settings.fails outcome)

/-- So many jobs from the front are the fewest in which the limit of failures is reached; they are
all jobs when it never is. -/
structure ShortestPrefix (settings : BatchSettings) (jobs : List Job)
    (outcome : Nat → RunOutcome) (limit count : Nat) : Prop where
  /-- There are so many jobs. -/
  within : count ≤ jobs.length
  /-- Fewer jobs have fewer failures than the limit. -/
  fewer : ∀ shorter < count, settings.failuresBefore jobs outcome shorter < limit
  /-- The limit is reached unless they are all jobs. -/
  reached : count < jobs.length → limit ≤ settings.failuresBefore jobs outcome count

variable {settings : BatchSettings} {jobs : List Job} {outcome : Nat → RunOutcome}

/-- More jobs from the front have no fewer failures. -/
theorem failuresBefore_mono {fewer more : Nat} (less : fewer ≤ more) :
    settings.failuresBefore jobs outcome fewer ≤ settings.failuresBefore jobs outcome more :=
  (List.take_prefix_take_left less).sublist.countP_le

/-- There is a shortest front in which the limit is reached, or all jobs are. -/
theorem exists_shortestPrefix (settings : BatchSettings) (jobs : List Job)
    (outcome : Nat → RunOutcome) (limit : Nat) :
    ∃ count, settings.ShortestPrefix jobs outcome limit count := by
  have some : ∃ count, count = jobs.length ∨ limit ≤ settings.failuresBefore jobs outcome count :=
    ⟨jobs.length, .inl rfl⟩
  refine ⟨Nat.find some, Nat.find_min' some (.inl rfl), fun shorter less => ?_, fun inside => ?_⟩
  · have neither := Nat.find_min some less
    exact Nat.lt_of_not_le fun reached => neither (.inr reached)
  · exact (Nat.find_spec some).resolve_left (Nat.ne_of_lt inside)

/-- A job is among the shortest front exactly when the jobs before it do not reach the limit. -/
theorem ShortestPrefix.lt_iff {limit count : Nat}
    (shortest : settings.ShortestPrefix jobs outcome limit count) {index : Nat}
    (inside : index < jobs.length) :
    index < count ↔ settings.failuresBefore jobs outcome index < limit := by
  refine ⟨shortest.fewer index, fun fewer => Nat.lt_of_not_le fun later => ?_⟩
  have reached := shortest.reached (Nat.lt_of_le_of_lt later inside)
  have more : settings.failuresBefore jobs outcome count ≤
      settings.failuresBefore jobs outcome index := failuresBefore_mono later
  omega

end BatchSettings

/-- The entries of a front of the jobs are jobs at places before its end. -/
theorem lt_of_mem_take_zipIdx {jobs : List Job} {count : Nat} {entry : Job × Nat}
    (member : entry ∈ jobs.zipIdx.take count) : entry.2 < count := by
  obtain ⟨index, inside, rfl⟩ := List.mem_take_iff_getElem.mp member
  rw [List.getElem_zipIdx, Nat.zero_add]
  exact Nat.lt_of_lt_of_le inside (Nat.min_le_left _ _)

/-- The entries behind a front of the jobs are at places from its end on. -/
theorem le_of_mem_drop_zipIdx {jobs : List Job} {count : Nat} {entry : Job × Nat}
    (member : entry ∈ jobs.zipIdx.drop count) : count ≤ entry.2 := by
  obtain ⟨index, inside, rfl⟩ := List.mem_drop_iff_getElem.mp member
  rw [List.getElem_zipIdx, Nat.zero_add]
  exact Nat.le_add_right _ _

namespace Progress

variable {settings : BatchSettings} {jobs : List Job} {outcome : Nat → RunOutcome} {limit : Nat}
  {past : List BatchEvent} {progress : Progress}

/-- Every job has a phase. -/
theorem Traced.exists_phase (traced : Traced settings jobs outcome past progress) {index : Nat}
    {job : Job} (listed : jobs[index]? = some job) :
    ∃ phase, progress.phases[index]? = some phase := by
  have known := traced index
  rw [listed, Option.map_some, Option.map_eq_some_iff] at known
  obtain ⟨phase, here, _⟩ := known
  exact ⟨phase, here⟩

/-- The run of a job has ended exactly when its phase has a result. -/
theorem Traced.mem_endedJobs_iff (traced : Traced settings jobs outcome past progress)
    {index : Nat} {job : Job} (listed : jobs[index]? = some job) {phase : JobPhase}
    (here : progress.phases[index]? = some phase) :
    index ∈ endedJobs past ↔ phase.result?.isSome = true := by
  have known := traced index
  rw [listed, here, Option.map_some, Option.map_some, Option.some.injEq] at known
  rw [known]
  by_cases ended : index ∈ endedJobs past <;> simp [ended]

/-- The jobs were taken in order so far, and a job was skipped exactly when the jobs before it
reach the limit. -/
structure Sequential (settings : BatchSettings) (jobs : List Job) (outcome : Nat → RunOutcome)
    (limit : Nat) (past : List BatchEvent) (progress : Progress) : Prop where
  /-- The jobs that were not taken wait. -/
  untaken : ∀ index, (takenJobs past).length ≤ index → index < jobs.length →
    progress.phases[index]? = some .waiting
  /-- The others do not. -/
  taken : ∀ index < (takenJobs past).length, progress.phases[index]? ≠ some .waiting
  /-- A job was skipped for the failures before it. -/
  skipped : ∀ index < (takenJobs past).length, (progress.phases[index]? = some .skipped ↔
    limit ≤ settings.failuresBefore jobs outcome index)

/-- Before a schedule no job was taken. -/
theorem sequential_start (settings : BatchSettings) (jobs : List Job)
    (outcome : Nat → RunOutcome) (limit : Nat) :
    Sequential settings jobs outcome limit [] (start jobs) where
  untaken := fun index _ inside => by simp [start, inside]
  taken := fun index inside => absurd inside (Nat.not_lt_zero index)
  skipped := fun index inside => absurd inside (Nat.not_lt_zero index)

/-- The failures are those of the jobs that were taken and have ended. -/
theorem Sequential.failures_eq (sequential : Sequential settings jobs outcome limit past progress)
    (traced : Traced settings jobs outcome past progress) (counted : Counted settings progress) :
    progress.failures = (jobs.zipIdx.take (takenJobs past).length).countP
      fun entry => settings.fails outcome entry && decide (entry.2 ∈ endedJobs past) := by
  have none : (jobs.zipIdx.drop (takenJobs past).length).countP (fun entry =>
      settings.fails outcome entry && decide (entry.2 ∈ endedJobs past)) = 0 := by
    refine List.countP_eq_zero.mpr fun entry member => ?_
    have listed := List.mem_zipIdx_iff_getElem?.mp (List.mem_of_mem_drop member)
    have inside := (List.getElem?_eq_some_iff.mp listed).1
    have waiting := sequential.untaken entry.2 (le_of_mem_drop_zipIdx member) inside
    have open' := (traced.mem_endedJobs_iff listed waiting).not.mpr Bool.false_ne_true
    simp [open']
  rw [traced.failures_eq counted, ranJobs, List.countP_filter]
  conv_lhs => rw [← List.take_append_drop (takenJobs past).length jobs.zipIdx]
  rw [List.countP_append, none, Nat.add_zero]

/-- While the batch goes on and no job is busy, every job that was taken has ended. -/
theorem Sequential.mem_endedJobs
    (sequential : Sequential settings jobs outcome limit past progress)
    (traced : Traced settings jobs outcome past progress) (counted : Counted settings progress)
    (going : progress.stopped = false) (idle : progress.busy = 0) {entry : Job × Nat}
    (member : entry ∈ jobs.zipIdx.take (takenJobs past).length) :
    entry.2 ∈ endedJobs past := by
  have listed := List.mem_zipIdx_iff_getElem?.mp (List.mem_of_mem_take member)
  obtain ⟨phase, here⟩ := traced.exists_phase listed
  rw [traced.mem_endedJobs_iff listed here]
  have taken := sequential.taken entry.2 (lt_of_mem_take_zipIdx member)
  have resting := List.countP_eq_zero.mp idle phase (List.mem_of_getElem? here)
  cases phase with
  | waiting => exact absurd here taken
  | running | failing => exact absurd rfl resting
  | finished => rfl
  | skipped =>
    rw [counted.skipped (List.mem_of_getElem? here)] at going
    contradiction

/-- When no job is busy, the batch has stopped exactly when the jobs that were taken reach the
limit. -/
theorem Sequential.stopped_iff (sequential : Sequential settings jobs outcome limit past progress)
    (limited : settings.maxFailures = some limit)
    (traced : Traced settings jobs outcome past progress) (counted : Counted settings progress)
    (bounded : Bounded limit settings.workers progress) (idle : progress.busy = 0) :
    progress.stopped = true ↔
      limit ≤ settings.failuresBefore jobs outcome (takenJobs past).length := by
  have failures := sequential.failures_eq traced counted
  constructor
  · intro stopped
    have stops := counted.stopped stopped
    rw [BatchSettings.stopsAfter, limited, decide_eq_true_eq, failures] at stops
    refine Nat.le_trans stops (List.countP_mono_left fun entry _ failed => ?_)
    exact (Bool.and_eq_true_iff.mp failed).1
  · -- While the batch goes on, a reached limit would leave a count to be compared.
    intro reached
    by_contra stopped
    have going := Bool.eq_false_iff.mpr stopped
    have busy := countP_busy limit progress
    have below := bounded.reaching going
    have all : progress.failures =
        settings.failuresBefore jobs outcome (takenJobs past).length := by
      rw [failures]
      refine List.countP_congr fun entry member => ?_
      simp [sequential.mem_endedJobs traced counted going idle member]
    omega

/-- A busy job may be moved to where it neither waits nor is skipped. -/
theorem Sequential.move (sequential : Sequential settings jobs outcome limit past progress)
    {event : BatchEvent} (silent : event.taken? = none) {job : Nat} {old : JobPhase}
    (here : progress.phases[job]? = some old) (new : JobPhase)
    (oldBusy : old ≠ .waiting ∧ old ≠ .skipped) (newTaken : new ≠ .waiting ∧ new ≠ .skipped) :
    Sequential settings jobs outcome limit (past ++ [event]) (progress.move job new) := by
  have list : takenJobs (past ++ [event]) = takenJobs past := by simp [takenJobs, silent]
  constructor <;> rw [list]
  · intro index open' listed
    have waiting := sequential.untaken index open' listed
    have other : job ≠ index := by
      rintro rfl
      rw [here, Option.some.injEq] at waiting
      exact oldBusy.1 waiting
    rw [phases_move_ne other, waiting]
  · intro index taken
    by_cases moved : job = index
    · subst moved
      rw [phases_move_self here, Ne, Option.some.injEq]
      exact newTaken.1
    · rw [phases_move_ne moved]
      exact sequential.taken index taken
  · intro index taken
    rw [← sequential.skipped index taken]
    by_cases moved : job = index
    · subst moved
      rw [phases_move_self here, here, Option.some.injEq, Option.some.injEq]
      exact iff_of_false newTaken.2 oldBusy.2
    · rw [phases_move_ne moved]

/-- The next job may be taken, and must be skipped exactly when the jobs before it reach the
limit. -/
theorem Sequential.take (sequential : Sequential settings jobs outcome limit past progress)
    {job : Nat} (next : job = (takenJobs past).length)
    (waiting : progress.phases[job]? = some .waiting) {new : JobPhase} (taken : new ≠ .waiting)
    (skipped : new = .skipped ↔ limit ≤ settings.failuresBefore jobs outcome job) :
    Sequential settings jobs outcome limit (past ++ [.take job]) (progress.move job new) := by
  have list : (takenJobs (past ++ [.take job])).length = job + 1 := by
    simp [takenJobs, BatchEvent.taken?, next]
  constructor <;> rw [list]
  · intro index later listed
    rw [phases_move_ne (by omega)]
    exact sequential.untaken index (by omega) listed
  · intro index before
    by_cases moved : job = index
    · subst moved
      rw [phases_move_self waiting, Ne, Option.some.injEq]
      exact taken
    · rw [phases_move_ne moved]
      exact sequential.taken index (by omega)
  · intro index before
    by_cases moved : job = index
    · subst moved
      rw [phases_move_self waiting, Option.some.injEq]
      exact skipped
    · rw [phases_move_ne moved]
      exact sequential.skipped index (by omega)

/-- Where all jobs are taken in order, the next job to be taken is the next in order. -/
theorem eq_length_of_takenJobs {events later : List BatchEvent} {job : Nat}
    (order : takenJobs events = List.range jobs.length)
    (split : events = past ++ .take job :: later) : job = (takenJobs past).length := by
  have cut : takenJobs past ++ job :: takenJobs later = List.range jobs.length := by
    rw [← order, split]
    simp [takenJobs, BatchEvent.taken?]
  have here := congrArg (fun taken => taken[(takenJobs past).length]?) cut
  rw [List.getElem?_append_right (Nat.le_refl _), Nat.sub_self, List.getElem?_cons_zero] at here
  obtain ⟨_, same⟩ := List.getElem?_eq_some_iff.mp here.symm
  rw [← same, List.getElem_range]

/-- Each step of one worker that takes the jobs in order keeps the skipped jobs in line with the
limit. -/
theorem Sequential.step (sequential : Sequential settings jobs outcome limit past progress)
    (limited : settings.maxFailures = some limit) (single : settings.workers = 1)
    {events later : List BatchEvent} (order : takenJobs events = List.range jobs.length)
    {event : BatchEvent} (split : events = past ++ event :: later)
    (traced : Traced settings jobs outcome past progress) (counted : Counted settings progress)
    (bounded : Bounded limit settings.workers progress) {next : Progress}
    (step : Step settings jobs progress event next) :
    Sequential settings jobs outcome limit (past ++ [event]) next := by
  have stopped_iff (free : progress.busy < settings.workers) := sequential.stopped_iff limited
    traced counted bounded (Nat.lt_one_iff.mp (single ▸ free))
  cases step with
  | @skip job waiting free stopped =>
    have inOrder := eq_length_of_takenJobs order split
    refine sequential.take inOrder waiting (by simp) ?_
    simp [inOrder, ← stopped_iff free, stopped]
  | @start job waiting free going =>
    have inOrder := eq_length_of_takenJobs order split
    refine sequential.take inOrder waiting (by simp) ?_
    simp [inOrder, ← stopped_iff free, going]
  | pass running _ _ => exact sequential.move rfl running _ (by simp) (by simp)
  | @fail job taken ended running _ _ =>
    have silent : (BatchEvent.finish job ended).taken? = none := rfl
    have moved := sequential.move silent running
      (.failing (progress.failures + 1) (settings.judge taken ended)) (by simp) (by simp)
    exact ⟨moved.untaken, moved.taken, moved.skipped⟩
  | @compare job failures executed failing =>
    have silent : (BatchEvent.compare job).taken? = none := rfl
    have moved := sequential.move silent failing (.finished executed) (by simp) (by simp)
    exact ⟨moved.untaken, moved.taken, moved.skipped⟩

/-- In a complete batch the jobs that ran are the shortest front that reaches the limit. -/
theorem Sequential.ranJobs_eq (sequential : Sequential settings jobs outcome limit past progress)
    (order : takenJobs past = List.range jobs.length)
    (traced : Traced settings jobs outcome past progress) (complete : progress.isComplete = true) :
    ∃ count, settings.ShortestPrefix jobs outcome limit count ∧
      ranJobs jobs past = jobs.zipIdx.take count := by
  obtain ⟨count, shortest⟩ := settings.exists_shortestPrefix jobs outcome limit
  refine ⟨count, shortest, ?_⟩
  have ended_iff (entry : Job × Nat) (member : entry ∈ jobs.zipIdx) :
      entry.2 ∈ endedJobs past ↔ entry.2 < count := by
    have listed := List.mem_zipIdx_iff_getElem?.mp member
    have inside := (List.getElem?_eq_some_iff.mp listed).1
    obtain ⟨phase, here⟩ := traced.exists_phase listed
    have skipped := sequential.skipped entry.2 (by simpa [order] using inside)
    have settled := List.all_eq_true.mp complete phase (List.mem_of_getElem? here)
    rw [here, Option.some.injEq] at skipped
    rw [traced.mem_endedJobs_iff listed here, shortest.lt_iff inside, ← Nat.not_le, ← skipped]
    cases phase with
    | finished executed => simp [JobPhase.result?]
    | skipped => simp [JobPhase.result?]
    | waiting | running | failing => contradiction
  have front : (jobs.zipIdx.take count).filter (fun entry => entry.2 ∈ endedJobs past) =
      jobs.zipIdx.take count := List.filter_eq_self.mpr fun entry member =>
    decide_eq_true ((ended_iff entry (List.mem_of_mem_take member)).mpr
      (lt_of_mem_take_zipIdx member))
  have back : (jobs.zipIdx.drop count).filter (fun entry => entry.2 ∈ endedJobs past) = [] := by
    refine List.filter_eq_nil_iff.mpr fun entry member => ?_
    rw [decide_eq_true_eq, ended_iff entry (List.mem_of_mem_drop member), Nat.not_lt]
    exact le_of_mem_drop_zipIdx member
  calc ranJobs jobs past
      = (jobs.zipIdx.take count ++ jobs.zipIdx.drop count).filter
          fun entry => entry.2 ∈ endedJobs past := by rw [List.take_append_drop, ranJobs]
    _ = jobs.zipIdx.take count := by rw [List.filter_append, front, back, List.append_nil]

end Progress

end CopyOracle
