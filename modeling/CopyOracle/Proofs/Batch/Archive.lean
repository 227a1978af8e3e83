import CopyOracle.Proofs.Batch.Execution
import CopyOracle.Proofs.File.Directory
import CopyOracle.Proofs.Job
/-!
# What a batch keeps in its archive

The input of a run that failed is written to the archive under the file name of its job. It stays
there as it was written, through all later runs and until the batch has removed its own directory,
as long as no other job has that file name and the solver leaves the archive alone. File names of
jobs that only differ in where the source ends are equal, and then the later input replaces the
earlier one. What else a solver does to the files is left to the launcher.
-/

namespace CopyOracle

namespace Batch

open FileTree (SameAt PlainName)

/-- The place of the scratch directory. -/
def scratchPlace : Place := ["tmp", "copy-oracle"]

/-- The path of the input file of a job at a place among the jobs. -/
def inputPath (index : Nat) (job : Job) : String :=
  Path.join scratchDirectory (inputName index job.algorithm)

/-- The path at which the input of a job is kept. -/
def keptPath (directory : String) (job : Job) : String := Path.join directory job.archiveFile

/-- The name of an input file is plain. -/
theorem plain_inputName (index : Nat) (algorithm : Algorithm) :
    PlainName (inputName index algorithm) := by
  have long : 2 < (inputName index algorithm).toList.length := by
    cases algorithm <;> simp [inputName, Algorithm.name] <;> omega
  have whole : '/' ∉ (inputName index algorithm).toList := by
    have digits : '/' ∉ Numeral.digits index := fun member =>
      absurd (Numeral.isDigit_of_mem_digits member) (by decide)
    cases algorithm <;> simp [inputName, Algorithm.name, digits] <;> decide
  refine ⟨whole, ?_, ?_, ?_⟩ <;> intro same <;> simp [same] at long

/-- Input files stand in the scratch directory. -/
theorem aim_inputPath (files : FileTree) (index : Nat) (job : Job) :
    files.aim (inputPath index job) = scratchPlace ++ [inputName index job.algorithm] := by
  rw [inputPath, (plain_inputName index job.algorithm).aim_join]
  congr 1

/-- The places on the ways to the kept inputs of jobs and at their ends. -/
def ArchivePlace (jobs : List Job) (directory : String) (files : FileTree) (place : Place) : Prop :=
  ∃ job ∈ jobs, place ∈ files.way (keptPath directory job) ∨
    place = files.aim (keptPath directory job)

section Reliance

variable (launcher : Launcher) (batch : Batch) (jobs : List Job) (directory : String)
  (before : FileTree)

/-- The files that a batch may leave between two of its steps. -/
inductive Leaves : FileTree → Prop
  /-- Its directories are made. -/
  | prepared {files : FileTree} (given : batch.prepare.Gives before () files) : Leaves files
  /-- A job was run. -/
  | launched {files after : FileTree} {index : Nat} {job : Job} {outcome : RunOutcome}
    (left : Leaves files) (listed : jobs[index]? = some job)
    (given : (batch.launch launcher index job).Gives files outcome after) : Leaves after
  /-- The input of a run that failed was kept. -/
  | archived {files after : FileTree} {index : Nat} {job : Job} {outcome : RunOutcome}
    (left : Leaves files) (listed : jobs[index]? = some job)
    (given : (batch.archive job outcome).Gives files () after) : Leaves after

/-- What a batch relies on for its archive. -/
structure Undisturbed : Prop where
  /-- The sources and the names of the jobs are names of files. -/
  plain : ∀ job ∈ jobs, '/' ∉ job.source.toList ∧ '/' ∉ job.name.toList
  /-- The archive is not reached through the scratch directory, which is removed at the end. -/
  outside : ∀ job ∈ jobs, ∀ place ∈ before.way (keptPath directory job), ¬scratchPlace <+: place
  /-- No device stands where an input is to be kept. -/
  ordinary : ∀ job ∈ jobs, ∀ device,
    before.get? (before.aim (keptPath directory job)) ≠ some (.device device)
  /-- The solver, which is run on the input of a job, changes nothing in the archive. -/
  spared : ∀ {files given : FileTree} {index : Nat} {job : Job},
    Leaves launcher batch jobs before files → jobs[index]? = some job →
    files.writeText (inputPath index job) job.input.text = .ok given →
    ∀ place, ArchivePlace jobs directory before place →
      ((batch.solver.run launcher (inputPath index job) job.algorithm).run given).2.get? place =
        given.get? place

end Reliance

variable {launcher : Launcher} {batch : Batch} {jobs : List Job} {directory : String}
  {before files after : FileTree} {index : Nat} {job : Job} {outcome : RunOutcome}

namespace Undisturbed

variable (calm : Undisturbed launcher batch jobs directory before)

include calm

/-- The file names of the jobs are plain. -/
theorem plainName (member : job ∈ jobs) : PlainName job.archiveFile := by
  obtain ⟨source, name⟩ := calm.plain job member
  have first := job.head?_archiveFile
  refine ⟨Job.slash_not_mem_archiveFile source name, ?_, ?_, ?_⟩ <;> intro same <;>
    simp [same] at first

/-- No place of the archive is in the scratch directory. -/
theorem outside_scratch {place : Place} (kept : ArchivePlace jobs directory before place) :
    ¬scratchPlace <+: place := by
  obtain ⟨job, member, passed | rfl⟩ := kept
  · exact calm.outside job member place passed
  · have plain := calm.plainName member
    intro inside
    rw [keptPath, plain.aim_join, List.prefix_concat_iff] at inside
    rcases inside with whole | above
    · have last := congrArg List.getLast? whole
      rw [List.getLast?_concat] at last
      have first := job.head?_archiveFile
      rw [← Option.some.inj last] at first
      simp at first
    · refine calm.outside job member _ ?_ above
      rw [keptPath, plain.way_join]
      exact List.mem_append_right _ (List.mem_singleton.mpr rfl)

/-- Running a job changes nothing in the archive. -/
theorem sameAt_launch (left : Leaves launcher batch jobs before files)
    (listed : jobs[index]? = some job)
    (given : (batch.launch launcher index job).Gives files outcome after) :
    SameAt (ArchivePlace jobs directory before) files after := by
  obtain ⟨⟨⟩, started, written, running⟩ := FileAction.gives_bind_iff.mp given
  obtain ⟨_, ended, ran, cleaning⟩ := FileAction.gives_bind_iff.mp running
  obtain ⟨⟨⟩, cleaned, removed, returned⟩ := FileAction.gives_bind_iff.mp cleaning
  have write := FileAction.gives_change_iff.mp written
  have run := FileAction.gives_lift_iff.mp ran
  obtain rfl := FileAction.gives_modify_iff.mp removed
  obtain ⟨-, rfl⟩ := FileAction.gives_pure_iff.mp returned
  -- The three steps change files in the scratch directory only, and the solver spares the archive.
  have first : SameAt (ArchivePlace jobs directory before) files started :=
    (FileTree.sameAt_of_writeText write).mono fun place kept same => calm.outside_scratch kept
      (same.trans (aim_inputPath files index job) ▸ List.prefix_append ..)
  have second : SameAt (ArchivePlace jobs directory before) started ended := by
    obtain rfl := congrArg Prod.snd run
    exact ⟨launcher.home .., calm.spared left listed write⟩
  have third : SameAt (ArchivePlace jobs directory before) ended _ :=
    (FileTree.sameAt_remove ended (inputPath index job)).mono fun place kept below =>
      calm.outside_scratch kept
        ((List.prefix_append ..).trans (aim_inputPath ended index job ▸ below))
  exact (first.trans second).trans third

/-- Running a job changes nothing that is read in the archive. -/
theorem readText_launch (home : files.workingDirectory = before.workingDirectory)
    (left : Leaves launcher batch jobs before files) (listed : jobs[index]? = some job)
    (given : (batch.launch launcher index job).Gives files outcome after) {other : Job}
    (member : other ∈ jobs) :
    after.readText (keptPath directory other) = files.readText (keptPath directory other) := by
  refine (calm.sameAt_launch left listed given).readText (fun middle passed => ?_) ?_
  · exact ⟨other, member, .inl (FileTree.way_congr home _ ▸ passed)⟩
  · exact ⟨other, member, .inr (FileTree.aim_congr home _)⟩

/-- Keeping the input of a job changes nothing that is read under other file names. -/
theorem readText_write {text : String} (own : job ∈ jobs)
    (written : files.writeText (keptPath directory job) text = .ok after) {other : Job}
    (member : other ∈ jobs) (apart : other.archiveFile ≠ job.archiveFile) :
    after.readText (keptPath directory other) = files.readText (keptPath directory other) := by
  exact (calm.plainName own).readText_of_writeText (calm.plainName member) apart written

end Undisturbed

/-- The input of a job is kept at its path in the archive when its run failed. -/
theorem archive_cases (kept : batch.settings.archive = some directory)
    (given : (batch.archive job outcome).Gives files () after) :
    ((batch.settings.judge job outcome).archived = none ∧ files = after) ∨
    ((batch.settings.judge job outcome).archived = some (keptPath directory job) ∧
      files.writeText (keptPath directory job) job.input.text = .ok after) := by
  have place : (batch.settings.judge job outcome).archived = none ∨
      (batch.settings.judge job outcome).archived = some (keptPath directory job) := by
    rw [BatchSettings.judge, kept]
    dsimp only
    split
    · exact .inl rfl
    · exact .inr rfl
  rw [archive] at given
  rcases place with none | some
  · rw [none] at given
    exact .inl ⟨none, (FileAction.gives_pure_iff.mp given).2⟩
  · rw [some] at given
    exact .inr ⟨some, FileAction.gives_change_iff.mp given⟩

/-- So many jobs from the front have been taken, and the inputs of those that failed are kept. -/
structure Keeping (launcher : Launcher) (batch : Batch) (jobs : List Job) (directory : String)
    (before : FileTree) (count : Nat) (progress : Progress) (files : FileTree) : Prop where
  /-- The files are those that the steps of the batch left. -/
  left : Leaves launcher batch jobs before files
  /-- The working directory is the same. -/
  home : files.workingDirectory = before.workingDirectory
  /-- No device stands where an input is to be kept. -/
  ordinary : ∀ job ∈ jobs, ∀ device,
    files.get? (files.aim (keptPath directory job)) ≠ some (.device device)
  /-- Each job has a phase. -/
  length : progress.phases.length = jobs.length
  /-- The other jobs wait. -/
  waiting : ∀ index, count ≤ index → index < jobs.length →
    progress.phases[index]? = some .waiting
  /-- What is kept for a job that ran is its input. -/
  held : ∀ {index : Nat} {job : Job} {phase : JobPhase} {executed : Executed} {path : String},
    jobs[index]? = some job → progress.phases[index]? = some phase →
    phase.result? = some executed → executed.archived = some path →
    path = keptPath directory job ∧ files.readText path = .ok job.input.text

/-- Jobs at different places have different file names. -/
theorem archiveFile_ne_of_nodup (distinct : (jobs.map Job.archiveFile).Nodup) {left right : Job}
    {first second : Nat} (here : jobs[first]? = some left) (there : jobs[second]? = some right)
    (apart : first ≠ second) : left.archiveFile ≠ right.archiveFile := by
  intro same
  have inside : first < (jobs.map Job.archiveFile).length := by
    rw [List.length_map]
    exact (List.getElem?_eq_some_iff.mp here).1
  refine apart ((List.getElem?_inj inside distinct).mp ?_)
  rw [List.getElem?_map, List.getElem?_map, here, there, Option.map_some, Option.map_some, same]

section Run

variable {count : Nat} {progress next : Progress}

/-- Before the first job nothing is kept. -/
theorem keeping_start (calm : Undisturbed launcher batch jobs directory before)
    (kept : batch.settings.archive = some directory) (stopped : Bool)
    (given : batch.prepare.Gives before () files) :
    Keeping launcher batch jobs directory before 0
      { Progress.start jobs with stopped := stopped } files := by
  obtain ⟨⟨⟩, between, scratch, archive⟩ := FileAction.gives_bind_iff.mp given
  rw [kept] at archive
  have grown := (FileTree.grown_of_makeDirectories (FileAction.gives_change_iff.mp scratch)).trans
    (FileTree.grown_of_makeDirectories (FileAction.gives_change_iff.mp archive))
  refine ⟨.prepared given, grown.home, fun job member device stands => ?_, List.length_map ..,
    fun index _ inside => ?_, fun {index} _ _ _ _ _ here ran _ => ?_⟩
  · rw [FileTree.aim_congr grown.home] at stands
    exact calm.ordinary job member device (grown.device stands)
  · simp [Progress.start, inside]
  · obtain ⟨_, _, rfl⟩ := List.mem_map.mp (List.mem_of_getElem? here)
    contradiction

/-- One more job is taken, whose phase is set. -/
theorem Keeping.extend
    (keeping : Keeping launcher batch jobs directory before count progress files)
    (listed : jobs[count]? = some job) {phase : JobPhase}
    (moved : next.phases = progress.phases.set count phase)
    (left : Leaves launcher batch jobs before after)
    (home : after.workingDirectory = before.workingDirectory)
    (ordinary : ∀ job ∈ jobs, ∀ device,
      after.get? (after.aim (keptPath directory job)) ≠ some (.device device))
    (others : ∀ {index : Nat} {other : Job}, jobs[index]? = some other → index ≠ count →
      after.readText (keptPath directory other) = files.readText (keptPath directory other))
    (own : ∀ {executed : Executed} {path : String}, phase.result? = some executed →
      executed.archived = some path →
      path = keptPath directory job ∧ after.readText path = .ok job.input.text) :
    Keeping launcher batch jobs directory before (count + 1) next after where
  left := left
  home := home
  ordinary := ordinary
  length := by rw [moved, List.length_set, keeping.length]
  waiting index later inside := by
    rw [moved, List.getElem?_set_ne (by omega)]
    exact keeping.waiting index (by omega) inside
  held {index other standing executed path} here there ran kept := by
    rw [moved, List.getElem?_set] at there
    split at there
    · next same =>
      obtain ⟨_, set⟩ := Option.ite_none_right_eq_some.mp there
      obtain rfl := Option.some.inj set
      subst same
      obtain rfl := Option.some.inj (listed.symm.trans here)
      exact own ran kept
    · next different =>
      obtain ⟨rfl, readable⟩ := keeping.held here there ran kept
      exact ⟨rfl, (others here (Ne.symm different)).trans readable⟩

/-- Taking a job keeps what is kept, and its own input if it fails. -/
theorem Keeping.runJob
    (keeping : Keeping launcher batch jobs directory before count progress files)
    (calm : Undisturbed launcher batch jobs directory before)
    (workers : 0 < batch.settings.workers)
    (kept : batch.settings.archive = some directory) (distinct : (jobs.map Job.archiveFile).Nodup)
    (listed : jobs[count]? = some job)
    (given : (batch.runJob launcher jobs progress job count).Gives files next after) :
    Keeping launcher batch jobs directory before (count + 1) next after := by
  have among := (List.getElem?_eq_some_iff.mp listed).1
  have waiting := keeping.waiting count (Nat.le_refl _) among
  obtain ⟨-, rfl, rfl⟩ | ⟨-, rfl, rfl⟩ | ⟨-, outcome, between, ran, archiving, ended⟩ :=
    runJob_cases waiting given
  · exact { keeping with waiting := fun index later => keeping.waiting index (by omega) }
  · exact keeping.extend listed rfl keeping.left keeping.home keeping.ordinary
      (fun _ _ => rfl) nofun
  · have running := Progress.phases_move_self waiting .running
    obtain ⟨-, -, -, phases⟩ := exists_finished workers running listed ended
    have moved : next.phases = progress.phases.set count (.finished _) :=
      phases.trans (List.set_set ..)
    have same := calm.sameAt_launch keeping.left listed ran
    have left := (keeping.left.launched listed ran).archived listed archiving
    have home := same.home.trans keeping.home
    have ordinary : ∀ other ∈ jobs, ∀ device,
        between.get? (between.aim (keptPath directory other)) ≠ some (.device device) := by
      intro other member device
      rw [same.stands _ ⟨other, member, .inr (FileTree.aim_congr home _)⟩,
        FileTree.aim_congr same.home]
      exact keeping.ordinary other member device
    obtain ⟨none, rfl⟩ | ⟨some, written⟩ := archive_cases kept archiving
    · refine keeping.extend listed moved left home ordinary (fun there _ => ?_)
        fun result kept => ?_
      · exact calm.readText_launch keeping.home keeping.left listed ran (List.mem_of_getElem? there)
      · obtain rfl := Option.some.inj result
        exact nomatch none.symm.trans kept
    · have still := (FileTree.sameAt_of_writeText written).home
      refine keeping.extend listed moved left (still.trans home)
        (fun other member device stands => ?_) (fun there apart => ?_) fun result kept => ?_
      · rw [FileTree.aim_congr still] at stands
        exact ordinary other member device (FileTree.device_of_writeText written stands)
      · have member := List.mem_of_getElem? there
        rw [calm.readText_write (List.mem_of_getElem? listed) written member
          (archiveFile_ne_of_nodup distinct there listed apart)]
        exact calm.readText_launch keeping.home keeping.left listed ran member
      · obtain rfl := Option.some.inj result
        obtain rfl := Option.some.inj (some.symm.trans kept)
        exact ⟨rfl, FileTree.readText_of_writeText written
          (ordinary job (List.mem_of_getElem? listed))⟩

/-- The kept inputs of a report are those of the jobs that ran and failed. -/
theorem archived_report (progress : Progress) :
    progress.report.archived = progress.phases.filterMap fun phase =>
      phase.result?.bind Executed.archived := by
  simp only [Progress.report, BatchReport.ofResults, List.filterMap_map, List.filterMap_filterMap]
  rfl

/-- At the end of a batch whose jobs have different file names, each kept input is read back at its
own path. -/
theorem keeping_run (calm : Undisturbed launcher batch jobs directory before)
    (workers : 0 < batch.settings.workers) (kept : batch.settings.archive = some directory)
    (distinct : (jobs.map Job.archiveFile).Nodup) {stopped : Bool}
    (given : (batch.run launcher jobs stopped).Gives before progress after) :
    ∃ files, Keeping launcher batch jobs directory before jobs.length progress files ∧
      after = files.remove scratchDirectory := by
  obtain ⟨⟨⟩, prepared, preparing, running⟩ := FileAction.gives_bind_iff.mp given
  obtain ⟨files, ⟨⟩, ranAll, removing⟩ := FileAction.gives_tryFinally_iff.mp running
  refine ⟨files, ?_, (FileAction.gives_modify_iff.mp removing).symm⟩
  exact FileAction.gives_foldlM_zipIdx (Keeping launcher batch jobs directory before)
    (fun listed keeping given => keeping.runJob calm workers kept distinct listed given)
    List.drop_zero (Nat.zero_le _) (keeping_start calm kept stopped preparing) ranAll

/-- Different jobs keep their inputs at different paths. -/
theorem Keeping.nodup_archived
    (keeping : Keeping launcher batch jobs directory before jobs.length progress files)
    (calm : Undisturbed launcher batch jobs directory before)
    (distinct : (jobs.map Job.archiveFile).Nodup) :
    progress.report.archived.Nodup := by
  rw [archived_report, List.Nodup, List.pairwise_filterMap, List.pairwise_iff_getElem]
  intro first second inside inside' before' path kept path' kept' same
  obtain ⟨executed, ran, archived⟩ := Option.bind_eq_some_iff.mp kept
  obtain ⟨executed', ran', archived'⟩ := Option.bind_eq_some_iff.mp kept'
  have here : first < jobs.length := keeping.length ▸ inside
  have there : second < jobs.length := keeping.length ▸ inside'
  have listed := List.getElem?_eq_getElem here
  have listed' := List.getElem?_eq_getElem there
  obtain ⟨rfl, -⟩ := keeping.held listed (List.getElem?_eq_getElem inside) ran archived
  obtain ⟨rfl, -⟩ := keeping.held listed' (List.getElem?_eq_getElem inside') ran' archived'
  refine archiveFile_ne_of_nodup distinct listed listed' (Nat.ne_of_lt before') ?_
  have plain := calm.plainName (List.getElem_mem here)
  have plain' := calm.plainName (List.getElem_mem there)
  exact (plain.aim_join_inj plain' before directory).mp (congrArg before.aim same)

/-- File names tell jobs apart exactly as far as the text that joins source and name does, and so
they tell all cases apart whose sources hold no underscore. In a batch whose jobs are told apart,
and whose solver leaves the archive alone, no input of a run that failed is replaced: the kept paths
are different, and each holds the input of its own job. The run is that of one worker whatever the
settings say, so this is about one order of writes, that of the jobs; the file names are the same in
every order. -/
theorem archive_holds_inputs (calm : Undisturbed launcher batch jobs directory before)
    (workers : 0 < batch.settings.workers) (kept : batch.settings.archive = some directory)
    {stopped : Bool} (given : (batch.run launcher jobs stopped).Gives before progress after) :
    (∀ left right : Job, left.archiveFile ≠ right.archiveFile ↔ left.Apart right) ∧
    (∀ left right : Job, left.Differs right → '_' ∉ left.source.toList →
      '_' ∉ right.source.toList → left.Apart right) ∧
    (jobs.Pairwise Job.Apart →
      progress.report.archived.Nodup ∧
      ∀ path ∈ progress.report.archived, ∃ (index : Nat) (job : Job) (executed : Executed),
        jobs[index]? = some job ∧
        progress.phases[index]?.bind JobPhase.result? = some executed ∧
        executed.archived = some path ∧ path = Path.join directory job.archiveFile ∧
        after.readText path = .ok job.input.text) := by
  refine ⟨fun _ _ => Job.archiveFile_ne_iff, fun _ _ => Job.Differs.apart, fun apart => ?_⟩
  have distinct : (jobs.map Job.archiveFile).Nodup :=
    List.pairwise_map.mpr (apart.imp Job.archiveFile_ne_iff.mpr)
  obtain ⟨files, keeping, rfl⟩ := keeping_run calm workers kept distinct given
  refine ⟨keeping.nodup_archived calm distinct, fun path member => ?_⟩
  rw [archived_report, List.mem_filterMap] at member
  obtain ⟨phase, settled, found⟩ := member
  obtain ⟨executed, ran, archived⟩ := Option.bind_eq_some_iff.mp found
  obtain ⟨index, there⟩ := List.mem_iff_getElem?.mp settled
  have inside := (List.getElem?_eq_some_iff.mp there).1
  have listed := List.getElem?_eq_getElem (keeping.length ▸ inside)
  obtain ⟨rfl, readable⟩ := keeping.held listed there ran archived
  refine ⟨index, _, executed, listed, by rw [there]; exact ran, archived, rfl, ?_⟩
  rw [← readable]
  have own := List.mem_of_getElem? listed
  refine (FileTree.sameAt_remove files scratchDirectory).readText (fun middle passed => ?_) ?_
  · exact calm.outside_scratch ⟨_, own, .inl (FileTree.way_congr keeping.home _ ▸ passed)⟩
  · exact calm.outside_scratch ⟨_, own, .inr (FileTree.aim_congr keeping.home _)⟩

end Run

/-- The launcher of a system without programs: none is found, and no files are changed. -/
def noPrograms : Launcher where
  launch program _ _ := pure (.failed .spawnFailed s!"{program}: {FileError.notFound.message}")
  home _ _ _ _ := rfl

/-- Three runs fail, two of cases with one name and one of a random case, and their inputs are kept
apart. -/
theorem archive_holds_inputs_three :
    let batch : Batch := ⟨{ program := "solver" }, { archive := some "kept" }⟩
    let files : FileTree := ⟨[(["work"], .directory)], ["work"]⟩
    let jobs : List Job :=
      [⟨"path", "tricky", none, .exact, .parse "x"⟩, ⟨"path", "dense", none, .exact, .parse "y"⟩,
        ⟨"fuzz_7", "fuzz", some 7, .approximate, .parse "z"⟩]
    ∃ progress after, (batch.run noPrograms jobs false).Gives files progress after ∧
      progress.report.archived = ["kept/fail_tricky_path_exact.txt",
        "kept/fail_dense_path_exact.txt", "kept/fuzz_fail_7_approx.txt"] ∧
      ∀ path ∈ progress.report.archived, ∃ job ∈ jobs,
        after.readText path = .ok job.input.text := by
  intro batch files jobs
  have report : ((batch.run noPrograms jobs false).outcome files).1.map (·.report.archived) =
      .ok ["kept/fail_tricky_path_exact.txt", "kept/fail_dense_path_exact.txt",
        "kept/fuzz_fail_7_approx.txt"] := by decide +kernel
  have free : ∀ job ∈ jobs, files.get? (files.aim (keptPath "kept" job)) = none := by decide
  have calm : Undisturbed noPrograms batch jobs "kept" files :=
    { plain := by decide
      outside := by decide
      ordinary := fun job member _ stands => nomatch (free job member).symm.trans stands
      spared := fun _ _ _ _ _ => rfl }
  rcases ran : (batch.run noPrograms jobs false).outcome files with ⟨fault | progress, after⟩
  · rw [ran] at report
    exact nomatch report
  · rw [ran] at report
    obtain ⟨-, -, holds⟩ := archive_holds_inputs calm (by decide) rfl ran
    obtain ⟨-, held⟩ := holds (by decide)
    refine ⟨progress, after, ran, Except.ok.inj report, fun path member => ?_⟩
    obtain ⟨_, job, _, listed, -, -, -, readable⟩ := held path member
    exact ⟨job, List.mem_of_getElem? listed, readable⟩

/-- The case `b_c` of the source `a` and the case `c` of the source `a_b` have one file name. When
the runs of both fail, both inputs are reported as kept, and only the second one is there. -/
theorem archive_replaces_joined :
    let batch : Batch := ⟨{ program := "solver" }, { archive := some "kept" }⟩
    let files : FileTree := ⟨[(["work"], .directory)], ["work"]⟩
    let first : Job := ⟨"b_c", "a", none, .exact, .parse "x"⟩
    let second : Job := ⟨"c", "a_b", none, .exact, .parse "y"⟩
    first.Differs second ∧ first.archiveFile = second.archiveFile ∧
    ∃ progress after, (batch.run noPrograms [first, second] false).Gives files progress after ∧
      progress.report.archived = ["kept/fail_a_b_c_exact.txt", "kept/fail_a_b_c_exact.txt"] ∧
      after.readText "kept/fail_a_b_c_exact.txt" = .ok second.input.text ∧
      first.input.text ≠ second.input.text := by
  intro batch files first second
  have report :
      ((batch.run noPrograms [first, second] false).outcome files).1.map (·.report.archived) =
        .ok ["kept/fail_a_b_c_exact.txt", "kept/fail_a_b_c_exact.txt"] := by decide +kernel
  have left : ((batch.run noPrograms [first, second] false).outcome files).2.readText
      "kept/fail_a_b_c_exact.txt" = .ok second.input.text := by decide +kernel
  refine ⟨by simp [Job.Differs, first, second], by decide +kernel, ?_⟩
  rcases ran : (batch.run noPrograms [first, second] false).outcome files with
    ⟨fault | progress, after⟩
  · rw [ran] at report
    exact nomatch report
  · rw [ran] at report left
    exact ⟨progress, after, ran, Except.ok.inj report, left, by decide +kernel⟩

end Batch

end CopyOracle
