import CopyOracle.Proofs.Case.Input
import CopyOracle.Proofs.Corpus.Name
import CopyOracle.Proofs.File.Action
import CopyOracle.Proofs.File.Directory
import CopyOracle.Proofs.Text.Order
/-!
# Written corpora are loaded

`Stored` says that the files of cases in a directory are those of a list of cases. Writing a case
adds it to the list, and a file that is none of a case changes nothing there. A directory that is
`Stored` is loaded as one entry for each case, in the order of the bytes of the file names, whatever
the order in which the files were written.

A directory may also hold something before. Then a case replaces what stands in its own file, and
still no later case replaces the file of an earlier one; only a device keeps nothing of what is
written to it.
-/

namespace CopyOracle.Corpus

open FileTree

variable {files tree later : FileTree} {directory name : String} {place : Place}
  {cases rest : List GeneratedCase} {generated : GeneratedCase}

/-- A directory has no files, once it is there. -/
inductive Vacant (files : FileTree) (directory : String) : Prop
  /-- It is there and empty. -/
  | empty (listed : files.list directory = .ok [])
  /-- It is made, with those above it, and is empty then. -/
  | missing {made : FileTree} (grown : files.makeDirectoryAll directory = .ok made)
    (listed : made.list directory = .ok [])

/-- Making a vacant directory gives an empty one. -/
theorem Vacant.made (vacant : Vacant files directory) : ∃ made place,
    files.makeDirectoryAll directory = .ok made ∧ made.Leads directory place ∧
      made.namesAt place = [] := by
  cases vacant with
  | empty listed =>
    obtain ⟨place, leads, none⟩ := list_eq_ok_iff.mp listed
    exact ⟨files, place, leads.makeDirectoryAll, leads, none⟩
  | missing grown listed =>
    obtain ⟨place, leads, none⟩ := list_eq_ok_iff.mp listed
    exact ⟨_, place, grown, leads, none⟩

/-- The directory at the place holds the cases, each in its file, and no other file of a case. -/
structure Stored (tree : FileTree) (directory : String) (place : Place)
    (cases : List GeneratedCase) : Prop where
  /-- The path leads to the directory. -/
  leads : tree.Leads directory place
  /-- The files of cases are those of the cases. -/
  names : (tree.namesAt place).filter isCaseName = cases.map fun generated => fileOf generated.name
  /-- The files can be asked for. -/
  fits : ∀ generated ∈ cases, Fits directory (fileOf generated.name)
  /-- Each holds its case. -/
  contents : ∀ generated ∈ cases, ∃ isExecutable, tree.get? (place ++ [fileOf generated.name]) =
    some (.file generated.problem.render.toUTF8 isExecutable)

/-- The tree with a case in its file in a directory. -/
def store (place : Place) (tree : FileTree) (generated : GeneratedCase) : FileTree :=
  tree.put (place ++ [fileOf generated.name]) (.file generated.problem.render.toUTF8)

/-- The entry of a case in a corpus of the source. -/
def entryOf (source : String) (generated : GeneratedCase) : CorpusEntry :=
  ⟨generated.name, source, .wellFormed generated.problem⟩

/-- The entries are those of the cases in the directory, in the order of their files. -/
structure EntriesOf (directory : String) (cases : List GeneratedCase)
    (entries : List CorpusEntry) : Prop where
  /-- There is one for each case, of its name and the source of the directory, and with the case. -/
  each : ∃ source, SourceOf directory source ∧ entries.Perm (cases.map (entryOf source))
  /-- The bytes of the names of their files ascend. -/
  ordered : entries.Pairwise fun left right =>
    (fileOf left.name).toUTF8.data.toList < (fileOf right.name).toUTF8.data.toList

/-- The cases in the order of the names of their files. -/
def sorted (cases : List GeneratedCase) : List GeneratedCase :=
  cases.mergeSort fun left right => decide (fileOf left.name ≤ fileOf right.name)

/-- Of cases with different names the next one has a new name. -/
theorem new_of_nodup (distinct : ((cases ++ generated :: rest).map (·.name)).Nodup) :
    generated.name ∉ cases.map (·.name) := fun member => by
  rw [List.map_append, List.map_cons, List.nodup_append] at distinct
  exact distinct.2.2 _ member _ List.mem_cons_self rfl

/-- The tree with more files in a directory, written one after the other. -/
def addFiles (directory : String) (others : List (String × ByteArray)) (tree : FileTree) :
    Except FileError FileTree :=
  others.foldlM (fun tree (name, content) => tree.writeBytes (Path.join directory name) content) tree

namespace Stored

/-- The file of a case there is one of the corpus. -/
theorem isCaseName (stored : Stored tree directory place cases) (own : generated ∈ cases) :
    isCaseName (fileOf generated.name) = true := by
  have listed : fileOf generated.name ∈ cases.map fun generated => fileOf generated.name :=
    List.mem_map_of_mem own
  rw [← stored.names] at listed
  exact (List.mem_filter.mp listed).2

/-- What is put under another name leaves the cases in their files. -/
theorem contents_put (stored : Stored tree directory place cases)
    (apart : ∀ generated ∈ cases, fileOf generated.name ≠ name) (entry : FileEntry) :
    ∀ generated ∈ cases, ∃ isExecutable,
      (tree.put (place ++ [name]) entry).get? (place ++ [fileOf generated.name]) =
        some (.file generated.problem.render.toUTF8 isExecutable) := fun generated own => by
  obtain ⟨isExecutable, stands⟩ := stored.contents generated own
  have elsewhere : place ++ [fileOf generated.name] ≠ place ++ [name] := fun same =>
    apart generated own (List.cons.inj (List.append_cancel_left same)).1
  exact ⟨isExecutable, (get?_put_of_ne elsewhere entry).trans stands⟩

/-- Nothing stands where the file of a case of a new name belongs. -/
theorem free (stored : Stored tree directory place cases) (storable : StorableName generated.name)
    (new : generated.name ∉ cases.map (·.name)) :
    tree.get? (place ++ [fileOf generated.name]) = none := by
  by_contra occupied
  have listed := List.mem_filter.mpr ⟨mem_namesAt_iff.mpr occupied, storable.isCaseName⟩
  rw [stored.names, List.mem_map] at listed
  obtain ⟨other, own, same⟩ := listed
  exact new (List.mem_map.mpr ⟨other, own, fileOf_injective same⟩)

/-- A case of a new name is written exactly when its file fits. -/
theorem gives_writeCase_iff (stored : Stored tree directory place cases)
    (storable : StorableName generated.name) (new : generated.name ∉ cases.map (·.name)) :
    (writeCase directory generated).Gives tree () later ↔
      Fits directory (fileOf generated.name) ∧ later = store place tree generated := by
  rw [writeCase, FileAction.gives_change_iff]
  exact stored.leads.writeBytes_join storable.plain (stored.free storable new)

/-- A case of a new name that is written is one more. -/
theorem extend (stored : Stored tree directory place cases)
    (storable : StorableName generated.name) (new : generated.name ∉ cases.map (·.name))
    (fits : Fits directory (fileOf generated.name)) :
    Stored (store place tree generated) directory place (cases ++ [generated]) := by
  have free := stored.free storable new
  have unlisted : fileOf generated.name ∉ tree.namesAt place := fun listed =>
    mem_namesAt_iff.mp listed free
  have apart : ∀ other ∈ cases, fileOf other.name ≠ fileOf generated.name := fun other own same =>
    new (List.mem_map.mpr ⟨other, own, fileOf_injective same⟩)
  refine ⟨stored.leads.put (by rw [free]; exact nofun) _, ?_, ?_, ?_⟩
  · rw [store, namesAt_put, if_neg unlisted, List.filter_append, stored.names,
      List.filter_singleton, storable.isCaseName, List.map_append]
    rfl
  · exact List.forall_mem_append.mpr ⟨stored.fits, List.forall_mem_singleton.mpr fits⟩
  · exact List.forall_mem_append.mpr ⟨stored.contents_put apart _,
      List.forall_mem_singleton.mpr ⟨false, get?_put_self (by simp) _⟩⟩

/-- Cases of new names that are written one after the other are so many more. -/
theorem extend_all (stored : Stored tree directory place cases)
    (storable : ∀ generated ∈ rest, StorableName generated.name)
    (distinct : ((cases ++ rest).map (·.name)).Nodup)
    (fits : ∀ generated ∈ rest, Fits directory (fileOf generated.name)) :
    Stored (rest.foldl (store place) tree) directory place (cases ++ rest) := by
  induction rest generalizing tree cases with
  | nil => rwa [List.append_nil]
  | cons generated rest ih =>
    obtain ⟨named, others⟩ := List.forall_mem_cons.mp storable
    obtain ⟨first, later⟩ := List.forall_mem_cons.mp fits
    have new := new_of_nodup distinct
    rw [List.append_cons] at distinct ⊢
    exact ih (stored.extend named new first) others distinct later

/-- Cases of new names are written one after the other exactly when all their files fit. -/
theorem gives_forM_iff (stored : Stored tree directory place cases)
    (storable : ∀ generated ∈ rest, StorableName generated.name)
    (distinct : ((cases ++ rest).map (·.name)).Nodup) :
    (rest.forM (writeCase directory)).Gives tree () later ↔
      (∀ generated ∈ rest, Fits directory (fileOf generated.name)) ∧
        later = rest.foldl (store place) tree := by
  -- The cases written so far are those of the invariant, so each next one meets a new name.
  induction rest generalizing tree cases with
  | nil =>
    rw [List.forM_eq_forM, List.forM_nil, FileAction.gives_pure_iff]
    simp [eq_comm]
  | cons generated rest ih =>
    obtain ⟨named, others⟩ := List.forall_mem_cons.mp storable
    have new := new_of_nodup distinct
    rw [List.append_cons] at distinct
    rw [List.forM_eq_forM, List.forM_cons, FileAction.gives_bind_iff, List.forall_mem_cons,
      List.foldl_cons]
    constructor
    · rintro ⟨_, between, first, last⟩
      obtain ⟨fits, rfl⟩ := (stored.gives_writeCase_iff named new).mp first
      obtain ⟨later, rfl⟩ := (ih (stored.extend named new fits) others distinct).mp last
      exact ⟨⟨fits, later⟩, rfl⟩
    · rintro ⟨⟨fits, later⟩, rfl⟩
      exact ⟨(), _, (stored.gives_writeCase_iff named new).mpr ⟨fits, rfl⟩,
        (ih (stored.extend named new fits) others distinct).mpr ⟨later, rfl⟩⟩

/-- A file that is none of a case changes nothing there. -/
theorem writeBytes_aside (stored : Stored tree directory place cases) (aside : AsideName name)
    {content : ByteArray}
    (written : tree.writeBytes (Path.join directory name) content = .ok later) :
    Stored later directory place cases := by
  have other : Corpus.isCaseName name = false := (isCaseName_eq_false_iff aside.plain).mpr aside
  obtain ⟨-, free, ⟨_, -, rfl⟩ | ⟨isExecutable, rfl⟩⟩ := of_writeBytes written
  · exact stored
  · rw [stored.leads.aim_join aside.plain] at free ⊢
    have apart : ∀ generated ∈ cases, fileOf generated.name ≠ name := fun generated own same => by
      have cased := stored.isCaseName own
      rw [same, other] at cased
      contradiction
    refine ⟨stored.leads.put free _, ?_, stored.fits, stored.contents_put apart _⟩
    rw [namesAt_put, List.filter_append, stored.names]
    split
    · exact List.append_nil _
    · rw [List.filter_singleton, other]
      exact List.append_nil _

/-- Files that are none of a case change nothing there. -/
theorem addFiles_aside (stored : Stored tree directory place cases)
    {others : List (String × ByteArray)} (aside : ∀ other ∈ others, AsideName other.1)
    (written : addFiles directory others tree = .ok later) :
    Stored later directory place cases := by
  induction others generalizing tree with
  | nil => exact Except.ok.inj written ▸ stored
  | cons other others ih =>
    obtain ⟨first, rest⟩ := List.forall_mem_cons.mp aside
    rw [addFiles, List.foldlM_cons] at written
    obtain ⟨between, here, last⟩ := bind_eq_ok_iff.mp written
    exact ih (stored.writeBytes_aside first here) rest last

/-- The files of cases are found in the order of their names. -/
theorem caseNames (stored : Stored tree directory place cases)
    (storable : ∀ generated ∈ cases, StorableName generated.name) :
    caseNames directory tree = .ok ((cases.map fun generated => fileOf generated.name).mergeSort
      fun left right => decide (left ≤ right)) := by
  have there : ∀ name ∈ cases.map fun generated => fileOf generated.name,
      tree.isFile (Path.join directory name) = true := by
    rw [List.forall_mem_map]
    intro generated own
    obtain ⟨_, stands⟩ := stored.contents generated own
    exact (stored.leads.readText_join (storable generated own).plain (stored.fits generated own)
      stands).1
  -- All files of cases are there, so asking for that after the names leaves none out.
  have kept : (tree.namesAt place).filter (fun name =>
      Corpus.isCaseName name && tree.isFile (Path.join directory name)) =
      cases.map fun generated => fileOf generated.name := by
    rw [← List.filter_filter, List.filter_comm, stored.names, List.filter_eq_self.mpr there]
  rw [Corpus.caseNames, list_eq_ok_iff.mpr ⟨place, stored.leads, rfl⟩, ← kept]
  rfl

/-- The entry of a case is read from its file. -/
theorem gives_readEntry (stored : Stored tree directory place cases) (own : generated ∈ cases)
    (storable : StorableName generated.name) (sized : generated.problem.WordSized) :
    (readEntry directory (fileOf generated.name)).Gives tree
      (entryOf (sourceOf directory) generated) tree := by
  obtain ⟨_, stands⟩ := stored.contents generated own
  have read := (stored.leads.readText_join storable.plain (stored.fits generated own) stands).2
  have parsed : JobInput.parse generated.problem.render = .wellFormed generated.problem := by
    rw [JobInput.parse, Case.parse, Case.render, String.toList_ofList, Case.read_write sized]
  have parted := splitExtension_eq_txt_iff.mpr ⟨storable.nonempty, rfl⟩
  refine FileAction.gives_bind_iff.mpr ⟨_, tree, FileAction.gives_inspect_iff.mpr ⟨read, rfl⟩,
    FileAction.gives_pure_iff.mpr ⟨?_, rfl⟩⟩
  rw [parsed, parted]
  rfl

/-- The cases are loaded in the order of their files. -/
theorem gives_load (stored : Stored tree directory place cases)
    (storable : ∀ generated ∈ cases, StorableName generated.name)
    (sized : ∀ generated ∈ cases, generated.problem.WordSized) :
    (load directory).Gives tree ((sorted cases).map (entryOf (sourceOf directory))) tree := by
  have listed : (cases.map fun generated => fileOf generated.name).mergeSort
      (fun left right => decide (left ≤ right)) =
      (sorted cases).map fun generated => fileOf generated.name := by
    refine (List.map_mergeSort ?_).symm
    exact fun _ _ _ _ => rfl
  have read : List.Forall₂ (fun name entry => (readEntry directory name).Gives tree entry tree)
      ((sorted cases).map fun generated => fileOf generated.name)
      ((sorted cases).map (entryOf (sourceOf directory))) := by
    rw [List.forall₂_map_left_iff, List.forall₂_map_right_iff, List.forall₂_same]
    intro generated member
    have own := List.mem_mergeSort.mp member
    exact stored.gives_readEntry own (storable generated own) (sized generated own)
  refine FileAction.gives_bind_iff.mpr ⟨tree, tree, FileAction.gives_get tree, ?_⟩
  rw [if_pos (isDirectory_eq_true_iff.mpr ⟨place, stored.leads⟩)]
  exact FileAction.gives_bind_iff.mpr ⟨_, tree, FileAction.gives_inspect_iff.mpr
    ⟨stored.caseNames storable, rfl⟩, listed ▸ FileAction.gives_mapM read⟩

end Stored

/-- Sorted cases of different names give their entries in order. -/
theorem entriesOf_sorted (directory : String) (distinct : (cases.map (·.name)).Nodup) :
    EntriesOf directory cases ((sorted cases).map (entryOf (sourceOf directory))) := by
  have same : (sorted cases).Perm cases := List.mergeSort_perm ..
  have ascending : (sorted cases).Pairwise fun left right =>
      fileOf left.name ≤ fileOf right.name := by
    refine (List.pairwise_mergeSort ?_ ?_ cases).imp of_decide_eq_true
    · intro first second third
      simpa only [decide_eq_true_eq] using String.le_trans
    · intro first second
      simpa only [Bool.or_eq_true, decide_eq_true_eq] using String.le_total ..
  have apart : (sorted cases).Pairwise fun left right => left.name ≠ right.name :=
    List.pairwise_map.mp ((same.map _).nodup_iff.mpr distinct)
  refine ⟨⟨sourceOf directory, sourceOf_spec directory, same.map _⟩, ?_⟩
  rw [List.pairwise_map]
  refine (ascending.and apart).imp fun ⟨notAfter, different⟩ => Text.toUTF8_lt ?_
  exact String.not_le.mp fun back =>
    different (fileOf_injective (String.le_antisymm notAfter back))

/-- The cases are written once the directory is made. -/
theorem gives_write_iff {made : FileTree} (grown : files.makeDirectoryAll directory = .ok made) :
    (write directory cases).Gives files () later ↔
      (cases.forM (writeCase directory)).Gives made () later := by
  rw [write, FileAction.gives_bind_iff]
  constructor
  · rintro ⟨⟨⟩, between, first, last⟩
    obtain rfl := Except.ok.inj (grown.symm.trans (FileAction.gives_change_iff.mp first))
    exact last
  · exact fun given => ⟨(), made, FileAction.gives_change_iff.mpr grown, given⟩

/-- Cases with different names that can be stored are written into an empty directory exactly when
all their files fit. What was written is loaded as one entry for each case, in the order of the
files, and files that are none of a case do not change that. -/
theorem load_write {cases : List GeneratedCase} (vacant : Vacant files directory)
    (storable : ∀ generated ∈ cases, StorableName generated.name)
    (distinct : (cases.map (·.name)).Nodup)
    (sized : ∀ generated ∈ cases, generated.problem.WordSized) :
    ((∃ written, (write directory cases).Gives files () written) ↔
      ∀ generated ∈ cases, Fits directory (fileOf generated.name)) ∧
    ∀ written, (write directory cases).Gives files () written → ∃ entries,
      EntriesOf directory cases entries ∧ (load directory).Gives written entries written ∧
      ∀ (others : List (String × ByteArray)) (later : FileTree),
        (∀ other ∈ others, AsideName other.1) →
        addFiles directory others written = .ok later →
        (load directory).Gives later entries later := by
  obtain ⟨made, place, grown, leads, none⟩ := vacant.made
  have start : Stored made directory place [] := ⟨leads, by rw [none]; rfl, nofun, nofun⟩
  have run (written : FileTree) : (write directory cases).Gives files () written ↔
      (∀ generated ∈ cases, Fits directory (fileOf generated.name)) ∧
        written = cases.foldl (store place) made :=
    (gives_write_iff grown).trans (start.gives_forM_iff storable distinct)
  refine ⟨⟨fun ⟨written, given⟩ => ((run written).mp given).1,
    fun fits => ⟨_, (run _).mpr ⟨fits, rfl⟩⟩⟩, fun written given => ?_⟩
  obtain ⟨fits, rfl⟩ := (run written).mp given
  have stored := start.extend_all storable distinct fits
  exact ⟨_, entriesOf_sorted directory distinct, stored.gives_load storable sized,
    fun others later aside added => (stored.addFiles_aside aside added).gives_load storable sized⟩

/-- The name of one case begins that of another one, whose file comes first. A description, a file
that is an extension only, and a table are added. -/
theorem load_write_dotted :
    let cases : List GeneratedCase :=
      [⟨"a", "forced", none, .empty 1, .empty 2, 1, by decide, by decide⟩,
        ⟨"a.b", "forced", none, .ofFn 1 fun _ _ => 7, .empty 1, 2, by decide, by decide⟩]
    let others : List (String × ByteArray) :=
      [("_OPIS.txt", "not a case".toUTF8), (".txt", .empty), ("table.csv", .empty)]
    Vacant {} "tests_tricky" ∧ (∀ generated ∈ cases, StorableName generated.name) ∧
      (cases.map (·.name)).Nodup ∧ (∀ generated ∈ cases, generated.problem.WordSized) ∧
      (∀ other ∈ others, AsideName other.1) ∧
    ∃ written entries later, (write "tests_tricky" cases).Gives {} () written ∧
      EntriesOf "tests_tricky" cases entries ∧
      (load "tests_tricky").Gives written entries written ∧
      addFiles "tests_tricky" others written = .ok later ∧
      (load "tests_tricky").Gives later entries later := by
  intro cases others
  have vacant : Vacant {} "tests_tricky" :=
    @Vacant.missing _ _ ⟨[(["tests_tricky"], .directory)], []⟩ (by decide +kernel)
      (by decide +kernel)
  have storable : ∀ generated ∈ cases, StorableName generated.name := by
    rw [List.forall_mem_cons, List.forall_mem_singleton]
    exact ⟨⟨by decide, by decide, by decide⟩, ⟨by decide, by decide, by decide⟩⟩
  have distinct : (cases.map (·.name)).Nodup := by decide
  have sized : ∀ generated ∈ cases, generated.problem.WordSized := by
    rw [List.forall_mem_cons, List.forall_mem_singleton]
    exact ⟨⟨by decide, by decide⟩, ⟨by decide, by decide⟩⟩
  have aside : ∀ other ∈ others, AsideName other.1 := by
    have plain : ∀ other ∈ others, PlainName other.1 := by
      rw [List.forall_mem_cons, List.forall_mem_cons, List.forall_mem_singleton]
      exact ⟨⟨by decide, by decide, by decide, by decide⟩,
        ⟨by decide, by decide, by decide, by decide⟩,
        ⟨by decide, by decide, by decide, by decide⟩⟩
    have named : ∀ other ∈ others, isCaseName other.1 = false := by decide +kernel
    exact fun other own => (isCaseName_eq_false_iff (plain other own)).mp (named other own)
  have ends : ((write "tests_tricky" cases).outcome {}).1.isOk = true := by decide +kernel
  have adds : (addFiles "tests_tricky" others
      ((write "tests_tricky" cases).outcome {}).2).isOk = true := by decide +kernel
  rcases ran : (write "tests_tricky" cases).outcome {} with ⟨fault | _, written⟩
  · rw [ran] at ends
    exact absurd ends Bool.false_ne_true
  · rw [ran] at adds
    obtain ⟨entries, reading, loaded, stays⟩ :=
      (load_write vacant storable distinct sized).2 written ran
    rcases added : addFiles "tests_tricky" others written with fault | later
    · rw [added] at adds
      exact absurd adds Bool.false_ne_true
    · exact ⟨vacant, storable, distinct, sized, aside, written, entries, later, ran, reading, loaded,
        added, stays others later aside added⟩

/-- The path of the file of a case. -/
def pathOf (directory name : String) : String := Path.join directory (fileOf name)

/-- No device stands where the cases are to be written. -/
def Ordinary (files : FileTree) (directory : String) (cases : List GeneratedCase) : Prop :=
  ∀ generated ∈ cases, ∀ device,
    files.get? (files.aim (pathOf directory generated.name)) ≠ some (.device device)

/-- Making the directory leaves no device where there was none. -/
theorem Ordinary.grown (ordinary : Ordinary files directory cases) (grown : Grown files tree) :
    Ordinary tree directory cases := by
  intro generated own device stands
  rw [aim_congr grown.home] at stands
  exact ordinary generated own device (grown.device stands)

/-- Writing a case leaves no device where there was none. -/
theorem Ordinary.written (ordinary : Ordinary tree directory cases) {path text : String}
    (written : tree.writeText path text = .ok later) : Ordinary later directory cases := by
  intro generated own device stands
  rw [aim_congr (sameAt_of_writeText written).home] at stands
  exact ordinary generated own device (device_of_writeText written stands)

/-- Writing a case is writing its text into its file. -/
theorem gives_writeCase_iff {generated : GeneratedCase} :
    (writeCase directory generated).Gives tree () later ↔
      tree.writeText (pathOf directory generated.name) generated.problem.render = .ok later :=
  FileAction.gives_change_iff

/-- Writing cases of other names changes nothing that is read in the file of a name. -/
theorem readText_forM (storable : StorableName name)
    (others : ∀ generated ∈ rest, StorableName generated.name)
    (new : name ∉ rest.map (·.name))
    (given : (rest.forM (writeCase directory)).Gives tree () later) :
    later.readText (pathOf directory name) = tree.readText (pathOf directory name) := by
  induction rest generalizing tree with
  | nil =>
    obtain ⟨-, rfl⟩ := FileAction.gives_pure_iff.mp given
    rfl
  | cons generated rest ih =>
    obtain ⟨first, tail⟩ := List.forall_mem_cons.mp others
    rw [List.map_cons, List.mem_cons, not_or] at new
    obtain ⟨⟨⟩, between, writing, remaining⟩ := FileAction.gives_bind_iff.mp given
    have written := gives_writeCase_iff.mp writing
    have apart : fileOf name ≠ fileOf generated.name := fileOf_injective.ne new.1
    calc later.readText (pathOf directory name)
      _ = between.readText (pathOf directory name) := ih tail new.2 remaining
      _ = tree.readText (pathOf directory name) :=
        first.plain.readText_of_writeText storable.plain apart written

/-- Cases of different names that are written one after the other are all read back. -/
theorem readText_of_forM (storable : ∀ generated ∈ cases, StorableName generated.name)
    (distinct : (cases.map (·.name)).Nodup) (ordinary : Ordinary tree directory cases)
    (given : (cases.forM (writeCase directory)).Gives tree () later) :
    ∀ generated ∈ cases,
      later.readText (pathOf directory generated.name) = .ok generated.problem.render := by
  induction cases generalizing tree with
  | nil => exact fun _ own => nomatch own
  | cons first rest ih =>
    obtain ⟨named, others⟩ := List.forall_mem_cons.mp storable
    rw [List.map_cons, List.nodup_cons] at distinct
    obtain ⟨⟨⟩, between, writing, remaining⟩ := FileAction.gives_bind_iff.mp given
    have written := gives_writeCase_iff.mp writing
    rw [List.forall_mem_cons]
    constructor
    · have here := readText_of_writeText written (ordinary first List.mem_cons_self)
      exact (readText_forM named others distinct.1 remaining).trans here
    · have rested : Ordinary tree directory rest := fun generated own =>
        ordinary generated (List.mem_cons_of_mem _ own)
      exact ih others distinct.2 (rested.written written) remaining

/-- Cases of different names that are written into a directory are all read back. -/
theorem readText_of_write (storable : ∀ generated ∈ cases, StorableName generated.name)
    (distinct : (cases.map (·.name)).Nodup) (ordinary : Ordinary files directory cases)
    (given : (write directory cases).Gives files () later) :
    ∀ generated ∈ cases,
      later.readText (pathOf directory generated.name) = .ok generated.problem.render := by
  obtain ⟨⟨⟩, made, making, writing⟩ := FileAction.gives_bind_iff.mp given
  have grown := grown_of_makeDirectories (FileAction.gives_change_iff.mp making)
  exact readText_of_forM storable distinct (ordinary.grown grown) writing

/-- Cases of different names have different files. -/
theorem nodup_places (storable : ∀ generated ∈ cases, StorableName generated.name)
    (distinct : (cases.map (·.name)).Nodup) (files : FileTree) (directory : String) :
    (cases.map fun generated => files.aim (pathOf directory generated.name)).Nodup := by
  rw [List.Nodup, List.pairwise_map] at distinct ⊢
  refine distinct.imp_of_mem fun {left right} here there apart same => apart ?_
  exact fileOf_injective
    (((storable left here).plain.aim_join_inj (storable right there).plain files directory).mp same)

end CopyOracle.Corpus
