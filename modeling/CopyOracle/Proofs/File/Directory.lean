import CopyOracle.Proofs.File.Change
import CopyOracle.Proofs.File.Path
/-!
# The files of a directory

A file of a plain name that fits the limits of the system stands one step below its directory. What
is written there first adds one name to the directory, and what is written again adds none; the
directory itself stays where it is.
-/

namespace CopyOracle.FileTree

/-- The path leads to a directory at the place. -/
structure Leads (tree : FileTree) (directory : String) (place : Place) : Prop where
  /-- The path leads to the place. -/
  located : tree.locate directory = .ok place
  /-- A directory stands there. -/
  stands : tree.get? place = some .directory

/-- A file of the name can be asked for in the directory: neither the path nor the name is too long,
and no zero byte is in them. -/
structure Fits (directory name : String) : Prop where
  /-- The path of the file is one. -/
  path : checkPath (Path.join directory name) = .ok ()
  /-- The name is short enough. -/
  name : name.utf8ByteSize ≤ longestName

variable {tree other : FileTree} {directory name : String} {place target : Place}

/-- The names listed are those in the directory to which the path leads. -/
theorem list_eq_ok_iff {names : List String} : tree.list directory = .ok names ↔
    ∃ place, tree.Leads directory place ∧ tree.namesAt place = names := by
  rw [list, bind_eq_ok_iff]
  constructor
  · rintro ⟨place, located, listed⟩
    split at listed
    · next stands => exact ⟨place, ⟨located, stands⟩, Except.ok.inj listed⟩
    · contradiction
    · contradiction
  · rintro ⟨place, ⟨located, stands⟩, rfl⟩
    exact ⟨place, located, by rw [stands]⟩

/-- A path leads to a directory exactly when it leads to a place with one. -/
theorem isDirectory_eq_true_iff : tree.isDirectory directory = true ↔
    ∃ place, tree.Leads directory place := by
  rw [isDirectory, decide_eq_true_eq, standing?]
  constructor
  · intro stands
    split at stands
    · next place located => exact ⟨place, located, stands⟩
    · contradiction
  · rintro ⟨place, located, stands⟩
    rw [located]
    exact stands

/-- Writing under one plain name of a directory changes nothing that is read there under another. -/
theorem PlainName.readText_of_writeText (plain : PlainName name) {sought : String}
    (plain' : PlainName sought) (apart : sought ≠ name) {text : String}
    (written : tree.writeText (Path.join directory name) text = .ok other) :
    other.readText (Path.join directory sought) = tree.readText (Path.join directory sought) := by
  obtain ⟨led, free, -⟩ := of_writeBytes written
  refine (sameAt_of_writeText written).readText (fun middle passed same => ?_) fun same => ?_
  · -- Both ways are that of the directory, which leads over directories.
    rw [plain'.way_join, ← plain.way_join] at passed
    exact free (same ▸ (of_locate_eq_ok led).2 middle passed)
  · exact apart ((plain'.aim_join_inj plain tree directory).mp same)

/-- A dot leads from a directory to itself. -/
theorem walk_dot (stands : tree.get? place = some .directory) :
    tree.walk place ["."] = .ok place := by
  rw [walk, stands]
  rfl

/-- A short plain name leads from a directory to the place of the name in it. -/
theorem PlainName.walk (plain : PlainName name) (stands : tree.get? place = some .directory) :
    tree.walk place [name] = .ok target ↔
      name.utf8ByteSize ≤ longestName ∧ target = place ++ [name] := by
  rw [FileTree.walk, stands]
  dsimp only
  split
  · next long =>
    simp only [reduceCtorEq, false_iff, not_and]
    exact fun short => absurd long (Nat.not_lt.mpr short)
  · next short =>
    rw [FileTree.walk, if_neg plain.notDot, if_neg plain.notDots, Except.ok.injEq, eq_comm]
    exact (and_iff_right (Nat.not_lt.mp short)).symm

/-- The name of the second place in the directory at the first one. -/
def nameIn? (above place : Place) : Option String :=
  match place.getLast? with
  | some name => if place.dropLast = above then some name else none
  | none => none

/-- A place has a name in a directory exactly when it is one step below. -/
theorem nameIn?_eq_some_iff : nameIn? place target = some name ↔ target = place ++ [name] := by
  rw [nameIn?]
  constructor
  · intro named
    split at named
    · next last ends =>
      obtain ⟨front, rfl⟩ := List.getLast?_eq_some_iff.mp ends
      rw [List.dropLast_concat] at named
      split at named
      · next same => rw [same, Option.some.inj named]
      · contradiction
    · contradiction
  · rintro rfl
    simp

/-- The names in a directory are those of the places with entries. -/
theorem namesAt_eq (tree : FileTree) (place : Place) :
    tree.namesAt place = (tree.entries.map Prod.fst).filterMap (nameIn? place) := by
  rw [List.filterMap_map]
  rfl

/-- Something stands below a directory exactly when there is an entry. -/
theorem get?_below_ne_none_iff :
    tree.get? (place ++ [name]) ≠ none ↔ place ++ [name] ∈ tree.entries.map Prod.fst := by
  rw [get?, if_neg (by simp), ne_eq, List.lookup_eq_none_iff, List.mem_map]
  simp

/-- A name is in a directory exactly when something stands there. -/
theorem mem_namesAt_iff : name ∈ tree.namesAt place ↔ tree.get? (place ++ [name]) ≠ none := by
  rw [get?_below_ne_none_iff, namesAt_eq, List.mem_filterMap]
  simp only [nameIn?_eq_some_iff, exists_eq_right]

/-- Putting an entry at a new place adds the place, and at a place with an entry adds none. -/
theorem places_putEntry (target : Place) (entry : FileEntry) (entries : List (Place × FileEntry)) :
    (putEntry target entry entries).map Prod.fst = entries.map Prod.fst ++
      if target ∈ entries.map Prod.fst then [] else [target] := by
  induction entries with
  | nil => rfl
  | cons first rest ih =>
    obtain ⟨standing, old⟩ := first
    rw [putEntry, List.map_cons]
    split
    · next same => simp [same]
    · next different =>
      rw [List.map_cons, ih, List.cons_append]
      exact congrArg (standing :: _ ++ ·) (if_congr
        (List.mem_cons.trans (or_iff_right (Ne.symm different))).symm rfl rfl)

/-- What is put in a directory under a new name adds the name, and under a name that is there adds
none. -/
theorem namesAt_put (tree : FileTree) (place : Place) (name : String) (entry : FileEntry) :
    (tree.put (place ++ [name]) entry).namesAt place = tree.namesAt place ++
      if name ∈ tree.namesAt place then [] else [name] := by
  have named : nameIn? place (place ++ [name]) = some name := nameIn?_eq_some_iff.mpr rfl
  rw [namesAt_eq, put, places_putEntry, List.filterMap_append, ← namesAt_eq]
  congr 1
  by_cases there : name ∈ tree.namesAt place
  · rw [if_pos there, if_pos (get?_below_ne_none_iff.mp (mem_namesAt_iff.mp there))]
    rfl
  · rw [if_neg there, if_neg (mt (mem_namesAt_iff.trans get?_below_ne_none_iff).mpr there),
      List.filterMap_cons, named, List.filterMap_nil]

namespace Leads

/-- The names of the path lead to the directory, a slash at its end or not. -/
theorem walk (leads : tree.Leads directory place) :
    tree.walk (tree.startOf directory) (namesOf directory.toList) = .ok place := by
  have led := (locate_eq_ok_iff.mp leads.located).2
  rw [taken, walk_append] at led
  obtain ⟨middle, first, last⟩ := bind_eq_ok_iff.mp led
  split at last
  · obtain rfl : place = middle := (of_walk_eq_ok last).1
    exact first
  · obtain rfl := Except.ok.inj last
    exact first

/-- The names of the path end at the place. -/
theorem foldl_next (leads : tree.Leads directory place) :
    (namesOf directory.toList).foldl next (tree.startOf directory) = place :=
  (of_walk_eq_ok leads.walk).1.symm

/-- A plain name in the directory ends one step below it. -/
theorem aim_join (leads : tree.Leads directory place) (plain : PlainName name) :
    tree.aim (Path.join directory name) = place ++ [name] := by
  rw [plain.aim_join, leads.foldl_next]

/-- A path of a plain name in the directory leads anywhere exactly when the name fits, and then one
step below the directory. -/
theorem locate_join (leads : tree.Leads directory place) (plain : PlainName name) :
    tree.locate (Path.join directory name) = .ok target ↔
      Fits directory name ∧ target = place ++ [name] := by
  have steps : taken (Path.join directory name) = namesOf directory.toList ++ [name] := by
    rw [taken, plain.steps_join, if_neg Bool.false_ne_true, List.append_nil]
  rw [locate_eq_ok_iff, plain.startOf_join, steps, walk_append, leads.walk]
  change _ ∧ tree.walk place [name] = .ok target ↔ _
  rw [plain.walk leads.stands]
  constructor
  · rintro ⟨path, short, same⟩
    exact ⟨⟨path, short⟩, same⟩
  · rintro ⟨fits, same⟩
    exact ⟨fits.path, fits.name, same⟩

/-- A file of a plain name that fits is written one step below the directory. -/
theorem writtenPlace_join (leads : tree.Leads directory place) (plain : PlainName name)
    (fits : Fits directory name) :
    tree.writtenPlace (Path.join directory name) = .ok (place ++ [name]) := by
  have above : tree.walk (tree.startOf directory) (namesOf directory.toList ++ ["."]) =
      .ok place := by
    rw [walk_append, leads.walk]
    exact walk_dot leads.stands
  have below : tree.walk place [name] = .ok (place ++ [name]) :=
    (plain.walk leads.stands).mpr ⟨fits.name, rfl⟩
  have sited : tree.site (Path.join directory name) = .ok (.fresh (place ++ [name]), false) := by
    rw [site, fits.path, plain.steps_join, plain.startOf_join]
    simp [bind, Except.bind, above, below, plain.notDot, plain.notDots]
  rw [writtenPlace, sited]
  rfl

/-- What is put below a directory, and not in the place of another one, leaves the way to it. -/
theorem put (leads : tree.Leads directory place) (free : tree.get? target ≠ some .directory)
    (entry : FileEntry) : (tree.put target entry).Leads directory place := by
  have apart {middle : Place} (stands : tree.get? middle = some .directory) : middle ≠ target :=
    fun same => free (same ▸ stands)
  have way := (of_locate_eq_ok leads.located).2
  refine ⟨?_, (get?_put_of_ne (apart leads.stands) entry).trans leads.stands⟩
  exact ((sameAt_put tree target entry).locate fun middle member => apart (way middle member)).trans
    leads.located

/-- A new file of a plain name is written exactly when the name fits. -/
theorem writeBytes_join (leads : tree.Leads directory place) (plain : PlainName name)
    (free : tree.get? (place ++ [name]) = none) {content : ByteArray} :
    tree.writeBytes (Path.join directory name) content = .ok other ↔
      Fits directory name ∧ other = tree.put (place ++ [name]) (.file content) := by
  constructor
  · intro written
    have fits := ((leads.locate_join plain).mp (of_writeBytes written).1).1
    rw [writeBytes, leads.writtenPlace_join plain fits] at written
    simp only [bind, Except.bind, free] at written
    exact ⟨fits, (Except.ok.inj written).symm⟩
  · rintro ⟨fits, rfl⟩
    rw [writeBytes, leads.writtenPlace_join plain fits]
    simp only [bind, Except.bind, free]

/-- A path that leads to a directory is the site of no new one. -/
theorem site (leads : tree.Leads directory place) : ∃ slash,
    tree.site directory = .ok (.taken, slash) ∨ tree.site directory = .ok (.fresh place, slash) := by
  refine ⟨(steps directory).2, ?_⟩
  have valid := (locate_eq_ok_iff.mp leads.located).1
  have led := leads.walk
  change tree.walk (tree.startOf directory) (steps directory).1 = .ok place at led
  rw [FileTree.site, valid]
  cases last : (steps directory).1.getLast? with
  | none => exact .inl (by simp [bind, Except.bind, last])
  | some name =>
    obtain ⟨front, split⟩ := List.getLast?_eq_some_iff.mp last
    rw [split, walk_append] at led
    obtain ⟨above, up, down⟩ := bind_eq_ok_iff.mp led
    have stands : tree.get? above = some .directory :=
      (of_walk_eq_ok down).2 above List.mem_cons_self
    have again : tree.walk (tree.startOf directory) (front ++ ["."]) = .ok above := by
      rw [walk_append, up]
      exact walk_dot stands
    by_cases dots : name = "." ∨ name = ".."
    · exact .inl (by simp [bind, Except.bind, split, again, dots])
    · exact .inr (by simp [bind, Except.bind, split, again, dots, down])

/-- A directory that is there is not made again. -/
theorem makeDirectory (leads : tree.Leads directory place) :
    tree.makeDirectory directory = .error .exists := by
  obtain ⟨_, sited | sited⟩ := leads.site
  · rw [FileTree.makeDirectory, sited]
    rfl
  · rw [FileTree.makeDirectory, sited]
    simp only [bind, Except.bind, leads.stands]

/-- Making a directory that is there, and those above it, changes nothing. -/
theorem makeDirectoryAll (leads : tree.Leads directory place) :
    tree.makeDirectoryAll directory = .ok tree := by
  have nonempty : directory ≠ "" := fun empty => by
    have valid := (locate_eq_ok_iff.mp leads.located).1
    rw [checkPath, if_pos empty] at valid
    contradiction
  rw [FileTree.makeDirectoryAll, makeDirectories, if_neg nonempty, leads.makeDirectory]
  exact if_pos (isDirectory_eq_true_iff.mpr ⟨place, leads⟩)

/-- A file of a plain name that fits is there, and its text is read, when it stands one step below
the directory. -/
theorem readText_join (leads : tree.Leads directory place) (plain : PlainName name)
    (fits : Fits directory name) {text : String} {isExecutable : Bool}
    (stands : tree.get? (place ++ [name]) = some (.file text.toUTF8 isExecutable)) :
    tree.isFile (Path.join directory name) = true ∧
      tree.readText (Path.join directory name) = .ok text := by
  have located := (leads.locate_join plain).mpr ⟨fits, rfl⟩
  constructor
  · simp only [isFile, standing?, located, stands]
  · simp only [readText, readBytes, entry, located, stands, bind, Except.bind, fromUTF8?_toUTF8]

end Leads

end CopyOracle.FileTree
