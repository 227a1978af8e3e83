import CopyOracle.Proofs.File.Tree
/-!
# What changes of files leave alone

Writing a text changes what stands at the end of its path, and nothing else, and the text can be
read there unless a device stood there. Removing changes what stands at a place and below it. Making
directories adds directories and takes nothing away.
-/

namespace CopyOracle.FileTree

variable {tree other : FileTree} {place : Place}

/-- Where a file is written, its path leads. -/
theorem locate_of_writtenPlace {path : String} (leads : tree.writtenPlace path = .ok place) :
    tree.locate path = .ok place := by
  rw [writtenPlace, bind_eq_ok_iff] at leads
  obtain ⟨⟨found, slash⟩, sited, chosen⟩ := leads
  rw [site, bind_eq_ok_iff] at sited
  obtain ⟨_, valid, sited⟩ := sited
  rcases cut : steps path with ⟨names, ended⟩
  simp only [cut] at sited
  cases last : names.getLast? with
  | none =>
    rw [last] at sited
    obtain ⟨rfl, rfl⟩ := Prod.mk.inj (Except.ok.inj sited)
    contradiction
  | some name =>
    obtain ⟨front, rfl⟩ := List.getLast?_eq_some_iff.mp last
    simp only [last, List.dropLast_concat, bind_eq_ok_iff] at sited
    obtain ⟨above, up, sited⟩ := sited
    split at sited
    · obtain ⟨rfl, rfl⟩ := Prod.mk.inj (Except.ok.inj sited)
      contradiction
    · obtain ⟨fresh, down, sited⟩ := bind_eq_ok_iff.mp sited
      obtain ⟨rfl, rfl⟩ := Prod.mk.inj (Except.ok.inj sited)
      cases ended with
      | true => contradiction
      | false =>
        obtain rfl := Except.ok.inj chosen
        rw [walk_append] at up
        obtain ⟨middle, first, dot⟩ := bind_eq_ok_iff.mp up
        obtain rfl : above = middle := (of_walk_eq_ok dot).1
        have names : taken path = front ++ [name] := by simp [taken, cut]
        rw [locate_eq_ok_iff, names, walk_append, first]
        exact ⟨valid, down⟩

/-- Writing where a device stands changes nothing, and elsewhere makes a file of the bytes at the
end of the path. It is refused where a directory stands. -/
theorem of_writeBytes {path : String} {content : ByteArray}
    (written : tree.writeBytes path content = .ok other) :
    tree.locate path = .ok (tree.aim path) ∧ tree.get? (tree.aim path) ≠ some .directory ∧
      ((∃ device, tree.get? (tree.aim path) = some (.device device) ∧ other = tree) ∨
        ∃ isExecutable, other = tree.put (tree.aim path) (.file content isExecutable)) := by
  rw [writeBytes, bind_eq_ok_iff] at written
  obtain ⟨place, leads, written⟩ := written
  have led := locate_of_writtenPlace leads
  obtain rfl := (of_locate_eq_ok led).1
  refine ⟨led, ?_⟩
  split at written
  · contradiction
  · next standing =>
    split at written
    · exact ⟨by rw [standing]; exact nofun, .inl ⟨_, standing, (Except.ok.inj written).symm⟩⟩
    · contradiction
  · contradiction
  · contradiction
  · next standing =>
    exact ⟨by rw [standing]; exact nofun, .inl ⟨_, standing, (Except.ok.inj written).symm⟩⟩
  · contradiction
  · next isExecutable standing =>
    exact ⟨by rw [standing]; exact nofun, .inr ⟨isExecutable, (Except.ok.inj written).symm⟩⟩
  · next free =>
    exact ⟨by rw [free]; exact nofun, .inr ⟨false, (Except.ok.inj written).symm⟩⟩

/-- What is put at a place changes nothing elsewhere. -/
theorem sameAt_put (tree : FileTree) (place : Place) (entry : FileEntry) :
    SameAt (· ≠ place) tree (tree.put place entry) where
  home := rfl
  stands _ apart := get?_put_of_ne apart entry

/-- Writing a text changes nothing but at the end of its path. -/
theorem sameAt_of_writeText {path text : String} (written : tree.writeText path text = .ok other) :
    SameAt (· ≠ tree.aim path) tree other := by
  obtain ⟨-, -, ⟨_, -, rfl⟩ | ⟨_, rfl⟩⟩ := of_writeBytes written
  · exact ⟨rfl, fun _ _ => rfl⟩
  · exact sameAt_put ..

/-- Writing a text makes no device. -/
theorem device_of_writeText {path text : String} (written : tree.writeText path text = .ok other)
    {device : Device} (stands : other.get? place = some (.device device)) :
    tree.get? place = some (.device device) := by
  obtain ⟨-, free, ⟨_, -, rfl⟩ | ⟨_, rfl⟩⟩ := of_writeBytes written
  · exact stands
  · by_cases same : place = tree.aim path
    · rw [same, get?_put_self (ne_root_of_ne_directory free)] at stands
      exact nomatch Option.some.inj stands
    · exact (get?_put_of_ne same _).symm.trans stands

/-- A text is read back from its bytes. -/
theorem fromUTF8?_toUTF8 (text : String) : String.fromUTF8? text.toUTF8 = some text := by
  have valid : text.toUTF8.IsValidUTF8 := text.isValidUTF8
  rw [String.fromUTF8?, dif_pos valid]
  rfl

/-- A text that is written where no device stands can be read back. -/
theorem readText_of_writeText {path text : String} (written : tree.writeText path text = .ok other)
    (ordinary : ∀ device, tree.get? (tree.aim path) ≠ some (.device device)) :
    other.readText path = .ok text := by
  obtain ⟨led, free, ⟨device, standing, -⟩ | ⟨isExecutable, rfl⟩⟩ := of_writeBytes written
  · exact absurd standing (ordinary device)
  · have away : ∀ middle ∈ tree.way path, middle ≠ tree.aim path := fun middle member same =>
      free (same ▸ (of_locate_eq_ok led).2 middle member)
    have still := ((sameAt_put tree _ (.file text.toUTF8 isExecutable)).locate away).trans led
    simp only [readText, readBytes, entry, still, get?_put_self (ne_root_of_ne_directory free),
      bind, Except.bind, fromUTF8?_toUTF8]

/-- What is removed at a path changes nothing but at its end and below it. -/
theorem sameAt_remove (tree : FileTree) (path : String) :
    SameAt (¬tree.aim path <+: ·) tree (tree.remove path) := by
  rw [remove]
  split
  · exact ⟨rfl, fun _ _ => rfl⟩
  · next place led =>
    obtain rfl := (of_locate_eq_ok led).1
    exact ⟨rfl, fun _ outside => get?_removePlace outside⟩

/-- The second tree has the same as the first one, or directories. -/
structure Grown (tree other : FileTree) : Prop where
  /-- The working directory is the same. -/
  home : other.workingDirectory = tree.workingDirectory
  /-- At each place stands the same or a directory. -/
  stands : ∀ place, other.get? place = tree.get? place ∨ other.get? place = some .directory

/-- Nothing grows to itself. -/
theorem Grown.refl (tree : FileTree) : Grown tree tree := ⟨rfl, fun _ => .inl rfl⟩

/-- Growth adds up. -/
theorem Grown.trans {last : FileTree} (first : Grown tree other) (second : Grown other last) :
    Grown tree last where
  home := second.home.trans first.home
  stands place := by
    rcases second.stands place with same | made
    · rw [same]
      exact first.stands place
    · exact .inr made

/-- Growing makes no device. -/
theorem Grown.device (grown : Grown tree other) {device : Device}
    (stands : other.get? place = some (.device device)) :
    tree.get? place = some (.device device) := by
  rcases grown.stands place with same | made
  · exact same.symm.trans stands
  · exact nomatch Option.some.inj (made.symm.trans stands)

/-- A directory is made. -/
theorem grown_of_makeDirectory {path : String} (made : tree.makeDirectory path = .ok other) :
    Grown tree other := by
  rw [makeDirectory, bind_eq_ok_iff] at made
  obtain ⟨⟨site, ended⟩, -, made⟩ := made
  cases site with
  | taken => contradiction
  | fresh place =>
    dsimp only at made
    split at made
    · contradiction
    · next free =>
      obtain rfl := Except.ok.inj made
      refine ⟨rfl, fun sought => ?_⟩
      by_cases same : sought = place
      · subst same
        exact .inr (get?_put_self (ne_root_of_ne_directory (by rw [free]; exact nofun)) _)
      · exact .inl (get?_put_of_ne same _)

/-- Directories are made. -/
theorem grown_of_makeDirectories {depth : Nat} {path : String}
    (made : tree.makeDirectories depth path = .ok other) : Grown tree other := by
  induction depth generalizing path other with
  | zero => exact Except.ok.inj made ▸ .refl tree
  | succ depth ih =>
    rw [makeDirectories] at made
    split at made
    · exact Except.ok.inj made ▸ .refl tree
    · split at made
      · next first => exact Except.ok.inj made ▸ grown_of_makeDirectory first
      · split at made
        · contradiction
        · next above _ =>
          obtain ⟨between, lower, made⟩ := bind_eq_ok_iff.mp made
          split at made
          · next last =>
            exact (ih lower).trans (Except.ok.inj made ▸ grown_of_makeDirectory last)
          · split at made
            · exact Except.ok.inj made ▸ ih lower
            · contradiction
      · split at made
        · exact Except.ok.inj made ▸ .refl tree
        · contradiction

end CopyOracle.FileTree
