import CopyOracle.File.Tree
import CopyOracle.Proofs.Result
import CopyOracle.Proofs.Search
import Mathlib.Data.List.Basic
/-!
# Where paths lead

The names of a path are taken from one place after the other, and where they lead depends on the
names and the start alone, whatever stands in the tree. So what is read at a path changes only with
what stands on its way and at its end.
-/

namespace CopyOracle.FileTree

variable {tree other : FileTree} {place : Place}

/-- An entry that is put at a place is found there and changes nothing elsewhere. -/
theorem lookup_putEntry (place : Place) (entry : FileEntry) (entries : List (Place × FileEntry))
    (sought : Place) :
    (putEntry place entry entries).lookup sought =
      if sought = place then some entry else entries.lookup sought := by
  induction entries with
  | nil => exact lookup_cons_eq place sought entry []
  | cons first rest ih =>
    obtain ⟨standing, old⟩ := first
    rw [putEntry, lookup_cons_eq standing]
    split
    · next same =>
      subst same
      rw [lookup_cons_eq]
      split <;> rfl
    · next different =>
      rw [lookup_cons_eq, ih]
      by_cases found : sought = standing
      · rw [if_pos found, if_neg (found ▸ different), if_pos found]
      · rw [if_neg found, if_neg found]

/-- The root is a directory. -/
theorem ne_root_of_ne_directory (free : tree.get? place ≠ some .directory) : place ≠ [] :=
  fun root => free (root ▸ rfl)

/-- What is put at a place below the root stands there. -/
theorem get?_put_self (below : place ≠ []) (entry : FileEntry) :
    (tree.put place entry).get? place = some entry := by
  rw [get?, if_neg below, put, lookup_putEntry, if_pos rfl]

/-- What is put at a place changes nothing at another one. -/
theorem get?_put_of_ne {sought : Place} (apart : sought ≠ place) (entry : FileEntry) :
    (tree.put place entry).get? sought = tree.get? sought := by
  rw [get?, get?, put, lookup_putEntry, if_neg apart]

/-- What is taken away at a place and below it changes nothing elsewhere. -/
theorem get?_removePlace {sought : Place} (outside : ¬place <+: sought) :
    (tree.removePlace place).get? sought = tree.get? sought := by
  have here : (!place.isPrefixOf sought) = true := by
    rw [Bool.not_eq_true', ← Bool.not_eq_true, List.isPrefixOf_iff_prefix]
    exact outside
  rw [get?, get?, removePlace]
  exact if_congr Iff.rfl rfl
    (lookup_filter_eq (fun standing => !place.isPrefixOf standing) here tree.entries)

/-- The place to which a name leads from a place. -/
def next (place : Place) (name : String) : Place :=
  if name = "." then place else if name = ".." then place.dropLast else place ++ [name]

/-- The places from which names are taken one after the other. -/
def passed : Place → List String → List Place
  | _, [] => []
  | place, name :: rest => place :: passed (next place name) rest

/-- The names lead first where the front of them leads. -/
theorem passed_append (place : Place) (front rest : List String) :
    passed place (front ++ rest) = passed place front ++ passed (front.foldl next place) rest := by
  induction front generalizing place with
  | nil => rfl
  | cons name front ih => exact congrArg (place :: ·) (ih (next place name))

/-- Names that lead anywhere are taken from directories, and lead where they lead in any tree. -/
theorem of_walk_eq_ok {names : List String} {last : Place}
    (led : tree.walk place names = .ok last) :
    last = names.foldl next place ∧
      ∀ taken ∈ passed place names, tree.get? taken = some .directory := by
  induction names generalizing place with
  | nil => exact ⟨(Except.ok.inj led).symm, fun _ member => nomatch member⟩
  | cons name rest ih =>
    rw [walk] at led
    split at led
    · next here =>
      split at led
      · contradiction
      · obtain ⟨ends, taken⟩ := ih led
        exact ⟨ends, List.forall_mem_cons.mpr ⟨here, taken⟩⟩
    · contradiction
    · contradiction

/-- Names lead to the same place, or nowhere for the same cause, in trees that agree on the places
from which they are taken. -/
theorem walk_congr {names : List String}
    (same : ∀ taken ∈ passed place names, other.get? taken = tree.get? taken) :
    other.walk place names = tree.walk place names := by
  induction names generalizing place with
  | nil => rfl
  | cons name rest ih =>
    obtain ⟨here, later⟩ := List.forall_mem_cons.mp same
    rw [walk, walk, here]
    split
    · split
      · rfl
      · exact ih later
    · rfl
    · rfl

/-- Names are taken in two parts. -/
theorem walk_append (tree : FileTree) (place : Place) (front rest : List String) :
    tree.walk place (front ++ rest) = (tree.walk place front).bind fun middle =>
      tree.walk middle rest := by
  induction front generalizing place with
  | nil => rfl
  | cons name front ih =>
    rw [List.cons_append, walk, walk]
    split
    · split
      · rfl
      · exact ih _
    · rfl
    · rfl

/-- The names of a path; a slash at its end stands for a dot. -/
def taken (path : String) : List String :=
  (steps path).1 ++ if (steps path).2 then ["."] else []

/-- The places on the way of a path. -/
def way (tree : FileTree) (path : String) : List Place := passed (tree.startOf path) (taken path)

/-- The place at the end of a path. -/
def aim (tree : FileTree) (path : String) : Place := (taken path).foldl next (tree.startOf path)

/-- A path leads along its way. -/
theorem locate_eq_ok_iff {path : String} : tree.locate path = .ok place ↔
    checkPath path = .ok () ∧ tree.walk (tree.startOf path) (taken path) = .ok place := by
  rw [locate, bind_eq_ok_iff]
  exact ⟨fun ⟨_, valid, led⟩ => ⟨valid, led⟩, fun ⟨valid, led⟩ => ⟨(), valid, led⟩⟩

/-- A path that leads anywhere leads over directories to its end. -/
theorem of_locate_eq_ok {path : String} (led : tree.locate path = .ok place) :
    place = tree.aim path ∧ ∀ middle ∈ tree.way path, tree.get? middle = some .directory :=
  of_walk_eq_ok (locate_eq_ok_iff.mp led).2

/-- The same stands at places in two trees with one working directory. -/
structure SameAt (places : Place → Prop) (tree other : FileTree) : Prop where
  /-- The working directory is the same. -/
  home : other.workingDirectory = tree.workingDirectory
  /-- The same stands at the places. -/
  stands : ∀ place, places place → other.get? place = tree.get? place

/-- What stays the same twice stays the same. -/
theorem SameAt.trans {places : Place → Prop} {last : FileTree} (first : SameAt places tree other)
    (second : SameAt places other last) : SameAt places tree last where
  home := second.home.trans first.home
  stands place member := (second.stands place member).trans (first.stands place member)

/-- Trees that agree on some places agree on fewer. -/
theorem SameAt.mono {places fewer : Place → Prop} (same : SameAt places tree other)
    (among : ∀ place, fewer place → places place) : SameAt fewer tree other where
  home := same.home
  stands place member := same.stands place (among place member)

/-- Where a path starts depends on the working directory alone. -/
theorem startOf_congr (home : other.workingDirectory = tree.workingDirectory) (path : String) :
    other.startOf path = tree.startOf path := by
  rw [startOf, startOf, home]

/-- Where a path ends depends on the working directory alone. -/
theorem aim_congr (home : other.workingDirectory = tree.workingDirectory) (path : String) :
    other.aim path = tree.aim path := by
  rw [aim, aim, startOf_congr home]

/-- The way of a path depends on the working directory alone. -/
theorem way_congr (home : other.workingDirectory = tree.workingDirectory) (path : String) :
    other.way path = tree.way path := by
  rw [way, way, startOf_congr home]

/-- A path leads to the same place in trees that agree on its way. -/
theorem SameAt.locate {places : Place → Prop} (same : SameAt places tree other) {path : String}
    (covered : ∀ middle ∈ tree.way path, places middle) :
    other.locate path = tree.locate path := by
  have led := walk_congr fun middle member => same.stands middle (covered middle member)
  rw [FileTree.locate, FileTree.locate, startOf_congr same.home]
  exact congrArg (checkPath path >>= fun _ => ·) led

/-- The same is read at a path in trees that agree on its way and its end. -/
theorem SameAt.readText {places : Place → Prop} (same : SameAt places tree other) {path : String}
    (covered : ∀ middle ∈ tree.way path, places middle) (reached : places (tree.aim path)) :
    other.readText path = tree.readText path := by
  have found : other.entry path = tree.entry path := by
    rw [entry, entry, same.locate covered]
    cases led : tree.locate path with
    | error fault => rfl
    | ok place =>
      obtain rfl := (of_locate_eq_ok led).1
      simp only [bind, Except.bind, same.stands _ reached]
  rw [FileTree.readText, FileTree.readText, readBytes, readBytes, found]

end CopyOracle.FileTree
