import CopyOracle.Proofs.File.Tree
/-!
# Files in a directory

The path of a file in a directory is that of the directory with the name of the file at its end. So
two files of one directory have one way, and they have two places when they have two names.
-/

namespace CopyOracle.FileTree

/-- A name of a file holds no slash and is neither empty nor one of the dots. -/
structure PlainName (name : String) : Prop where
  /-- It holds no slash. -/
  whole : '/' ∉ name.toList
  /-- It is not empty. -/
  nonempty : name ≠ ""
  /-- It is not the dot of the directory itself. -/
  notDot : name ≠ "."
  /-- It is not the two dots of the directory above. -/
  notDots : name ≠ ".."

/-- The names between slashes. -/
def namesOf (text : List Char) : List String :=
  ((text.splitOn '/').map String.ofList).filter (· ≠ "")

/-- A slash separates pieces. -/
theorem splitOn_slash (front rest : List Char) :
    (front ++ '/' :: rest).splitOn '/' = front.splitOn '/' ++ rest.splitOn '/' :=
  List.splitOnP_append_cons front rest (beq_self_eq_true '/')

/-- A slash separates names. -/
theorem namesOf_append (front rest : List Char) :
    namesOf (front ++ '/' :: rest) = namesOf front ++ namesOf rest := by
  rw [namesOf, splitOn_slash, List.map_append, List.filter_append]
  rfl

variable {name : String}

/-- A plain name does not start at the root. -/
theorem PlainName.isAbsolute (plain : PlainName name) : Path.isAbsolute name = false := by
  rw [Path.isAbsolute, decide_eq_false_iff_not]
  exact fun absolute => plain.whole (List.mem_of_head? absolute)

/-- A plain name is one piece. -/
theorem PlainName.splitOn (plain : PlainName name) :
    name.toList.splitOn '/' = [name.toList] :=
  List.splitOnP_eq_singleton fun _ member =>
    beq_eq_false_iff_ne.mpr fun slash => plain.whole (slash ▸ member)

/-- The names of a path that ends in a plain name. -/
theorem PlainName.steps (plain : PlainName name) {path front : List Char}
    (ends : path.splitOn '/' = front.splitOn '/' ++ [name.toList]) :
    FileTree.steps (String.ofList path) = (namesOf front ++ [name], false) := by
  simp [FileTree.steps, ends, namesOf, plain.nonempty]

/-- A path is its directory or empty, a slash, and the name. -/
theorem PlainName.steps_join (plain : PlainName name) (directory : String) :
    FileTree.steps (Path.join directory name) = (namesOf directory.toList ++ [name], false) := by
  have cut (front : List Char) :
      (front ++ '/' :: name.toList).splitOn '/' = front.splitOn '/' ++ [name.toList] := by
    rw [splitOn_slash, plain.splitOn]
  rw [Path.join, plain.isAbsolute, Bool.false_or]
  split
  · next empty =>
    obtain rfl := of_decide_eq_true empty
    simp [FileTree.steps, plain.splitOn, plain.nonempty, namesOf]
  · split
    · next ended =>
      obtain ⟨front, same⟩ := List.getLast?_eq_some_iff.mp ended
      have path : directory ++ name = String.ofList (front ++ '/' :: name.toList) := by
        rw [← String.toList_inj, String.toList_append, same, String.toList_ofList,
          List.append_assoc]
        rfl
      rw [path, plain.steps (cut front), same, namesOf_append]
      simp [namesOf]
    · have path : directory ++ "/" ++ name =
          String.ofList (directory.toList ++ '/' :: name.toList) := by
        simp [← String.toList_inj]
      rw [path, plain.steps (cut directory.toList)]

/-- A path starts where its directory starts. -/
theorem PlainName.startOf_join (plain : PlainName name) (tree : FileTree) (directory : String) :
    tree.startOf (Path.join directory name) = tree.startOf directory := by
  have same : Path.isAbsolute (Path.join directory name) = Path.isAbsolute directory := by
    rw [Path.join, plain.isAbsolute, Bool.false_or]
    split
    · next empty =>
      obtain rfl := of_decide_eq_true empty
      exact plain.isAbsolute
    · next nonempty =>
      have some : directory.toList ≠ [] := by simpa using nonempty
      obtain ⟨c, rest, same⟩ := List.exists_cons_of_ne_nil some
      split <;> simp [Path.isAbsolute, same]
  rw [startOf, startOf, same]

/-- The place of a file in a directory. -/
theorem PlainName.aim_join (plain : PlainName name) (tree : FileTree) (directory : String) :
    tree.aim (Path.join directory name) =
      (namesOf directory.toList).foldl next (tree.startOf directory) ++ [name] := by
  rw [aim, taken, plain.steps_join, plain.startOf_join, if_neg Bool.false_ne_true,
    List.append_nil, List.foldl_append]
  simp [next, plain.notDot, plain.notDots]

/-- Two files of a directory have one place exactly when they have one name. -/
theorem PlainName.aim_join_inj (plain : PlainName name) {sought : String}
    (plain' : PlainName sought) (tree : FileTree) (directory : String) :
    tree.aim (Path.join directory name) = tree.aim (Path.join directory sought) ↔
      name = sought := by
  rw [plain.aim_join, plain'.aim_join, List.append_cancel_left_eq, List.singleton_inj]

/-- The way to a file in a directory leads to the directory. -/
theorem PlainName.way_join (plain : PlainName name) (tree : FileTree) (directory : String) :
    tree.way (Path.join directory name) =
      passed (tree.startOf directory) (namesOf directory.toList) ++
        [(namesOf directory.toList).foldl next (tree.startOf directory)] := by
  rw [way, taken, plain.steps_join, plain.startOf_join, if_neg Bool.false_ne_true,
    List.append_nil, passed_append]
  rfl

end CopyOracle.FileTree
