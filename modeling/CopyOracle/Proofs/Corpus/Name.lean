import CopyOracle.Corpus
import CopyOracle.Proofs.File.Path
import Mathlib.Data.List.TakeWhile
/-!
# The names in a corpus

A case stands in the file of its name with an extension, and the name of the file gives the name of
the case back, whatever dots it holds. A file belongs to the corpus exactly when its name has that
extension and no underscore in front. The source is the name of the directory without its mark.
-/

namespace CopyOracle

/-- A name is parted at a dot exactly when that is its last one and something stands before it. -/
theorem Path.splitExtension_eq_some_iff {name stem extension : String} :
    splitExtension name = (stem, some extension) ↔
      stem ≠ "" ∧ '.' ∉ extension.toList ∧ name = stem ++ "." ++ extension := by
  rw [splitExtension]
  constructor
  · intro parted
    obtain ⟨rest, whole⟩ := List.takeWhile_prefix (· ≠ '.') (l := name.toList.reverse)
    generalize back : name.toList.reverse.takeWhile (· ≠ '.') = last at parted whole
    rw [← whole, List.drop_left] at parted
    split at parted
    · next c front =>
      obtain ⟨rfl, same⟩ := Prod.mk.inj parted
      obtain rfl := Option.some.inj same
      refine ⟨by simp [← String.toList_inj], fun dot => ?_, ?_⟩
      · rw [String.toList_ofList, List.mem_reverse, ← back] at dot
        exact absurd (List.mem_takeWhile_imp dot) (by decide)
      · rw [← String.toList_inj, ← List.reverse_inj, ← whole]
        simp
    · exact nomatch (Prod.mk.inj parted).2
  · rintro ⟨nonempty, undotted, rfl⟩
    have reversed : (stem ++ "." ++ extension).toList.reverse =
        extension.toList.reverse ++ '.' :: stem.toList.reverse := by simp
    have passed : ∀ c ∈ extension.toList.reverse, decide (c ≠ '.') = true := fun c member =>
      decide_eq_true fun dot => undotted (dot ▸ List.mem_reverse.mp member)
    rw [reversed, List.takeWhile_append_of_pos passed, List.takeWhile_cons, if_neg (by simp),
      List.append_nil, List.drop_left]
    split
    · next c front same =>
      rw [← (List.cons.inj same).2]
      simp
    · next other =>
      obtain ⟨c, front, same⟩ := List.exists_cons_of_ne_nil (l := stem.toList.reverse)
        (by simpa using nonempty)
      exact (other c front (by rw [same])).elim

namespace Corpus

/-- The name of the file of a case. -/
def fileOf (name : String) : String := name ++ ".txt"

/-- A name under which a case can be stored: it is not empty, holds no slash, and does not begin like
the files beside the cases. -/
structure StorableName (name : String) : Prop where
  /-- It is not empty. -/
  nonempty : name ≠ ""
  /-- It holds no slash. -/
  whole : '/' ∉ name.toList
  /-- It does not start with an underscore. -/
  unmarked : name.toList.head? ≠ some '_'

/-- A name of a file that is no case: it starts with an underscore or has another extension or
none. -/
structure AsideName (name : String) : Prop where
  /-- It is a name of a file. -/
  plain : FileTree.PlainName name
  /-- It starts with an underscore, or no name stands before the extension. -/
  aside : name.toList.head? = some '_' ∨ ∀ stem, name = fileOf stem → stem = ""

variable {name : String}

/-- A name is parted before the extension of a case exactly when it is that of a file of one. -/
theorem splitExtension_eq_txt_iff {stem : String} :
    Path.splitExtension name = (stem, some "txt") ↔ stem ≠ "" ∧ name = fileOf stem := by
  have dotted : ".txt" = "." ++ "txt" := by decide
  rw [Path.splitExtension_eq_some_iff, fileOf, dotted, ← String.append_assoc]
  exact and_congr_right fun _ => and_iff_right (by decide)

/-- A file is one of a case exactly when its name is that of a case with the extension, and does not
start with an underscore. -/
theorem isCaseName_eq_true_iff : isCaseName name = true ↔
    (∃ stem, stem ≠ "" ∧ name = fileOf stem) ∧ name.toList.head? ≠ some '_' := by
  rw [isCaseName, Bool.and_eq_true, decide_eq_true_eq, decide_eq_true_eq]
  refine and_congr_left fun _ => ⟨fun extended => ?_, ?_⟩
  · have parted : Path.splitExtension name = ((Path.splitExtension name).1, some "txt") := by
      rw [← extended]
    exact ⟨_, splitExtension_eq_txt_iff.mp parted⟩
  · rintro ⟨stem, file⟩
    rw [splitExtension_eq_txt_iff.mpr file]

/-- The file of a case is told from those of cases with other names. -/
theorem fileOf_injective : Function.Injective fileOf := fun left right same => by
  rw [fileOf, fileOf, String.append_left_inj] at same
  exact same

namespace StorableName

/-- The file of a case has a plain name. -/
theorem plain (storable : StorableName name) : FileTree.PlainName (fileOf name) where
  whole slash := by
    rw [fileOf, String.toList_append, List.mem_append] at slash
    exact slash.elim storable.whole (by decide)
  nonempty empty := by simp [fileOf] at empty
  notDot dot := by
    have length := congrArg (List.length ∘ String.toList) dot
    simp [fileOf] at length
  notDots dots := by
    have length := congrArg (List.length ∘ String.toList) dots
    simp [fileOf] at length

/-- The file of a case is one of the corpus. -/
theorem isCaseName (storable : StorableName name) : isCaseName (fileOf name) = true := by
  refine isCaseName_eq_true_iff.mpr ⟨⟨name, storable.nonempty, rfl⟩, ?_⟩
  rw [fileOf, String.toList_append, List.head?_append_of_ne_nil _ (by simpa using storable.nonempty)]
  exact storable.unmarked

end StorableName

/-- The other files of plain names are those beside the cases. -/
theorem isCaseName_eq_false_iff (plain : FileTree.PlainName name) :
    isCaseName name = false ↔ AsideName name := by
  rw [← Bool.not_eq_true, isCaseName_eq_true_iff]
  constructor
  · intro other
    refine ⟨plain, or_iff_not_imp_left.mpr fun unmarked stem named => ?_⟩
    by_contra nonempty
    exact other ⟨⟨stem, nonempty, named⟩, unmarked⟩
  · rintro ⟨-, aside⟩ ⟨⟨stem, nonempty, named⟩, unmarked⟩
    exact aside.elim unmarked fun unnamed => nonempty (unnamed stem named)

/-- What the cases in a directory have as their source. -/
inductive SourceOf (directory : String) : String → Prop
  /-- The name of the directory loses its mark. -/
  | marked {source} (named : Path.fileName? directory = some ("tests_" ++ source)) :
    SourceOf directory source
  /-- A name without the mark stays. -/
  | unmarked {source} (named : Path.fileName? directory = some source)
    (bare : ∀ rest, source ≠ "tests_" ++ rest) : SourceOf directory source
  /-- A directory without a name has a general one. -/
  | nameless (unnamed : Path.fileName? directory = none) : SourceOf directory "corpus"

/-- The cases in a directory get their source. -/
theorem sourceOf_spec (directory : String) : SourceOf directory (sourceOf directory) := by
  have marked (name : String) : directoryMark.isPrefixOf name.toList = true ↔
      name = "tests_" ++ String.ofList (name.toList.drop directoryMark.length) := by
    have rest := String.toList_ofList (l := name.toList.drop directoryMark.length)
    rw [List.isPrefixOf_iff_prefix, List.prefix_iff_eq_append, ← String.toList_inj,
      String.toList_append, rest]
    exact eq_comm
  rw [sourceOf]
  cases named : Path.fileName? directory with
  | none => exact .nameless named
  | some name =>
    dsimp only [Option.getD_some]
    split
    · next front => exact .marked (named.trans (congrArg some ((marked name).mp front)))
    · next bare =>
      refine .unmarked named fun rest same => bare ?_
      rw [same, String.toList_append]
      exact List.isPrefixOf_iff_prefix.mpr (List.prefix_append _ _)

end Corpus

end CopyOracle
