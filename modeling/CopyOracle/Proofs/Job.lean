import CopyOracle.Job.Basic
import CopyOracle.Proofs.Number.Numeral
import Mathlib.Data.List.Basic
/-!
# The file names of jobs

The file name of a job tells the seed and the algorithm of a random case, and of any other case the
algorithm and the text that joins source and name. It does not tell where the source ends, so names
of two sources may meet in one file name.
-/

namespace CopyOracle

namespace Job

/-- What stands in a file name before the algorithm. -/
def archiveStem (job : Job) : String :=
  match job.seed with
  | some seed => s!"fuzz_fail_{seed}"
  | none => "fail_" ++ (job.source ++ "_" ++ job.name)

/-- A file name is its stem with the algorithm. -/
theorem archiveFile_eq (job : Job) :
    job.archiveFile = job.archiveStem ++ ("_" ++ job.algorithm.name ++ ".txt") := by
  rw [archiveFile, archiveName.eq_def, archiveStem.eq_def]
  cases job.seed <;> simp only [String.append_assoc] <;> rfl

/-- Whether two jobs differ in what their file names tell: random cases in the seed or the
algorithm, other cases in the text that joins source and name or in the algorithm. -/
def Apart (left right : Job) : Prop :=
  match left.seed, right.seed with
  | some seed, some other => (seed, left.algorithm) ≠ (other, right.algorithm)
  | none, none =>
    (left.source ++ "_" ++ left.name, left.algorithm) ≠
      (right.source ++ "_" ++ right.name, right.algorithm)
  | _, _ => True

/-- A seed is written with its digits. -/
theorem toList_toString_seed (seed : UInt64) :
    (toString seed).toList = Numeral.digits seed.toNat :=
  String.toList_ofList

/-- A seed is told by its digits. -/
theorem toString_seed_inj {seed other : UInt64} :
    toString seed = toString other ↔ seed = other := by
  refine ⟨fun same => UInt64.toNat_inj.mp ?_, congrArg _⟩
  have digits := congrArg (fun text => Numeral.value? text.toList) same
  simpa only [toList_toString_seed, Numeral.value?_digits, Option.some.injEq] using digits

/-- Digits are no slashes. -/
theorem slash_not_mem_seed (seed : UInt64) : '/' ∉ (toString seed).toList := by
  intro member
  rw [toList_toString_seed] at member
  exact absurd (Numeral.isDigit_of_mem_digits member) (by decide)

/-- The stem and the algorithm are told by the whole. -/
theorem append_algorithm_inj {stem other : String} {left right : Algorithm} :
    stem ++ ("_" ++ left.name ++ ".txt") = other ++ ("_" ++ right.name ++ ".txt") ↔
      stem = other ∧ left = right := by
  -- The names of the two algorithms end in different letters.
  have ends (stem : String) (algorithm : Algorithm) :
      (stem ++ ("_" ++ algorithm.name ++ ".txt")).toList.reverse[4]? =
        some (if algorithm = .exact then 't' else 'x') := by
    cases algorithm <;> simp [Algorithm.name]
  constructor
  · intro same
    have letters := (ends stem left).symm.trans (same ▸ ends other right)
    obtain rfl : left = right := by
      cases left <;> cases right <;> first | rfl | simp at letters
    exact ⟨(String.append_left_inj _).mp same, rfl⟩
  · rintro ⟨rfl, rfl⟩
    rfl

/-- The stem of a random case is that of no other case. -/
theorem seeded_stem_ne (digits joined : String) : "fuzz_fail_" ++ digits ≠ "fail_" ++ joined := by
  intro same
  have letters := congrArg (fun text => text.toList[1]?) same
  simp at letters

/-- Two jobs have different file names exactly when they differ in what file names tell. -/
theorem archiveFile_ne_iff {left right : Job} :
    left.archiveFile ≠ right.archiveFile ↔ left.Apart right := by
  rw [archiveFile_eq, archiveFile_eq, ne_eq, append_algorithm_inj, archiveStem.eq_def,
    archiveStem.eq_def, Apart.eq_def]
  cases left.seed with
  | some seed =>
    cases right.seed with
    | some other =>
      dsimp only
      rw [ne_eq, Prod.mk.injEq, ← toString_seed_inj]
      exact not_congr (and_congr_left' (String.append_right_inj "fuzz_fail_"))
    | none => exact iff_of_true (fun same => seeded_stem_ne _ _ same.1) trivial
  | none =>
    cases right.seed with
    | some other => exact iff_of_true (fun same => seeded_stem_ne _ _ same.1.symm) trivial
    | none =>
      dsimp only
      rw [ne_eq, Prod.mk.injEq]
      exact not_congr (and_congr_left' (String.append_right_inj "fail_"))

instance (left right : Job) : Decidable (left.Apart right) :=
  decidable_of_iff _ archiveFile_ne_iff

/-- Whether two jobs are different cases or run different algorithms: random cases are told by their
seed, and other cases by source and name. -/
def Differs (left right : Job) : Prop :=
  match left.seed, right.seed with
  | some seed, some other => (seed, left.algorithm) ≠ (other, right.algorithm)
  | none, none => (left.source, left.name, left.algorithm) ≠
      (right.source, right.name, right.algorithm)
  | _, _ => True

/-- Where a source holds no underscore, the joined text tells where it ends. -/
theorem joined_inj {source other name name' : String} (whole : '_' ∉ source.toList)
    (whole' : '_' ∉ other.toList) :
    source ++ "_" ++ name = other ++ "_" ++ name' ↔ source = other ∧ name = name' := by
  have front {text rest : List Char} (whole : '_' ∉ text) :
      (text ++ '_' :: rest).takeWhile (· ≠ '_') = text := by
    have passes : ∀ c ∈ text, decide (c ≠ '_') = true := fun c member =>
      decide_eq_true fun same => whole (same ▸ member)
    rw [List.takeWhile_append_of_pos passes]
    simp
  constructor
  · intro same
    have cut := congrArg (fun joined => joined.toList.takeWhile (· ≠ '_')) same
    simp only [String.toList_append, List.append_assoc] at cut
    obtain rfl := String.toList_inj.mp ((front whole).symm.trans (cut.trans (front whole')))
    exact ⟨rfl, (String.append_right_inj _).mp same⟩
  · rintro ⟨rfl, rfl⟩
    rfl

/-- File names tell all cases apart whose sources hold no underscore. -/
theorem Differs.apart {left right : Job} (differs : left.Differs right)
    (whole : '_' ∉ left.source.toList) (whole' : '_' ∉ right.source.toList) :
    left.Apart right := by
  revert differs
  rw [Differs.eq_def, Apart.eq_def]
  cases left.seed <;> cases right.seed <;> intro differs
  · simpa only [ne_eq, Prod.mk.injEq, joined_inj whole whole', and_assoc] using differs
  · trivial
  · trivial
  · exact differs

/-- A file name begins with a letter. -/
theorem head?_archiveFile (job : Job) : job.archiveFile.toList.head? = some 'f' := by
  rw [archiveFile_eq, archiveStem.eq_def]
  cases job.seed with
  | some seed =>
    change ("fuzz_fail_" ++ toString seed ++ _).toList.head? = _
    simp
  | none => simp

/-- A file name has no slash when the source and the name have none. -/
theorem slash_not_mem_archiveFile {job : Job} (source : '/' ∉ job.source.toList)
    (name : '/' ∉ job.name.toList) : '/' ∉ job.archiveFile.toList := by
  have algorithm : '/' ∉ ("_" ++ job.algorithm.name ++ ".txt").toList := by
    cases job.algorithm <;> decide
  have stem : '/' ∉ job.archiveStem.toList := by
    rw [archiveStem.eq_def]
    cases job.seed with
    | some seed =>
      change '/' ∉ ("fuzz_fail_" ++ toString seed).toList
      simp [slash_not_mem_seed]
    | none => simp [source, name]
  rw [archiveFile_eq, String.toList_append, List.mem_append, not_or]
  exact ⟨stem, algorithm⟩

end Job

end CopyOracle
