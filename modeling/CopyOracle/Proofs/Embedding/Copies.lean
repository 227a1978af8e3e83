import CopyOracle.Proofs.Embedding
import Mathlib.Data.Prod.Lex
/-!
# The first violation of distinct copies

A list of copies that is refused has another length than was asked for, or else a copy that is
refused, of which the least is named with its own violation, or else two copies on one vertex set,
of which the lexicographically least pair is named. Copies are numbered from one.
-/

namespace CopyOracle

/-- The least pair of equal members of a list, in lexicographic order. -/
structure FirstRepeat (images : List (List Nat)) (first second : Nat) (image : List Nat) :
    Prop where
  /-- The first member comes before the second. -/
  before : first < second
  /-- The first member is this one. -/
  earlier : images[first]? = some image
  /-- The second member is the same. -/
  later : images[second]? = some image
  /-- The members of every lesser pair differ. -/
  least : ∀ i j, i < j → Prod.Lex (· < ·) (· < ·) (i, j) (first, second) →
    ∀ other, images[i]? = some other → images[j]? ≠ some other

/-- Of two different pairs one is the lesser. -/
theorem lex_trichotomy (pair other : Nat × Nat) : Prod.Lex (· < ·) (· < ·) pair other ∨
    pair = other ∨ Prod.Lex (· < ·) (· < ·) other pair := by
  simp only [Prod.lex_def, Prod.ext_iff]
  omega

variable {images : List (List Nat)} {image : List Nat} {first second : Nat}

/-- There is one least pair at most. -/
theorem FirstRepeat.unique {image' : List Nat} {first' second' : Nat}
    (here : FirstRepeat images first second image)
    (there : FirstRepeat images first' second' image') :
    first = first' ∧ second = second' ∧ image = image' := by
  rcases lex_trichotomy (first, second) (first', second') with less | same | greater
  · exact absurd here.later (there.least _ _ here.before less _ here.earlier)
  · obtain ⟨rfl, rfl⟩ := Prod.mk.inj same
    exact ⟨rfl, rfl, Option.some.inj (here.earlier.symm.trans there.earlier)⟩
  · exact absurd there.later (here.least _ _ there.before greater _ there.earlier)

/-- A new member in front moves the least pair by one place. -/
theorem FirstRepeat.cons {front : List Nat} (here : FirstRepeat images first second image)
    (fresh : front ∉ images) : FirstRepeat (front :: images) (first + 1) (second + 1) image where
  before := Nat.succ_lt_succ here.before
  earlier := here.earlier
  later := here.later
  least := by
    rintro (_ | i) (_ | j) before less other atI atJ
    · exact Nat.lt_irrefl _ before
    · obtain rfl := Option.some.inj atI
      exact fresh (List.mem_of_getElem? atJ)
    · exact Nat.not_lt_zero _ before
    · refine here.least i j (Nat.lt_of_succ_lt_succ before) ?_ other atI atJ
      simpa [Prod.lex_def] using less

/-- The first place of a repeated member makes the least pair with the front. -/
theorem firstRepeat_front {offset : Nat}
    (found : images.findIdx? (· == image) = some offset) :
    FirstRepeat (image :: images) 0 (offset + 1) image := by
  obtain ⟨inside, same, fresh⟩ := List.findIdx?_eq_some_iff_getElem.mp found
  have repeated : images[offset] = image := by simpa using same
  refine ⟨Nat.succ_pos offset, rfl, ?_, ?_⟩
  · rw [List.getElem?_cons_succ, List.getElem?_eq_getElem inside, repeated]
  · intro i j before less other atI atJ
    obtain ⟨rfl, earlier⟩ : i = 0 ∧ j < offset + 1 := by simpa [Prod.lex_def] using less
    obtain ⟨j, rfl⟩ := Nat.exists_eq_succ_of_ne_zero (Nat.ne_of_gt before)
    obtain rfl := Option.some.inj atI
    obtain ⟨bound, again⟩ := List.getElem?_eq_some_iff.mp atJ
    exact fresh j (Nat.lt_of_succ_lt_succ earlier) (beq_iff_eq.mpr again)

/-- Members that are reported as repeated are the least pair. -/
theorem firstRepeat_of_eq_some {number low high : Nat}
    (found : firstRepeat? number images = some (low, high, image)) : ∃ first second,
      low = number + first ∧ high = number + second ∧ FirstRepeat images first second image := by
  induction images generalizing number with
  | nil => contradiction
  | cons front images ih =>
    rw [firstRepeat?] at found
    split at found
    · next offset again =>
      obtain ⟨rfl, rfl, rfl⟩ : number = low ∧ number + offset + 1 = high ∧ front = image := by
        simpa using found
      exact ⟨0, offset + 1, rfl, rfl, firstRepeat_front again⟩
    · next new =>
      obtain ⟨first, second, rfl, rfl, least⟩ := ih found
      have fresh : front ∉ images := fun member => by
        have differs := List.findIdx?_eq_none_iff.mp new front member
        simp at differs
      exact ⟨first + 1, second + 1, by omega, by omega, least.cons fresh⟩

/-- The members that are reported as repeated are exactly the least pair. -/
theorem firstRepeat?_eq_some_iff {number : Nat} :
    firstRepeat? number images = some (number + first, number + second, image) ↔
      FirstRepeat images first second image := by
  constructor
  · intro found
    obtain ⟨i, j, atFirst, atSecond, least⟩ := firstRepeat_of_eq_some found
    obtain rfl := Nat.add_left_cancel atFirst
    obtain rfl := Nat.add_left_cancel atSecond
    exact least
  · intro least
    cases found : firstRepeat? number images with
    | none =>
      have distinct := List.pairwise_iff_getElem.mp (firstRepeat?_eq_none_iff.mp found)
      obtain ⟨inFirst, atFirst⟩ := List.getElem?_eq_some_iff.mp least.earlier
      obtain ⟨inSecond, atSecond⟩ := List.getElem?_eq_some_iff.mp least.later
      exact absurd (atFirst.trans atSecond.symm) (distinct first second inFirst inSecond least.before)
    | some reported =>
      obtain ⟨low, high, repeated⟩ := reported
      obtain ⟨i, j, rfl, rfl, other⟩ := firstRepeat_of_eq_some found
      obtain ⟨rfl, rfl, rfl⟩ := other.unique least
      rfl

variable {pattern host : Graph} {mappings : List Mapping} {copies : Nat}

/-- What is wrong first with a list of mappings that is no list of so many distinct copies. -/
inductive FirstCopyViolation (pattern host : Graph) (mappings : List Mapping) (copies : Nat) :
    CopyViolation → Prop where
  /-- There are not as many as were asked for. -/
  | countMismatch (differs : mappings.length ≠ copies) :
    FirstCopyViolation pattern host mappings copies (.countMismatch copies mappings.length)
  /-- This is the least copy that is refused, with its own violation. -/
  | invalidEmbedding {index : Nat} {mapping : Mapping} {violation : EmbeddingViolation}
      (count : mappings.length = copies) (listed : mappings[index]? = some mapping)
      (refused : checkEmbedding pattern host mapping = .error violation)
      (least : ∀ earlier < index, ∀ other, mappings[earlier]? = some other →
        checkEmbedding pattern host other = .ok ()) :
    FirstCopyViolation pattern host mappings copies (.invalidEmbedding (index + 1) violation)
  /-- This is the least pair of copies on one vertex set, with that set in ascending order. -/
  | duplicateImage {first second : Nat} {left right : Mapping} {image : List Nat}
      (count : mappings.length = copies)
      (valid : ∀ mapping ∈ mappings, checkEmbedding pattern host mapping = .ok ())
      (before : first < second)
      (earlier : mappings[first]? = some left) (later : mappings[second]? = some right)
      (same : left.vertexSet = right.vertexSet)
      (least : ∀ i j, i < j → Prod.Lex (· < ·) (· < ·) (i, j) (first, second) →
        ∀ other another, mappings[i]? = some other → mappings[j]? = some another →
          other.vertexSet ≠ another.vertexSet)
      (ascending : image.Pairwise (· < ·)) (members : ∀ x, x ∈ image ↔ x ∈ left.vertexSet) :
    FirstCopyViolation pattern host mappings copies
      (.duplicateImage (first + 1) (second + 1) image)

/-- The copy that is reported as invalid is the least one that is refused. -/
theorem firstInvalid?_eq_some_iff {number copy : Nat} {violation : EmbeddingViolation} :
    firstInvalid? pattern host number mappings = some (copy, violation) ↔
      ∃ index mapping, copy = number + index ∧ mappings[index]? = some mapping ∧
        checkEmbedding pattern host mapping = .error violation ∧
        ∀ earlier < index, ∀ other, mappings[earlier]? = some other →
          checkEmbedding pattern host other = .ok () := by
  induction mappings generalizing number with
  | nil => simp [firstInvalid?]
  | cons front mappings ih =>
    rw [firstInvalid?]
    cases checked : checkEmbedding pattern host front with
    | error fault =>
      simp only [Option.some.injEq, Prod.mk.injEq]
      constructor
      · rintro ⟨rfl, rfl⟩
        exact ⟨0, front, rfl, rfl, checked, fun _ before => absurd before (Nat.not_lt_zero _)⟩
      · rintro ⟨_ | index, mapping, rfl, listed, refused, least⟩
        · obtain rfl := Option.some.inj listed
          exact ⟨rfl, Except.error.inj (checked.symm.trans refused)⟩
        · have accepted := least 0 (Nat.succ_pos index) front rfl
          rw [checked] at accepted
          contradiction
    | ok _ =>
      simp only [ih]
      constructor
      · rintro ⟨index, mapping, rfl, listed, refused, least⟩
        refine ⟨index + 1, mapping, by omega, listed, refused, ?_⟩
        rintro (_ | earlier) before other entry
        · obtain rfl := Option.some.inj entry
          exact checked
        · exact least earlier (Nat.lt_of_succ_lt_succ before) other entry
      · rintro ⟨_ | index, mapping, rfl, listed, refused, least⟩
        · obtain rfl := Option.some.inj listed
          rw [checked] at refused
          contradiction
        · exact ⟨index, mapping, by omega, listed, refused, fun earlier before =>
            least (earlier + 1) (Nat.succ_lt_succ before)⟩

/-- No copy is reported as invalid exactly when each is accepted. -/
theorem firstInvalid?_eq_none_iff_checked {number : Nat} :
    firstInvalid? pattern host number mappings = none ↔
      ∀ mapping ∈ mappings, checkEmbedding pattern host mapping = .ok () := by
  simp only [firstInvalid?_eq_none_iff, checkEmbedding_eq_ok_iff]

/-- The least pair of equal images is the least pair of copies on one vertex set. -/
theorem firstRepeat_images_iff : FirstRepeat (mappings.map Mapping.image) first second image ↔
    first < second ∧ ∃ left right, mappings[first]? = some left ∧ mappings[second]? = some right ∧
      left.vertexSet = right.vertexSet ∧
      (∀ i j, i < j → Prod.Lex (· < ·) (· < ·) (i, j) (first, second) →
        ∀ other another, mappings[i]? = some other → mappings[j]? = some another →
          other.vertexSet ≠ another.vertexSet) ∧
      image.Pairwise (· < ·) ∧ ∀ x, x ∈ image ↔ x ∈ left.vertexSet := by
  have entry {index : Nat} {image : List Nat} :
      (mappings.map Mapping.image)[index]? = some image ↔
        ∃ mapping, mappings[index]? = some mapping ∧ mapping.image = image := by
    rw [List.getElem?_map, Option.map_eq_some_iff]
  constructor
  · rintro ⟨before, earlier, later, least⟩
    obtain ⟨left, atFirst, rfl⟩ := entry.mp earlier
    obtain ⟨right, atSecond, same⟩ := entry.mp later
    refine ⟨before, left, right, atFirst, atSecond, Mapping.image_eq_image_iff.mp same.symm, ?_,
      left.image_ascending, fun x => Mapping.mem_image⟩
    intro i j less lesser other another atI atJ equal
    exact least i j less lesser other.image (entry.mpr ⟨other, atI, rfl⟩)
      (entry.mpr ⟨another, atJ, (Mapping.image_eq_image_iff.mpr equal).symm⟩)
  · rintro ⟨before, left, right, atFirst, atSecond, same, least, ascending, members⟩
    obtain rfl : left.image = image := Mapping.eq_of_ascending left.image_ascending ascending
      fun x => Mapping.mem_image.trans (members x).symm
    refine ⟨before, entry.mpr ⟨left, atFirst, rfl⟩,
      entry.mpr ⟨right, atSecond, (Mapping.image_eq_image_iff.mpr same).symm⟩, ?_⟩
    intro i j less lesser _ atI atJ
    obtain ⟨other, listed, rfl⟩ := entry.mp atI
    obtain ⟨another, found, equal⟩ := entry.mp atJ
    exact least i j less lesser other another listed found
      (Mapping.image_eq_image_iff.mp equal.symm)

/-- A violation that is reported is the first one. -/
theorem FirstCopyViolation.of_reported {violation : CopyViolation}
    (refused : checkCopies pattern host mappings copies = .error violation) :
    FirstCopyViolation pattern host mappings copies violation := by
  rw [checkCopies] at refused
  split at refused
  · next differs =>
    obtain rfl := Except.error.inj refused
    exact .countMismatch differs
  · next count =>
    have count := not_not.mp count
    split at refused
    · next copy fault invalid =>
      obtain rfl := Except.error.inj refused
      obtain ⟨index, mapping, rfl, listed, rejected, least⟩ :=
        firstInvalid?_eq_some_iff.mp invalid
      rw [Nat.add_comm]
      exact .invalidEmbedding count listed rejected least
    · next none =>
      have valid := firstInvalid?_eq_none_iff_checked.mp none
      split at refused
      · next low high image repeated =>
        obtain rfl := Except.error.inj refused
        obtain ⟨first, second, rfl, rfl, pair⟩ := firstRepeat_of_eq_some repeated
        obtain ⟨before, left, right, earlier, later, same, least, ascending, members⟩ :=
          firstRepeat_images_iff.mp pair
        rw [Nat.add_comm 1, Nat.add_comm 1]
        exact .duplicateImage count valid before earlier later same least ascending members
      · contradiction

/-- The first violation is reported. -/
theorem FirstCopyViolation.reported {violation : CopyViolation}
    (violated : FirstCopyViolation pattern host mappings copies violation) :
    checkCopies pattern host mappings copies = .error violation := by
  cases violated with
  | countMismatch differs => rw [checkCopies, if_pos differs]
  | @invalidEmbedding index mapping fault count listed refused least =>
    have invalid : firstInvalid? pattern host 1 mappings = some (index + 1, fault) :=
      firstInvalid?_eq_some_iff.mpr
        ⟨index, mapping, Nat.add_comm .., listed, refused, least⟩
    rw [checkCopies, if_neg (not_not.mpr count), invalid]
  | @duplicateImage first second left right image count valid before earlier later same least
      ascending members =>
    have repeated : firstRepeat? 1 (mappings.map Mapping.image) =
        some (1 + first, 1 + second, image) :=
      firstRepeat?_eq_some_iff.mpr (firstRepeat_images_iff.mpr
        ⟨before, left, right, earlier, later, same, least, ascending, members⟩)
    rw [checkCopies, if_neg (not_not.mpr count), firstInvalid?_eq_none_iff_checked.mpr valid,
      repeated, Nat.add_comm 1, Nat.add_comm 1]

/-- A list of mappings is accepted exactly when it is as long as was asked for, each mapping is
accepted, and no two have one vertex set; and it is refused with a violation exactly when that one
is the first: the length, the least refused copy, and last the least pair on one vertex set. -/
theorem checkCopies_exact (pattern host : Graph) (mappings : List Mapping) (copies : Nat) :
    (checkCopies pattern host mappings copies = .ok () ↔ mappings.length = copies ∧
      (∀ mapping ∈ mappings, checkEmbedding pattern host mapping = .ok ()) ∧
      mappings.Pairwise fun left right => left.vertexSet ≠ right.vertexSet) ∧
    ∀ violation, checkCopies pattern host mappings copies = .error violation ↔
      FirstCopyViolation pattern host mappings copies violation := by
  refine ⟨?_, fun _ => ⟨.of_reported, FirstCopyViolation.reported⟩⟩
  simp only [checkCopies_eq_ok_iff, checkEmbedding_eq_ok_iff]
  exact ⟨fun distinct => ⟨distinct.count, distinct.embeds, distinct.distinct⟩,
    fun ⟨count, embeds, distinct⟩ => ⟨count, embeds, distinct⟩⟩

end CopyOracle
