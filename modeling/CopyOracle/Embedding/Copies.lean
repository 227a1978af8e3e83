import CopyOracle.Embedding.Basic

/-!
# Distinct copies

An answer has to list as many copies as were asked for, each an embedding, and no two on one
vertex set. The embeddings are checked first, in order; then the first two copies that share
their vertex set are named. Copies are numbered from one.
-/
namespace CopyOracle

/-- Why a list of mappings is no list of so many distinct copies. -/
inductive CopyViolation where
  /-- The list has another length than the number of copies. -/
  | countMismatch (expected actual : Nat)
  /-- A copy is no embedding. -/
  | invalidEmbedding (copy : Nat) (violation : EmbeddingViolation)
  /-- Two copies share their vertex set. -/
  | duplicateImage (first second : Nat) (image : List Nat)
deriving DecidableEq, Repr

/-- A written list of vertices in square brackets. -/
def bracketed (vertices : List Nat) : String :=
  "[" ++ ", ".intercalate (vertices.map toString) ++ "]"

/-- The wording of a copy violation. -/
def CopyViolation.message : CopyViolation → String
  | .countMismatch expected actual =>
    s!"expected {expected} mappings but {actual} were reported"
  | .invalidEmbedding copy violation => s!"copy {copy}: {violation.message}"
  | .duplicateImage first second image =>
    s!"copies {first} and {second} share the vertex set {bracketed image}"

/-- The first mapping that is no embedding, the list being numbered from `number`. -/
def firstInvalid? (pattern host : Graph) : (number : Nat) → List Mapping →
    Option (Nat × EmbeddingViolation)
  | _, [] => none
  | number, mapping :: later =>
    match checkEmbedding pattern host mapping with
    | .error violation => some (number, violation)
    | .ok () => firstInvalid? pattern host (number + 1) later

/-- The first two equal vertex sets, the list being numbered from `number`. -/
def firstRepeat? : (number : Nat) → List (List Nat) → Option (Nat × Nat × List Nat)
  | _, [] => none
  | number, image :: later =>
    match later.findIdx? (· == image) with
    | some offset => some (number, number + offset + 1, image)
    | none => firstRepeat? (number + 1) later

/-- Whether the mappings are so many embeddings on different vertex sets. -/
def checkCopies (pattern host : Graph) (mappings : List Mapping) (copies : Nat) :
    Except CopyViolation Unit :=
  if mappings.length ≠ copies then .error (.countMismatch copies mappings.length)
  else match firstInvalid? pattern host 1 mappings with
  | some (copy, violation) => .error (.invalidEmbedding copy violation)
  | none => match firstRepeat? 1 (mappings.map Mapping.image) with
  | some (first, second, image) => .error (.duplicateImage first second image)
  | none => .ok ()

end CopyOracle
