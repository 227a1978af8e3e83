import CopyOracle.Mapping

/-!
# Canonical order of copies

Copies are in canonical order when each comes strictly before the next one as a tuple. The
comparison of tuples is a strict order, so a list in canonical order has no copy twice and no
other order of it is canonical.
-/
namespace CopyOracle

/-- Two neighbours of a list of copies that are out of order or equal. -/
structure OrderViolation where
  /-- The number of the earlier copy, counted from one. -/
  earlier : Nat
  /-- The earlier copy. -/
  earlierCopy : Mapping
  /-- The copy after it. -/
  laterCopy : Mapping
deriving DecidableEq, Repr

/-- The number of the later of the two neighbours. -/
def OrderViolation.later (violation : OrderViolation) : Nat := violation.earlier + 1

/-- The wording of an order violation. -/
def OrderViolation.message (violation : OrderViolation) : String :=
  let earlier := String.ofList violation.earlierCopy.write
  let later := String.ofList violation.laterCopy.write
  s!"copy {violation.earlier} ({earlier}) does not precede copy {violation.later} ({later})"

/-- The first neighbours that are out of order, the list being numbered from `number`. -/
def firstDescent? : (number : Nat) → List Mapping → Option OrderViolation
  | number, first :: second :: rest =>
    if (compare first second).isLT then firstDescent? (number + 1) (second :: rest)
    else some ⟨number, first, second⟩
  | _, _ => none

/-- Whether the copies are in canonical order. -/
def checkOrder (mappings : List Mapping) : Except OrderViolation Unit :=
  match firstDescent? 1 mappings with
  | some violation => .error violation
  | none => .ok ()

end CopyOracle
