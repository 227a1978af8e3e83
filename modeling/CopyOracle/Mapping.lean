import CopyOracle.Number.Numeral

/-!
# Mappings of pattern vertices

A mapping assigns some of the pattern vertices `0 … sources - 1` to vertices of another graph.
It may be partial while an answer is being read; whether it embeds a pattern is decided
elsewhere. Mappings are compared as tuples: an unassigned vertex comes before every assigned
one, and a tuple before every longer tuple that it begins.
-/
namespace CopyOracle

/-- The target of each pattern vertex, where it has one. -/
structure Mapping where
  /-- Entry `i` is the target of pattern vertex `i`. -/
  targets : List (Option Nat)
deriving DecidableEq, Repr

/-- Two sources with one target. -/
structure Collision where
  /-- The earlier source. -/
  first : Nat
  /-- The later source. -/
  second : Nat
  /-- The target of both. -/
  target : Nat
deriving DecidableEq, Repr

namespace Mapping

/-- The mapping of so many sources that assigns none of them. -/
def unassigned (sources : Nat) : Mapping := ⟨List.replicate sources none⟩

/-- The mapping that assigns source `i` to the `i`-th of the targets. -/
def ofTargets (targets : List Nat) : Mapping := ⟨targets.map some⟩

/-- Number of pattern vertices covered, assigned or not. -/
def sources (mapping : Mapping) : Nat := mapping.targets.length

/-- The target of a source, when it has one. -/
def get? (mapping : Mapping) (source : Nat) : Option Nat := mapping.targets[source]?.join

/-- The mapping with a source assigned anew; none when it is no source. -/
def set? (mapping : Mapping) (source target : Nat) : Option Mapping :=
  if source < mapping.sources then some ⟨mapping.targets.set source (some target)⟩ else none

/-- Whether every source is assigned. -/
def isComplete (mapping : Mapping) : Bool := mapping.targets.all Option.isSome

/-- The assigned sources with their targets, in the order of the sources. -/
def assignments (mapping : Mapping) : List (Nat × Nat) :=
  mapping.targets.zipIdx.filterMap fun (target, source) => target.map fun t => (source, t)

/-- The first assignment whose target an earlier one has, given those already seen. -/
def collisionAfter (seen : List (Nat × Nat)) : List (Nat × Nat) → Option Collision
  | [] => none
  | (source, target) :: rest =>
    match seen.find? fun earlier => earlier.2 == target with
    | some (first, _) => some ⟨first, source, target⟩
    | none => collisionAfter ((source, target) :: seen) rest

/-- The first two sources, in index order, that share a target. -/
def firstCollision? (mapping : Mapping) : Option Collision :=
  collisionAfter [] mapping.assignments

/-- Whether no two sources share a target. -/
def isInjection (mapping : Mapping) : Bool := mapping.firstCollision?.isNone

/-- An ascending list with one more member. -/
def insertAscending (n : Nat) : List Nat → List Nat
  | [] => [n]
  | m :: rest =>
    if n < m then n :: m :: rest
    else if n = m then m :: rest
    else m :: insertAscending n rest

/-- The targets in use, ascending and each once. -/
def image (mapping : Mapping) : List Nat :=
  (mapping.assignments.map Prod.snd).foldr insertAscending []

/-- The written mapping: its assignments with a comma and a space between them. -/
def write (mapping : Mapping) : Text :=
  [',', ' '].intercalate (mapping.assignments.map fun (source, target) =>
    Numeral.digits source ++ '-' :: '>' :: Numeral.digits target)

instance : Ord Mapping where
  compare left right := compare left.targets right.targets

end Mapping

end CopyOracle
