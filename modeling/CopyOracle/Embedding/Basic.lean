import CopyOracle.Graph.Extension
import CopyOracle.Mapping

/-!
# Embeddings

A mapping embeds a pattern into a host when it assigns every pattern vertex to a host vertex of
its own and each pair of pattern vertices, loops included, has at least as many edges between
its images as in the pattern. `Embeds` says so; `checkEmbedding` decides it, and otherwise names
the first thing wrong in a fixed order.
-/
namespace CopyOracle

/-- Why a mapping embeds no pattern into a host. -/
inductive EmbeddingViolation where
  /-- The mapping has another number of sources than the pattern has vertices. -/
  | sourceCount (expected actual : Nat)
  /-- A pattern vertex has no target. -/
  | incomplete (vertex : Nat)
  /-- Two pattern vertices share a target. -/
  | notInjective (first second target : Nat)
  /-- A target is no vertex of the host. -/
  | targetOutOfRange (vertex target order : Nat)
  /-- The host has fewer edges between two images than the pattern between their sources. -/
  | shortfall (u v mappedU mappedV : Nat) (required available : UInt32)
deriving DecidableEq, Repr

/-- The wording of an embedding violation. -/
def EmbeddingViolation.message : EmbeddingViolation → String
  | .sourceCount expected actual =>
    s!"mapping covers {actual} vertices but the pattern has {expected}"
  | .incomplete vertex => s!"vertex {vertex} is unmapped"
  | .notInjective first second target => s!"vertices {first} and {second} both map to {target}"
  | .targetOutOfRange vertex target order =>
    s!"vertex {vertex} maps to {target}, outside a host with {order} vertices"
  | .shortfall u v mappedU mappedV required available =>
    s!"E1({u},{v})={required} exceeds E'2({mappedU},{mappedV})={available}"

/-- The mapping assigns each pattern vertex, and only those, to a host vertex of its own, with
enough edges between the images of every pair. -/
structure Embeds (pattern host : Graph) (mapping : Mapping) : Prop where
  /-- The sources are the pattern vertices. -/
  sources : mapping.sources = pattern.order
  /-- Every pattern vertex has a target, a host vertex. -/
  assigned : ∀ u < pattern.order, ∃ x < host.order, mapping.get? u = some x
  /-- No target is shared. -/
  injective : ∀ u v x, mapping.get? u = some x → mapping.get? v = some x → u = v
  /-- Every pair has the edges it needs. -/
  edges : ∀ u v x y, mapping.get? u = some x → mapping.get? v = some y →
    pattern.edgeCount u v ≤ host.edgeCount x y

/-- The first pattern vertex, in order, without a target. -/
def firstUnmapped? (order : Nat) (mapping : Mapping) : Option Nat :=
  (List.range order).find? fun vertex => (mapping.get? vertex).isNone

/-- The first assignment, in order, to a vertex that the host does not have. -/
def firstOutside? (host : Graph) (mapping : Mapping) : Option (Nat × Nat) :=
  mapping.assignments.find? fun (_, target) => host.order ≤ target

/-- The first pair of assignments, in order of their sources, with too few edges. -/
def firstShortfall? (pattern host : Graph) (mapping : Mapping) :
    Option ((Nat × Nat) × (Nat × Nat)) :=
  let pairs := mapping.assignments.flatMap fun first =>
    mapping.assignments.map fun second => (first, second)
  pairs.find? fun ((u, x), (v, y)) => host.edgeCount x y < pattern.edgeCount u v

/-- Whether a mapping embeds a pattern into a host, or else what is wrong first: the number of
sources, a source without a target, a shared target, a target outside the host, and last a pair
with too few edges. -/
def checkEmbedding (pattern host : Graph) (mapping : Mapping) : Except EmbeddingViolation Unit :=
  if mapping.sources ≠ pattern.order then
    .error (.sourceCount pattern.order mapping.sources)
  else match firstUnmapped? pattern.order mapping with
  | some vertex => .error (.incomplete vertex)
  | none => match mapping.firstCollision? with
  | some shared => .error (.notInjective shared.first shared.second shared.target)
  | none => match firstOutside? host mapping with
  | some (vertex, target) => .error (.targetOutOfRange vertex target host.order)
  | none => match firstShortfall? pattern host mapping with
  | some ((u, x), (v, y)) =>
    .error (.shortfall u v x y (pattern.edgeCount u v) (host.edgeCount x y))
  | none => .ok ()

end CopyOracle
