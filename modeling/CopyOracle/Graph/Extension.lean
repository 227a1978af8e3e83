import CopyOracle.Graph.Basic

/-!
# Extensions and their cost

One graph extends another when both have the same vertices and no entry decreases. The cost of
an extension is the number of edges it adds, a 64-bit word. A pattern planted at given positions
is the extension that raises each entry between two positions to what the pattern needs there.
-/
namespace CopyOracle

/-- Why a graph with a reported cost is no extension of another at that cost. -/
inductive CostViolation where
  /-- The two graphs have different vertices. -/
  | orderMismatch (base extended : Nat)
  /-- An entry decreased. -/
  | edgeRemoved (u v : Nat) (base extended : UInt32)
  /-- The reported cost is not the number of edges added. -/
  | costMismatch (reported actual : UInt64)
deriving DecidableEq, Repr

/-- The wording of a cost violation. -/
def CostViolation.message : CostViolation → String
  | .orderMismatch base extended =>
    s!"extended graph has {extended} vertices but the target has {base}"
  | .edgeRemoved u v base extended =>
    let before := s!"E2({u},{v})={base}"
    s!"extension removed edges: E'2({u},{v})={extended} < {before}"
  | .costMismatch reported actual =>
    s!"reported cost {reported} but the extension adds {actual} edges"

namespace Graph

/-- The pairs of vertices of a graph, row by row. -/
def cells (order : Nat) : List (Nat × Nat) :=
  (List.range order).flatMap fun u => (List.range order).map fun v => (u, v)

/-- The first entry, row by row, that is smaller in `extended`. -/
def firstRemoved? (base extended : Graph) : Option (Nat × Nat) :=
  (cells base.order).find? fun (u, v) => extended.edgeCount u v < base.edgeCount u v

/-- The edges that `extended` has more than `base`, entry by entry. -/
def added (base extended : Graph) : Nat :=
  total ((cells base.order).map fun (u, v) =>
    (extended.edgeCount u v).toNat - (base.edgeCount u v).toNat)

/-- The cost of an extension. Different vertices are reported before a decreased entry. -/
def extensionCost (base extended : Graph) : Except CostViolation UInt64 :=
  if base.order ≠ extended.order then
    .error (.orderMismatch base.order extended.order)
  else match firstRemoved? base extended with
    | some (u, v) =>
      .error (.edgeRemoved u v (base.edgeCount u v) (extended.edgeCount u v))
    | none => .ok (.ofNat (added base extended))

/-- The cost of an extension, when it is the reported one. -/
def checkCost (base extended : Graph) (reported : UInt64) : Except CostViolation UInt64 := do
  let actual ← extensionCost base extended
  if actual = reported then .ok actual else .error (.costMismatch reported actual)

/-- The target with every entry between two positions raised to what the pattern needs there;
pattern vertex `i` lands on `positions[i]`. -/
def plant (pattern target : Graph) (positions : List Nat) : Graph :=
  .ofFn target.order fun x y =>
    let needed := match positions.idxOf? x, positions.idxOf? y with
      | some u, some v => pattern.edgeCount u v
      | _, _ => 0
    max (target.edgeCount x y) needed

end Graph

end CopyOracle
