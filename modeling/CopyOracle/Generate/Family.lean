import CopyOracle.Generate.Basic
import CopyOracle.Random.Draw

/-!
# Families of designed cases

Three families of cases aim at known weaknesses. The tricky ones are small traps of direction,
packing, symmetry, weights and loops, one of them impossible. The valid ones are solvable shapes
around the limits of the number of copies. The nightmares are larger; only they draw from the
generator.
-/
namespace CopyOracle

/-- A family of designed cases. -/
inductive Family where
  /-- Small traps with known answers. -/
  | tricky
  /-- Solvable cases around the limits of the number of copies. -/
  | valid
  /-- Larger cases, partly random. -/
  | nightmare
deriving DecidableEq, Repr

/-- A case before it is given its source. -/
structure Design where
  /-- The name within the family. -/
  name : String
  /-- The pattern. -/
  pattern : Graph
  /-- The target. -/
  target : Graph
  /-- The number of copies. -/
  copies : Nat
deriving DecidableEq

namespace Family

/-- All families in order. -/
def all : List Family := [.tricky, .valid, .nightmare]

/-- The name of a family, which is the source of its cases. -/
def name : Family → String
  | .tricky => "tricky"
  | .valid => "valid"
  | .nightmare => "nightmare"

/-- One or no edge. -/
def edgeIf (present : Bool) : UInt32 := if present then 1 else 0

/-- An edge each way between any two vertices. -/
def clique (order : Nat) : Graph := .ofFn order fun u v => edgeIf (u != v)

/-- An edge from each vertex to the next. -/
def directedPath (order : Nat) : Graph := .ofFn order fun u v => edgeIf (v == u + 1)

/-- An edge each way for the listed pairs. -/
def undirected (order : Nat) (edges : List (Nat × Nat)) : Graph :=
  .ofFn order fun u v => edgeIf (edges.contains (u, v) || edges.contains (v, u))

/-- Two vertices with so many edges from the first to the second. -/
def singleEdge (weight : UInt32) : Graph :=
  .ofFn 2 fun u v => if (u, v) = (0, 1) then weight else 0

/-- An edge for every pair, loops included. -/
def complete (order : Nat) : Graph := .ofFn order fun _ _ => 1

/-- So many loops at every vertex. -/
def loops (order : Nat) (weight : UInt32) : Graph :=
  .ofFn order fun u v => if u = v then weight else 0

/-- The tricky cases. -/
def trickyDesigns : List Design :=
  [⟨"01_direction", singleEdge 1, .ofFn 2 fun u v => edgeIf ((u, v) == (1, 0)), 1⟩,
    ⟨"02_tetrahedron", clique 3, clique 4, 4⟩,
    ⟨"03_disconnected", undirected 4 [(0, 1), (2, 3)],
      undirected 5 [(0, 1), (1, 2), (2, 3), (3, 4)], 1⟩,
    ⟨"04_high_weights", singleEdge 100, singleEdge 99, 1⟩,
    ⟨"05_symmetry_c4", undirected 3 [(0, 1), (1, 2)],
      undirected 4 [(0, 1), (1, 2), (2, 3), (3, 0)], 4⟩,
    ⟨"06_isolated_in_k3", .empty 3, clique 3, 1⟩,
    ⟨"07_k3_in_empty", clique 3, .empty 3, 1⟩,
    ⟨"08_self_loop", complete 1, .empty 1, 1⟩,
    ⟨"09_pigeonhole", clique 3, clique 4, 5⟩,
    ⟨"10_sparse_paths", directedPath 5, directedPath 10, 2⟩]

/-- A triangle with another weight on each edge. -/
def weightedTriangle : Graph :=
  .ofFn 3 fun u v =>
    if (u, v) = (0, 1) then 2 else if (u, v) = (1, 2) then 1 else if (u, v) = (2, 0) then 3 else 0

/-- A star whose edges have the weight of their head. -/
def weightedStar : Graph := .ofFn 4 fun u v => if u = 0 then .ofNat v else 0

/-- Four vertices with entries from zero to three in a regular pattern. -/
def checkered : Graph := .ofFn 4 fun u v => .ofNat ((u * 3 + v) % 4)

/-- The valid cases. -/
def validDesigns : List Design :=
  [⟨"boundary_k_min", directedPath 3, directedPath 6, 1⟩,
    ⟨"boundary_k_times_n1_eq_n2", singleEdge 1, .empty 10, 5⟩,
    ⟨"boundary_k_times_n1_over_n2", singleEdge 1, .empty 9, 5⟩,
    ⟨"selfloops_only", loops 3 1, .empty 9, 3⟩,
    ⟨"high_multiplicity", singleEdge 5, .ofFn 6 fun u v => if u = v then 0 else 2, 3⟩,
    ⟨"asymmetric_directed", weightedTriangle, clique 5, 2⟩,
    ⟨"star_multiplicity", weightedStar, clique 7, 2⟩,
    ⟨"clique_symmetry", clique 3, clique 5, 3⟩,
    ⟨"identical_graphs", checkered, checkered, 1⟩,
    ⟨"large_k", singleEdge 1, directedPath 8, 10⟩]

/-- A clique with loops in a larger one. -/
def symmetryDesign (i : Nat) : Design :=
  ⟨s!"symmetry_clique_{i}", complete 3, complete (5 + i), 5 * i⟩

/-- The first pairs of neighbours of a list. -/
def pathEdges (count : Nat) (vertices : List Nat) : List (Nat × Nat) :=
  (vertices.zip vertices.tail).take count

/-- A heavy path hidden at random places among entries that are almost as heavy. -/
def backtrackDesign (i : Nat) : Draw Design := do
  let hidden ← Draw.shuffle (List.range 12)
  let path := pathEdges 4 hidden
  let noise ← Draw.many Draw.unit (12 * 12)
  let noise := noise.toArray
  let target := Graph.ofFn 12 fun u v =>
    if path.contains (u, v) then 10
    else if u != v && (noise[u * 12 + v]?).any (· < 0.6) then 9
    else 0
  pure ⟨s!"backtrack_weights_{i}", .ofFn 5 fun u v => if v = u + 1 then 10 else 0, target, 2⟩

/-- As many single edges as a sparse random graph has thirds of its edges. -/
def maxCopiesDesign (i : Nat) : Draw Design := do
  let noise ← Draw.many Draw.unit (10 * 10)
  let noise := noise.toArray
  let target := Graph.ofFn 10 fun u v =>
    edgeIf (u != v && (noise[u * 10 + v]?).any (· < 0.3))
  pure ⟨s!"max_k_{i}", singleEdge 1, target, max (target.size.toNat / 3) 1⟩

/-- A graph with each edge there or not as a coin falls. -/
def coinGraph (order : Nat) : Draw Graph := do
  let entries ← Draw.many (Draw.number 0 1) (order * order)
  pure (.ofEntries order (entries.map UInt32.ofNat).toArray)

/-- A dense random pattern and target. -/
def scaleDesign (i : Nat) : Draw Design := do
  let pattern ← coinGraph 7
  let target ← coinGraph 15
  pure ⟨s!"scale_{i}", pattern, target, 2⟩

/-- Loops in a target without edges. -/
def loopsDesign (i : Nat) : Design := ⟨s!"loops_{i}", loops 4 5, .empty 8, 3⟩

/-- The nightmares. -/
def nightmareDesigns : Draw (List Design) := do
  let backtrack ← [1, 2, 3].mapM backtrackDesign
  let maxCopies ← [1, 2].mapM maxCopiesDesign
  let scale ← [1, 2, 3].mapM scaleDesign
  pure ([1, 2, 3].map symmetryDesign ++ backtrack ++ maxCopies ++ scale ++
    [1, 2].map loopsDesign)

/-- The designs of a family. -/
def designs : Family → Draw (List Design)
  | .tricky => pure trickyDesigns
  | .valid => pure validDesigns
  | .nightmare => nightmareDesigns

/-- The case of a design; its name starts with that of the family. -/
def ofDesign (family : Family) (design : Design) : Except GenerateError GeneratedCase :=
  GeneratedCase.make s!"{family.name}_{design.name}" family.name design.pattern design.target design.copies

/-- The cases of a family. -/
def generate (family : Family) : Draw (Except GenerateError (List GeneratedCase)) := do
  let drawn ← family.designs
  pure (drawn.mapM family.ofDesign)

end Family

end CopyOracle
