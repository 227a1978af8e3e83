import CopyOracle.Number.Numeral

/-!
# Directed multigraphs

A graph on the vertices `0 … order - 1` is its square matrix of multiplicities: entry `(u, v)`
counts the parallel edges from `u` to `v`, and loops stand on the diagonal. A multiplicity is a
32-bit word, and an edge may only gain multiplicity: adding edges is refused when an endpoint is
no vertex or when the sum leaves the word, and otherwise changes one entry. Totals over the
matrix are 64-bit words.
-/
namespace CopyOracle

/-- A directed multigraph as its square matrix of multiplicities. -/
structure Graph where
  /-- Number of vertices. -/
  order : Nat
  /-- Entry `(u, v)` counts the edges from `u` to `v`. -/
  rows : Vector (Vector UInt32 order) order
deriving DecidableEq

/-- Why a matrix is no graph or a graph cannot be changed. -/
inductive GraphError where
  /-- A row has another length than the number of rows. -/
  | notSquare (row expected actual : Nat)
  /-- An endpoint is no vertex of the graph. -/
  | vertexOutOfRange (vertex order : Nat)
  /-- The multiplicity of an edge would leave its 32-bit word. -/
  | multiplicityOverflow (u v : Nat)
deriving DecidableEq, Repr

/-- The wording of a graph error. -/
def GraphError.message : GraphError → String
  | .notSquare row expected actual =>
    s!"row {row} has {actual} entries but the graph has {expected} vertices"
  | .vertexOutOfRange vertex order =>
    s!"vertex {vertex} is outside a graph with {order} vertices"
  | .multiplicityOverflow u v => s!"multiplicity of edge ({u}, {v}) would overflow"

namespace Graph

/-- The graph whose entry `(u, v)` is `entry u v`. -/
def ofFn (order : Nat) (entry : Nat → Nat → UInt32) : Graph where
  order := order
  rows := Vector.ofFn fun u => Vector.ofFn fun v => entry u v

/-- The graph with no edges. -/
def empty (order : Nat) : Graph where
  order := order
  rows := Vector.replicate order (Vector.replicate order 0)

/-- The graph of a matrix whose rows all have the length of the matrix. -/
def ofSquare (matrix : List (List UInt32)) (square : ∀ row ∈ matrix, row.length = matrix.length) :
    Graph where
  order := matrix.length
  rows := ⟨(matrix.attach.map fun row =>
    (⟨row.val.toArray, by simpa using square row.val row.property⟩ :
      Vector UInt32 matrix.length)).toArray, by simp⟩

/-- The graph of a matrix given by its rows; the first row of another length than the number of
rows is refused. -/
def ofRows (matrix : List (List UInt32)) : Except GraphError Graph :=
  match found : matrix.findIdx? fun row => row.length != matrix.length with
  | some row => .error (.notSquare row matrix.length (matrix.getD row []).length)
  | none => .ok (ofSquare matrix fun row member => by
      have := List.findIdx?_eq_none_iff.mp found row member
      simpa using this)

/-- The rows of the matrix. -/
def toRows (graph : Graph) : List (List UInt32) := graph.rows.toList.map Vector.toList

/-- The number of edges from `u` to `v`; none when either is no vertex. -/
def edgeCount (graph : Graph) (u v : Nat) : UInt32 :=
  if hu : u < graph.order then if hv : v < graph.order then graph.rows[u][v] else 0 else 0

/-- The sum of some numbers. -/
def total (numbers : List Nat) : Nat := numbers.foldr (· + ·) 0

/-- The number of edges, counted with multiplicity. -/
def size (graph : Graph) : UInt64 :=
  .ofNat (total (graph.toRows.flatMap fun row => row.map UInt32.toNat))

/-- The edges out of and into `v`; a loop counts twice. -/
def degree (graph : Graph) (v : Nat) : UInt64 :=
  .ofNat (total ((List.range graph.order).map fun w =>
    (graph.edgeCount v w).toNat + (graph.edgeCount w v).toNat))

/-- The graph with `amount` more edges from `u` to `v`. The tail is checked before the head. -/
def extend (graph : Graph) (u v : Nat) (amount : UInt32) : Except GraphError Graph :=
  if hu : u < graph.order then
    if hv : v < graph.order then
      let total := graph.rows[u][v].toNat + amount.toNat
      if total < UInt32.size then
        .ok { graph with rows := graph.rows.set u (graph.rows[u].set v (.ofNat total)) }
      else .error (.multiplicityOverflow u v)
    else .error (.vertexOutOfRange v graph.order)
  else .error (.vertexOutOfRange u graph.order)

/-- The graph with at least `minimum` edges from `u` to `v`. -/
def raise (graph : Graph) (u v : Nat) (minimum : UInt32) : Except GraphError Graph :=
  let current := graph.edgeCount u v
  graph.extend u v (if minimum ≤ current then 0 else minimum - current)

/-- One row of the matrix as its entries with a space between them. -/
def writeRow (row : List UInt32) : Text :=
  [' '].intercalate (row.map fun entry => Numeral.digits entry.toNat)

/-- The written graph: a line with the order, then a line for each row. -/
def write (graph : Graph) : Text :=
  Numeral.digits graph.order ++ '\n' :: graph.toRows.flatMap fun row => writeRow row ++ ['\n']

end Graph

end CopyOracle
