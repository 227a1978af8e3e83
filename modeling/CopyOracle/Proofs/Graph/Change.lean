import CopyOracle.Proofs.Graph.Cost
/-!
# Graphs under changes

A change adds edges to one entry or raises it to a minimum. It is refused when an endpoint is no
vertex, the tail being named before the head, or when the sum leaves its word, and a refused change
leaves the graph as it is. A change that is made replaces its own entry by a larger one, so along
any sequence of changes the vertices stay and no entry decreases.

Raises need a closer look, since each one depends on the entry it finds. The graph after some raises
is the least extension with all the minima: its extensions are those of the graph before that have
the minima. Nothing in this description depends on the order of the raises.
-/

namespace CopyOracle

/-- A change of one entry of a graph. -/
inductive GraphChange where
  /-- More edges from `u` to `v`. -/
  | extend (u v : Nat) (amount : UInt32)
  /-- At least so many edges from `u` to `v`. -/
  | raise (u v : Nat) (minimum : UInt32)
deriving DecidableEq, Repr

namespace Graph

/-- The graph that a change makes, or why it is refused. -/
def change (graph : Graph) : GraphChange → Except GraphError Graph
  | .extend u v amount => graph.extend u v amount
  | .raise u v minimum => graph.raise u v minimum

/-- The graph after a change; a refused change leaves it as it is. -/
def changed (graph : Graph) (change : GraphChange) : Graph :=
  match graph.change change with
  | .ok after => after
  | .error _ => graph

/-- The graph after some changes, those that are refused among them. -/
def changedBy (graph : Graph) (changes : List GraphChange) : Graph := changes.foldl changed graph

/-- An endpoint is no vertex of the graph; the tail is named before the head. -/
inductive Outside (graph : Graph) (u v : Nat) : GraphError → Prop
  /-- The tail is no vertex. -/
  | tail (outside : graph.order ≤ u) : Outside graph u v (.vertexOutOfRange u graph.order)
  /-- The tail is a vertex and the head is none. -/
  | head (inside : u < graph.order) (outside : graph.order ≤ v) :
    Outside graph u v (.vertexOutOfRange v graph.order)

/-- Why edges cannot be added: an endpoint is no vertex, or else the sum is above the largest
multiplicity. -/
inductive ExtendFault (graph : Graph) (u v : Nat) (amount : UInt32) : GraphError → Prop
  /-- An endpoint is no vertex. -/
  | outside {error : GraphError} (outside : Outside graph u v error) :
    ExtendFault graph u v amount error
  /-- Both endpoints are vertices, and the sum is too large. -/
  | overflow (hu : u < graph.order) (hv : v < graph.order)
      (large : 2 ^ 32 - 1 < (graph.edgeCount u v).toNat + amount.toNat) :
    ExtendFault graph u v amount (.multiplicityOverflow u v)

/-- The second graph is the first one with the number at one entry. -/
structure Replaces (graph : Graph) (u v number : Nat) (after : Graph) : Prop where
  /-- The vertices are the same. -/
  order : after.order = graph.order
  /-- The entry is the number. -/
  entry : (after.edgeCount u v).toNat = number
  /-- All other entries are the same. -/
  others : ∀ x y, (x, y) ≠ (u, v) → after.edgeCount x y = graph.edgeCount x y

variable {graph after other : Graph} {u v number : Nat}

/-- Only one graph replaces an entry by a number. -/
theorem Replaces.unique (first : graph.Replaces u v number after)
    (second : graph.Replaces u v number other) : after = other := by
  refine eq_of_edgeCount (first.order.trans second.order.symm) fun x _ y _ => ?_
  by_cases own : (x, y) = (u, v)
  · obtain ⟨rfl, rfl⟩ := Prod.mk.inj own
    exact UInt32.toNat_inj.mp (first.entry.trans second.entry.symm)
  · rw [first.others x y own, second.others x y own]

/-- A graph that gains at one entry only is an extension. -/
theorem Replaces.extends (replaces : graph.Replaces u v number after)
    (grown : (graph.edgeCount u v).toNat ≤ number) : graph.Extends after where
  order := replaces.order.symm
  keeps x _ y _ := by
    by_cases own : (x, y) = (u, v)
    · obtain ⟨rfl, rfl⟩ := Prod.mk.inj own
      rw [UInt32.le_iff_toNat_le, replaces.entry]
      exact grown
    · rw [replaces.others x y own]
      exact UInt32.le_refl _

/-- The entry of a matrix that was set is the one that was set. -/
theorem replaces_set (hu : u < graph.order) (hv : v < graph.order) (entry : UInt32) :
    graph.Replaces u v entry.toNat
      { graph with rows := graph.rows.set u (graph.rows[u].set v entry) } where
  order := rfl
  entry := by simp [edgeCount, hu, hv]
  others x y apart := by
    simp only [edgeCount]
    split
    · split
      · rw [Vector.getElem_set]
        split
        · next same =>
          subst same
          rw [Vector.getElem_set_ne]
          exact fun same => apart (same ▸ rfl)
        · rfl
      · rfl
    · rfl

/-- Edges are added between vertices where the sum fits. -/
theorem exists_extend {amount : UInt32} (hu : u < graph.order) (hv : v < graph.order)
    (fits : (graph.edgeCount u v).toNat + amount.toNat ≤ 2 ^ 32 - 1) :
    ∃ after, graph.extend u v amount = .ok after ∧
      graph.Replaces u v ((graph.edgeCount u v).toNat + amount.toNat) after := by
  have word : (graph.edgeCount u v).toNat + amount.toNat < UInt32.size := by
    have size : UInt32.size = 2 ^ 32 := rfl
    omega
  have set := replaces_set hu hv (.ofNat ((graph.edgeCount u v).toNat + amount.toNat))
  rw [UInt32.toNat_ofNat_of_lt' word] at set
  refine ⟨_, ?_, set⟩
  have entry : graph.edgeCount u v = graph.rows[u][v] := by simp [edgeCount, hu, hv]
  rw [entry] at word
  simp only [extend, hu, hv, word, entry, ↓reduceDIte, ↓reduceIte]

/-- A fault is reported. -/
theorem ExtendFault.reported {amount : UInt32} {error : GraphError}
    (fault : graph.ExtendFault u v amount error) : graph.extend u v amount = .error error := by
  cases fault with
  | outside outside =>
    cases outside with
    | tail outside => rw [extend, dif_neg (by omega)]
    | head inside outside => rw [extend, dif_pos inside, dif_neg (by omega)]
  | overflow hu hv large =>
    have entry : graph.edgeCount u v = graph.rows[u][v] := by simp [edgeCount, hu, hv]
    have wide : ¬graph.rows[u][v].toNat + amount.toNat < UInt32.size := by
      have size : UInt32.size = 2 ^ 32 := rfl
      rw [entry] at large
      omega
    simp only [extend, hu, hv, wide, ↓reduceDIte, ↓reduceIte]

/-- Either the edges fit or there is a fault. -/
theorem fits_or_fault (graph : Graph) (u v : Nat) (amount : UInt32) :
    (u < graph.order ∧ v < graph.order ∧
      (graph.edgeCount u v).toNat + amount.toNat ≤ 2 ^ 32 - 1) ∨
    ∃ error, graph.ExtendFault u v amount error := by
  rcases Nat.lt_or_ge u graph.order with hu | outside
  · rcases Nat.lt_or_ge v graph.order with hv | outside
    · rcases Nat.lt_or_ge (2 ^ 32 - 1) ((graph.edgeCount u v).toNat + amount.toNat) with
        large | fits
      · exact .inr ⟨_, .overflow hu hv large⟩
      · exact .inl ⟨hu, hv, fits⟩
    · exact .inr ⟨_, .outside (.head hu outside)⟩
  · exact .inr ⟨_, .outside (.tail outside)⟩

/-- Edges are added exactly when both endpoints are vertices and the sum fits, and then the entry
gains exactly those edges. -/
theorem extend_eq_ok_iff {amount : UInt32} : graph.extend u v amount = .ok after ↔
    u < graph.order ∧ v < graph.order ∧
      (graph.edgeCount u v).toNat + amount.toNat ≤ 2 ^ 32 - 1 ∧
      graph.Replaces u v ((graph.edgeCount u v).toNat + amount.toNat) after := by
  constructor
  · intro extended
    rcases fits_or_fault graph u v amount with ⟨hu, hv, fits⟩ | ⟨error, fault⟩
    · obtain ⟨_, made, replaces⟩ := exists_extend hu hv fits
      obtain rfl := Except.ok.inj (made.symm.trans extended)
      exact ⟨hu, hv, fits, replaces⟩
    · exact nomatch fault.reported.symm.trans extended
  · rintro ⟨hu, hv, fits, replaces⟩
    obtain ⟨_, made, same⟩ := exists_extend hu hv fits
    rw [made, same.unique replaces]

/-- Adding edges is refused exactly for the first fault. -/
theorem extend_eq_error_iff {amount : UInt32} {error : GraphError} :
    graph.extend u v amount = .error error ↔ graph.ExtendFault u v amount error := by
  refine ⟨fun refused => ?_, ExtendFault.reported⟩
  rcases fits_or_fault graph u v amount with ⟨hu, hv, fits⟩ | ⟨other, fault⟩
  · obtain ⟨_, made, -⟩ := exists_extend hu hv fits
    exact nomatch made.symm.trans refused
  · obtain rfl := Except.error.inj (fault.reported.symm.trans refused)
    exact fault

/-- What is missing to a minimum raises an entry to the larger of the two. -/
theorem toNat_missing (current minimum : UInt32) :
    current.toNat + (if minimum ≤ current then 0 else minimum - current).toNat =
      max current.toNat minimum.toNat := by
  split
  · next enough =>
    rw [UInt32.le_iff_toNat_le] at enough
    rw [Nat.max_eq_left enough]
    rfl
  · next short =>
    have below : current < minimum := UInt32.not_le.mp short
    rw [UInt32.toNat_sub_of_le _ _ (UInt32.le_of_lt below)]
    rw [UInt32.lt_iff_toNat_lt] at below
    omega

/-- An entry is raised exactly between vertices, to the larger of the old number and the
minimum. -/
theorem raise_eq_ok_iff {minimum : UInt32} : graph.raise u v minimum = .ok after ↔
    u < graph.order ∧ v < graph.order ∧
      graph.Replaces u v (max (graph.edgeCount u v).toNat minimum.toNat) after := by
  have small : max (graph.edgeCount u v).toNat minimum.toNat ≤ 2 ^ 32 - 1 := by
    have current := (graph.edgeCount u v).toNat_lt
    have bound := minimum.toNat_lt
    omega
  rw [raise, extend_eq_ok_iff, toNat_missing]
  simp only [small, true_and]

/-- Raising an entry is refused exactly when an endpoint is no vertex. -/
theorem raise_eq_error_iff {minimum : UInt32} {error : GraphError} :
    graph.raise u v minimum = .error error ↔ graph.Outside u v error := by
  rw [raise, extend_eq_error_iff]
  refine ⟨fun fault => ?_, .outside⟩
  cases fault with
  | outside outside => exact outside
  | overflow hu hv large =>
    rw [toNat_missing] at large
    have current := (graph.edgeCount u v).toNat_lt
    have bound := minimum.toNat_lt
    omega

/-- A change that is made gives an extension. -/
theorem extends_of_change {change : GraphChange} (made : graph.change change = .ok after) :
    graph.Extends after := by
  cases change with
  | extend u v amount =>
    obtain ⟨_, _, _, replaces⟩ := extend_eq_ok_iff.mp made
    exact replaces.extends (Nat.le_add_right _ _)
  | raise u v minimum =>
    obtain ⟨_, _, replaces⟩ := raise_eq_ok_iff.mp made
    exact replaces.extends (Nat.le_max_left _ _)

/-- The graph after a change is an extension. -/
theorem extends_changed (graph : Graph) (change : GraphChange) :
    graph.Extends (graph.changed change) := by
  rw [changed]
  split
  · next after made => exact extends_of_change made
  · exact .refl graph

/-- The graph after some changes is an extension. -/
theorem extends_changedBy (graph : Graph) (changes : List GraphChange) :
    graph.Extends (graph.changedBy changes) := by
  induction changes generalizing graph with
  | nil => exact .refl graph
  | cons change changes ih => exact (graph.extends_changed change).trans (ih _)

/-- The extensions of a raised graph are those of the graph before that have the minimum. -/
theorem extends_of_raise_iff {minimum : UInt32} (raised : graph.raise u v minimum = .ok after) :
    after.Extends other ↔ graph.Extends other ∧ minimum ≤ other.edgeCount u v := by
  obtain ⟨hu, hv, replaces⟩ := raise_eq_ok_iff.mp raised
  have grown := replaces.extends (Nat.le_max_left _ _)
  constructor
  · intro kept
    refine ⟨grown.trans kept, ?_⟩
    have entry := kept.keeps u (replaces.order.symm ▸ hu) v (replaces.order.symm ▸ hv)
    rw [UInt32.le_iff_toNat_le, replaces.entry] at entry
    rw [UInt32.le_iff_toNat_le]
    omega
  · rintro ⟨kept, reached⟩
    refine ⟨replaces.order.trans kept.order, fun x hx y hy => ?_⟩
    rw [replaces.order] at hx hy
    have before := kept.keeps x hx y hy
    by_cases own : (x, y) = (u, v)
    · obtain ⟨rfl, rfl⟩ := Prod.mk.inj own
      rw [UInt32.le_iff_toNat_le] at before reached ⊢
      rw [replaces.entry]
      omega
    · rw [replaces.others x y own]
      exact before

/-- The graph after a raise that may be refused is the least extension with its minimum, as far as
its endpoints are vertices. -/
theorem extends_changed_raise_iff {minimum : UInt32} :
    (graph.changed (.raise u v minimum)).Extends other ↔ graph.Extends other ∧
      (u < graph.order → v < graph.order → minimum ≤ other.edgeCount u v) := by
  rw [changed]
  split
  · next after made =>
    obtain ⟨hu, hv, -⟩ := raise_eq_ok_iff.mp made
    rw [extends_of_raise_iff made]
    exact and_congr_right fun _ => ⟨fun reached _ _ => reached, fun reached => reached hu hv⟩
  · next error refused =>
    refine (and_iff_left fun hu hv => ?_).symm
    cases raise_eq_error_iff.mp refused with
    | tail outside => omega
    | head _ outside => omega

/-- All of the changes are raises. -/
def AllRaises (changes : List GraphChange) : Prop :=
  ∀ change ∈ changes, ∃ u v minimum, change = .raise u v minimum

/-- The graph has the minima of the raises between its vertices. -/
def Reaches (graph : Graph) (changes : List GraphChange) : Prop :=
  ∀ u v minimum, .raise u v minimum ∈ changes → u < graph.order → v < graph.order →
    minimum ≤ graph.edgeCount u v

/-- The graph after some raises is the least extension with their minima. -/
theorem extends_changedBy_iff {raises : List GraphChange} (all : AllRaises raises) :
    (graph.changedBy raises).Extends other ↔ graph.Extends other ∧ other.Reaches raises := by
  induction raises generalizing graph with
  | nil => exact (and_iff_left nofun).symm
  | cons change raises ih =>
    obtain ⟨⟨u, v, minimum, rfl⟩, rest⟩ := List.forall_mem_cons.mp all
    rw [changedBy, List.foldl_cons, ← changedBy, ih rest, extends_changed_raise_iff, and_assoc]
    refine and_congr_right fun kept => ?_
    rw [kept.order]
    constructor
    · rintro ⟨first, others⟩ x y least listed hx hy
      rcases List.mem_cons.mp listed with own | later
      · obtain ⟨rfl, rfl, rfl⟩ := GraphChange.raise.inj own
        exact first hx hy
      · exact others x y least later hx hy
    · intro reached
      exact ⟨reached u v minimum List.mem_cons_self, fun x y least later =>
        reached x y least (List.mem_cons_of_mem _ later)⟩

/-- Graphs that extend each other are the same. -/
theorem Extends.antisymm (left : graph.Extends other) (right : other.Extends graph) :
    graph = other :=
  eq_of_edgeCount left.order fun u hu v hv =>
    UInt32.le_antisymm (left.keeps u hu v hv) (right.keeps u (left.order ▸ hu) v (left.order ▸ hv))

/-- The same raises in another order give the same graph. -/
theorem changedBy_perm {raises reordered : List GraphChange} (all : AllRaises raises)
    (perm : raises.Perm reordered) : graph.changedBy raises = graph.changedBy reordered := by
  have also : AllRaises reordered := fun change listed => all change (perm.mem_iff.mpr listed)
  -- Either graph is an extension of the graph before in which all minima are reached.
  have first := (extends_changedBy_iff all).mp (.refl (graph.changedBy raises))
  have second := (extends_changedBy_iff also).mp (.refl (graph.changedBy reordered))
  refine Extends.antisymm ((extends_changedBy_iff all).mpr ⟨second.1, ?_⟩)
    ((extends_changedBy_iff also).mpr ⟨first.1, ?_⟩)
  · exact fun u v minimum listed => second.2 u v minimum (perm.mem_iff.mp listed)
  · exact fun u v minimum listed => first.2 u v minimum (perm.mem_iff.mpr listed)

/-- Raises between vertices are all made, and none of them is refused. -/
theorem foldlM_change_eq_ok {raises : List GraphChange}
    (inside : ∀ change ∈ raises, ∃ u v minimum, change = .raise u v minimum ∧
      u < graph.order ∧ v < graph.order) :
    raises.foldlM change graph = .ok (graph.changedBy raises) := by
  induction raises generalizing graph with
  | nil => rfl
  | cons change raises ih =>
    obtain ⟨⟨u, v, minimum, rfl, hu, hv⟩, rest⟩ := List.forall_mem_cons.mp inside
    cases made : graph.change (.raise u v minimum) with
    | error error =>
      cases raise_eq_error_iff.mp made with
      | tail outside => omega
      | head _ outside => omega
    | ok after =>
      have step : graph.changed (.raise u v minimum) = after := by rw [changed, made]
      have order := (raise_eq_ok_iff.mp made).2.2.order
      rw [List.foldlM_cons, made, changedBy, List.foldl_cons, step]
      exact ih (order ▸ rest)

/-- What holds of a graph and of all changes that are made to it. -/
structure ChangeLaws (graph : Graph) : Prop where
  /-- After any changes the vertices are the same, with one entry for each pair of them. -/
  shape : ∀ changes, (graph.changedBy changes).order = graph.order ∧
    (graph.changedBy changes).toRows.flatten.length = graph.order * graph.order
  /-- After any changes no entry is smaller. -/
  grows : ∀ changes u v, graph.edgeCount u v ≤ (graph.changedBy changes).edgeCount u v
  /-- A change that is refused leaves the graph as it is. -/
  refused : ∀ change error, graph.change change = .error error → graph.changed change = graph
  /-- Edges are added between vertices where the sum fits, and change nothing but their entry. -/
  extended : ∀ u v amount after, graph.extend u v amount = .ok after ↔
    u < graph.order ∧ v < graph.order ∧
      (graph.edgeCount u v).toNat + amount.toNat ≤ 2 ^ 32 - 1 ∧
      graph.Replaces u v ((graph.edgeCount u v).toNat + amount.toNat) after
  /-- Otherwise the first endpoint that is no vertex is reported, and else the sum. -/
  notExtended : ∀ u v amount error, graph.extend u v amount = .error error ↔
    graph.ExtendFault u v amount error
  /-- An entry between vertices is raised to the larger of the old number and the minimum, and
  nothing else changes. -/
  raised : ∀ u v minimum after, graph.raise u v minimum = .ok after ↔
    u < graph.order ∧ v < graph.order ∧
      graph.Replaces u v (max (graph.edgeCount u v).toNat minimum.toNat) after
  /-- Otherwise the first endpoint that is no vertex is reported. -/
  notRaised : ∀ u v minimum error, graph.raise u v minimum = .error error ↔
    graph.Outside u v error
  /-- The graph is made again from its rows. -/
  rows : ofRows graph.toRows = .ok graph
  /-- In 64-bit words the degrees sum up to twice the size. -/
  degrees : (∑ v ∈ Finset.range graph.order, (graph.degree v).toNat) ≡ 2 * graph.size.toNat
    [MOD 2 ^ 64]
  /-- Up to `2 ^ 16` vertices they do so as numbers. -/
  exactDegrees : graph.order ≤ 2 ^ 16 →
    ∑ v ∈ Finset.range graph.order, (graph.degree v).toNat = 2 * graph.size.toNat
  /-- The same raises in another order give the same graph. -/
  reordered : ∀ raises reordered, AllRaises raises → raises.Perm reordered →
    graph.changedBy raises = graph.changedBy reordered

/-- The laws of changes hold of every graph, and so of every graph after any changes. -/
theorem changes_lawful (graph : Graph) : graph.ChangeLaws where
  shape changes := by
    have order := (graph.extends_changedBy changes).order.symm
    refine ⟨order, ?_⟩
    rw [List.length_flatten, ← order]
    have rows : ∀ row ∈ (graph.changedBy changes).toRows,
        row.length = (graph.changedBy changes).order := fun _ => length_of_mem_toRows
    rw [List.map_congr_left rows, List.map_const', List.sum_replicate_nat]
    simp [toRows]
  grows changes := (graph.extends_changedBy changes).edgeCount_le
  refused change error stopped := by rw [changed, stopped]
  extended _ _ _ _ := extend_eq_ok_iff
  notExtended _ _ _ _ := extend_eq_error_iff
  raised _ _ _ _ := raise_eq_ok_iff
  notRaised _ _ _ _ := raise_eq_error_iff
  rows := ofRows_toRows graph
  degrees := graph.sum_degree_modEq
  exactDegrees bound := sum_degree bound
  reordered _ _ all perm := changedBy_perm all perm

/-- A raise is made; more edges to a head that is no vertex are refused, and so is a sum that is too
large. -/
example : ((ofSquare [[0, 1], [2, 0]] (by decide)).changedBy
    [.raise 0 1 3, .extend 0 2 1, .extend 1 0 4294967295]).toRows = [[0, 3], [2, 0]] := by
  decide +kernel

end Graph

end CopyOracle
