import CopyOracle.Proofs.Graph.Plant
/-!
# The embedding of a weighted path

A host hides a path when its entries reach a weight exactly from each vertex of the path to the
next. A pattern that is a path of as many edges of that weight has then one embedding only: an
image that begins anywhere else on the hidden path runs over its end.
-/

namespace CopyOracle

namespace Graph

/-- The steps of a path, from each vertex to the next. -/
def steps (path : List Nat) : List (Nat × Nat) := path.zip path.tail

/-- A pair is a step of a path when its vertices stand side by side. -/
theorem mem_steps_iff {path : List Nat} {x y : Nat} :
    (x, y) ∈ steps path ↔ ∃ i, path[i]? = some x ∧ path[i + 1]? = some y := by
  simp only [steps, List.mem_iff_getElem?, List.getElem?_zip_eq_some, List.getElem?_tail]

/-- The steps of a path within a graph are among its cells. -/
theorem lt_of_mem_steps {path : List Nat} {order x y : Nat} (inside : ∀ x ∈ path, x < order)
    (step : (x, y) ∈ steps path) : x < order ∧ y < order := by
  obtain ⟨i, here, next⟩ := mem_steps_iff.mp step
  exact ⟨inside x (List.mem_of_getElem? here), inside y (List.mem_of_getElem? next)⟩

/-- A path of different vertices has different steps. -/
theorem nodup_steps {path : List Nat} (distinct : path.Nodup) : (steps path).Nodup := by
  have heads : (steps path).map Prod.snd = path.tail :=
    List.map_snd_zip (by rw [List.length_tail]; omega)
  have tail : path.tail.Nodup := distinct.sublist (List.tail_sublist path)
  exact List.Nodup.of_map Prod.snd (heads ▸ tail)

/-- A path has one step less than it has vertices. -/
theorem length_steps (path : List Nat) : (steps path).length = path.length - 1 := by
  rw [steps, List.length_zip, List.length_tail]
  omega

/-- The path through the vertices in order whose edges have a weight. -/
def weightedPath (order : Nat) (weight : UInt32) : Graph :=
  .ofFn order fun u v => if v = u + 1 then weight else 0

/-- The path is hidden in the host: entries reach the weight exactly on its steps. -/
structure Hides (host : Graph) (weight : UInt32) (path : List Nat) : Prop where
  /-- The vertices of the path are different. -/
  distinct : path.Nodup
  /-- They are vertices of the host. -/
  inside : ∀ x ∈ path, x < host.order
  /-- The entries that reach the weight are those of the steps. -/
  heavy_iff : ∀ x y, weight ≤ host.edgeCount x y ↔ (x, y) ∈ steps path

variable {host : Graph} {weight : UInt32} {path : List Nat}

/-- The vertices of a hidden path are places for a path of as many vertices. -/
theorem Hides.places (hidden : host.Hides weight path) :
    (weightedPath path.length weight).Places host path :=
  ⟨hidden.distinct, rfl, hidden.inside⟩

/-- A weighted path is embedded along the hidden path. -/
theorem Hides.embeds (hidden : host.Hides weight path) :
    Embeds (weightedPath path.length weight) host (.ofTargets path) := by
  refine hidden.places.embeds_iff.mpr fun u v x y at_u at_v => ?_
  have hu := (List.getElem?_eq_some_iff.mp at_u).1
  have hv := (List.getElem?_eq_some_iff.mp at_v).1
  rw [weightedPath, edgeCount_ofFn _ hu hv]
  split
  · next step =>
    subst step
    exact (hidden.heavy_iff x y).mpr (mem_steps_iff.mpr ⟨u, at_u, at_v⟩)
  · exact UInt32.zero_le

/-- An embedding takes a step of the hidden path from each vertex to the next. -/
theorem Hides.step_of_embeds (hidden : host.Hides weight path) {mapping : Mapping}
    (embeds : Embeds (weightedPath path.length weight) host mapping) {i x y : Nat}
    (here : mapping.get? i = some x) (next : mapping.get? (i + 1) = some y) :
    ∃ j, path[j]? = some x ∧ path[j + 1]? = some y := by
  have inside : i + 1 < path.length := by
    have bound := Mapping.lt_sources_of_get? next
    rwa [embeds.sources] at bound
  have enough := embeds.edges i (i + 1) x y here next
  rw [weightedPath, edgeCount_ofFn _ (by omega) inside, if_pos rfl] at enough
  exact mem_steps_iff.mp ((hidden.heavy_iff x y).mp enough)

/-- An embedding runs along the hidden path from somewhere. -/
theorem Hides.along_of_embeds (hidden : host.Hides weight path) (long : 2 ≤ path.length)
    {mapping : Mapping} (embeds : Embeds (weightedPath path.length weight) host mapping) :
    ∃ start, ∀ i < path.length, mapping.get? i = path[start + i]? := by
  have target (i : Nat) (inside : i < path.length) : ∃ x, mapping.get? i = some x := by
    obtain ⟨x, -, entry⟩ := embeds.assigned i inside
    exact ⟨x, entry⟩
  obtain ⟨first, at_zero⟩ := target 0 (by omega)
  obtain ⟨second, at_one⟩ := target 1 (by omega)
  obtain ⟨start, begins, -⟩ := hidden.step_of_embeds embeds at_zero at_one
  refine ⟨start, fun i inside => ?_⟩
  induction i with
  | zero => exact at_zero.trans begins.symm
  | succ i ih =>
    obtain ⟨x, here⟩ := target i (by omega)
    obtain ⟨y, next⟩ := target (i + 1) inside
    obtain ⟨j, at_j, after⟩ := hidden.step_of_embeds embeds here next
    -- The vertices are different, so the step begins where the last one ended.
    have same : j = start + i := by
      have bound := (List.getElem?_eq_some_iff.mp at_j).1
      have found : path[start + i]? = some x := (ih (by omega)).symm.trans here
      exact (List.getElem?_inj bound hidden.distinct).mp (at_j.trans found.symm)
    rw [next, ← after, same, Nat.add_assoc]

/-- The hidden path is the only embedding of a weighted path of as many vertices, two or more. -/
theorem Hides.embeds_iff (hidden : host.Hides weight path) (long : 2 ≤ path.length)
    {mapping : Mapping} :
    Embeds (weightedPath path.length weight) host mapping ↔ mapping = .ofTargets path := by
  constructor
  · intro embeds
    obtain ⟨start, along⟩ := hidden.along_of_embeds long embeds
    have front : start = 0 := by
      have last : path.length - 1 < path.length := by omega
      obtain ⟨x, -, entry⟩ := embeds.assigned (path.length - 1) last
      rw [along _ last] at entry
      have bound := (List.getElem?_eq_some_iff.mp entry).1
      omega
    have sources : mapping.sources = (Mapping.ofTargets path).sources := by
      rw [embeds.sources, Mapping.sources, Mapping.ofTargets, List.length_map]
      rfl
    refine Mapping.eq_of_get? sources fun i x => ?_
    rw [Mapping.get?_ofTargets]
    by_cases inside : i < path.length
    · rw [along i inside, front, Nat.zero_add]
    · have beyond : mapping.get? i = none := by
        refine Option.eq_none_iff_forall_ne_some.mpr fun y entry => inside ?_
        have bound := Mapping.lt_sources_of_get? entry
        rwa [embeds.sources] at bound
      rw [beyond, List.getElem?_eq_none (Nat.le_of_not_lt inside)]
  · rintro rfl
    exact hidden.embeds

end Graph

end CopyOracle
