import CopyOracle.Generate.Family
import CopyOracle.Proofs.Case
import CopyOracle.Proofs.Embedding.Path
import CopyOracle.Proofs.Generate.Fuzz
import CopyOracle.Proofs.Graph.Cost
/-!
# The nightmares keep their design

Whatever the state of the generator, the nightmares are thirteen possible cases with the names of
their designs. The orders are fixed, so the number of vertex sets is known, and only the number of
single edges is drawn with the target: it is a third of at most a hundred edges. The hidden path
consists of the first five members of a shuffled list. As all other entries are lighter than its
edges, the pattern is embedded along it and nowhere else.
-/

namespace CopyOracle

/-- Where all entries are at most a bound there are at most so many edges for each cell. -/
theorem Graph.EntriesLe.edges_le {graph : Graph} {bound : UInt32} (small : graph.EntriesLe bound) :
    graph.edges ≤ graph.order * (graph.order * bound.toNat) :=
  sum_cells_le graph.order fun u v => UInt32.le_iff_toNat_le.mp (small u v)

/-- A design makes a possible case. -/
structure Design.Possible (design : Design) : Prop where
  /-- The pattern has a vertex. -/
  nonempty : 0 < design.pattern.order
  /-- The pattern has room. -/
  room : design.pattern.order ≤ design.target.order
  /-- A copy is asked for. -/
  some : 0 < design.copies
  /-- The copies have different vertex sets. -/
  images : design.copies ≤ design.target.order.choose design.pattern.order

namespace Family

/-- The generated case is that of a design of the family. -/
structure Realizes (family : Family) (design : Design) (generated : GeneratedCase) : Prop where
  /-- Its name starts with that of the family. -/
  name : generated.name = s!"{family.name}_{design.name}"
  /-- Its source is the family. -/
  source : generated.source = family.name
  /-- It has the pattern of the design. -/
  pattern : generated.problem.pattern = design.pattern
  /-- It has the target of the design. -/
  target : generated.problem.target = design.target
  /-- It asks for the copies of the design. -/
  copies : generated.problem.copies.toNat = min design.copies (UInt64.size - 1)

variable {family : Family} {design : Design}

/-- A possible design gives a case. -/
theorem ofDesign_eq_ok (possible : design.Possible) :
    ∃ generated, family.ofDesign design = .ok generated ∧ family.Realizes design generated := by
  obtain ⟨generated, made, name, source, pattern, target, copies⟩ :=
    GeneratedCase.make_eq_ok s!"{family.name}_{design.name}" family.name design.target
      possible.nonempty possible.some
  exact ⟨generated, made, name, source, pattern, target, copies⟩

/-- The case of a possible design is possible. -/
theorem Realizes.isImpossible {generated : GeneratedCase}
    (realized : family.Realizes design generated) (possible : design.Possible) :
    generated.problem.isImpossible = false := by
  rw [Case.isImpossible_eq_false_iff]
  refine ⟨?_, ?_⟩
  · rw [realized.pattern, realized.target]
    exact possible.room
  · rw [realized.pattern, realized.target, realized.copies]
    exact (Nat.min_le_left _ _).trans possible.images

/-- The first pairs of neighbours are the steps of a path of one vertex more. -/
theorem pathEdges_eq_steps (count : Nat) (vertices : List Nat) :
    pathEdges count vertices = Graph.steps (vertices.take (count + 1)) := by
  induction vertices generalizing count with
  | nil => simp [pathEdges, Graph.steps]
  | cons first rest ih =>
    cases count with
    | zero => simp [pathEdges, Graph.steps]
    | succ count =>
      cases rest with
      | nil => rfl
      | cons second rest =>
        have later := ih count
        simpa [pathEdges, Graph.steps] using later

/-- The entries of the target are ten on the steps of a path, and zero or nine elsewhere. -/
structure TenOn (target : Graph) (path : List Nat) : Prop where
  /-- The vertices of the path are different. -/
  distinct : path.Nodup
  /-- They are vertices of the target. -/
  inside : ∀ x ∈ path, x < target.order
  /-- On the steps the entries are ten. -/
  on : ∀ x y, (x, y) ∈ Graph.steps path → target.edgeCount x y = 10
  /-- Elsewhere they are zero or nine. -/
  off : ∀ x y, (x, y) ∉ Graph.steps path →
    target.edgeCount x y = 0 ∨ target.edgeCount x y = 9

/-- A graph given by ten on the steps of a path, and nine or zero elsewhere, is one. -/
theorem tenOn_ofFn {path : List Nat} (distinct : path.Nodup) {order : Nat}
    (inside : ∀ x ∈ path, x < order) (noisy : Nat → Nat → Bool) :
    TenOn (.ofFn order fun x y =>
      if (Graph.steps path).contains (x, y) then 10 else if noisy x y then 9 else 0) path where
  distinct := distinct
  inside := inside
  on x y step := by
    obtain ⟨hx, hy⟩ := Graph.lt_of_mem_steps inside step
    rw [Graph.edgeCount_ofFn _ hx hy, if_pos (List.contains_iff_mem.mpr step)]
  off x y step := by
    by_cases cell : x < order ∧ y < order
    · rw [Graph.edgeCount_ofFn _ cell.1 cell.2, if_neg (mt List.contains_iff_mem.mp step)]
      cases noisy x y
      · exact .inl rfl
      · exact .inr rfl
    · exact .inl (Graph.edgeCount_eq_zero cell)

namespace TenOn

variable {target : Graph} {path : List Nat} (ten : TenOn target path)

include ten

/-- The entries that reach ten are those of the steps. -/
theorem ten_le_iff (x y : Nat) : 10 ≤ target.edgeCount x y ↔ (x, y) ∈ Graph.steps path := by
  constructor
  · intro heavy
    by_contra elsewhere
    rcases ten.off x y elsewhere with none | nine
    · rw [none] at heavy
      exact absurd heavy (by decide)
    · rw [nine] at heavy
      exact absurd heavy (by decide)
  · intro step
    rw [ten.on x y step]
    exact UInt32.le_refl 10

/-- The path is hidden. -/
theorem hides : target.Hides 10 path := ⟨ten.distinct, ten.inside, ten.ten_le_iff⟩

/-- The cells with an entry of ten are the steps. -/
theorem cells_perm : ((Graph.cells target.order).filter fun (x, y) =>
    target.edgeCount x y = 10).Perm (Graph.steps path) := by
  have cells := (Graph.nodup_cells target.order).filter fun (x, y) => target.edgeCount x y = 10
  have steps := Graph.nodup_steps ten.distinct
  refine (List.perm_ext_iff_of_nodup cells steps).mpr fun ⟨x, y⟩ => ?_
  rw [List.mem_filter, Graph.mem_cells, decide_eq_true_eq]
  constructor
  · rintro ⟨-, entry⟩
    refine (ten.ten_le_iff x y).mp ?_
    rw [entry]
    exact UInt32.le_refl 10
  · intro step
    exact ⟨Graph.lt_of_mem_steps ten.inside step, ten.on x y step⟩

end TenOn

/-- The target hides a path of five vertices, along which alone the pattern is embedded. -/
structure HidesPath (pattern target : Graph) (path : List Nat) : Prop where
  /-- The path has five vertices. -/
  length : path.length = 5
  /-- They are different. -/
  distinct : path.Nodup
  /-- They are vertices of the target. -/
  inside : ∀ x ∈ path, x < target.order
  /-- There are four entries of ten. -/
  four : ((Graph.cells target.order).filter fun (x, y) => target.edgeCount x y = 10).length = 4
  /-- They stand from each vertex of the path to the next. -/
  heavy : ((Graph.cells target.order).filter fun (x, y) =>
    target.edgeCount x y = 10).Perm (Graph.steps path)
  /-- All other entries are zero or nine. -/
  light : ∀ x y, (x, y) ∉ Graph.steps path →
    target.edgeCount x y = 0 ∨ target.edgeCount x y = 9
  /-- One mapping is accepted as an embedding, that of the path. -/
  only : ∀ mapping, checkEmbedding pattern target mapping = .ok () ↔ mapping = .ofTargets path

/-- A path of five vertices with ten on its steps is hidden from all but one mapping. -/
theorem TenOn.hidesPath {target : Graph} {path : List Nat} (ten : TenOn target path)
    (length : path.length = 5) : HidesPath (Graph.weightedPath 5 10) target path where
  length := length
  distinct := ten.distinct
  inside := ten.inside
  four := by rw [ten.cells_perm.length_eq, Graph.length_steps, length]
  heavy := ten.cells_perm
  light := ten.off
  only mapping := by
    have along := @Graph.Hides.embeds_iff _ _ _ ten.hides (by omega) mapping
    rw [length] at along
    rw [checkEmbedding_eq_ok_iff, along]

/-- A design of the nightmares makes a possible case, and hides a path where it is named so. -/
structure Nightmare (design : Design) : Prop where
  /-- The case is possible. -/
  possible : design.Possible
  /-- A design with the name of a hidden path hides one. -/
  hides : ∀ i : Nat, design.name = s!"backtrack_weights_{i}" →
    ∃ path, HidesPath design.pattern design.target path

/-- A possible design whose name begins otherwise is one. -/
theorem Nightmare.of_first {title : String} {i : Nat} {letter : Char} (possible : design.Possible)
    (named : design.name = title ++ toString i) (first : title.toList.head? = some letter)
    (other : letter ≠ 'b') : Nightmare design where
  possible := possible
  hides j same := by
    -- The numbers need not be compared, since the titles differ in their first letters.
    have hidden : design.name.toList.head? = some 'b' := by
      rw [same]
      change ("backtrack_weights_" ++ toString j).toList.head? = some 'b'
      simp
    rw [named, String.toList_append, List.head?_append, first, Option.some_or] at hidden
    exact absurd (Option.some.inj hidden) other

/-- The cliques ask for no more copies than there are vertex sets. -/
theorem nightmare_symmetry {i : Nat} (listed : i ∈ [1, 2, 3]) : Nightmare (symmetryDesign i) := by
  refine .of_first ⟨show 0 < 3 by decide, show 3 ≤ 5 + i by omega, ?_, ?_⟩ rfl
    (show "symmetry_clique_".toList.head? = some 's' by decide) (by decide)
  · change 0 < 5 * i
    revert i
    decide
  · change 5 * i ≤ (5 + i).choose 3
    revert i
    decide

/-- The loops ask for no more copies than there are vertex sets. -/
theorem nightmare_loops (i : Nat) : Nightmare (loopsDesign i) :=
  .of_first ⟨show 0 < 4 by decide, show 4 ≤ 8 by decide, show 0 < 3 by decide,
    show 3 ≤ Nat.choose 8 4 by decide⟩ rfl
    (show "loops_".toList.head? = some 'l' by decide) (by decide)

/-- The hidden paths are hidden. -/
theorem nightmare_backtrack (i : Nat) : (backtrackDesign i).Ensures fun design =>
    design.name = s!"backtrack_weights_{i}" ∧ Nightmare design := by
  refine (Draw.shuffle_perm (List.range 12)).bind fun hidden perm => ?_
  refine (Draw.Ensures.of_forall fun _ => trivial).bind fun noise _ => .pure ⟨rfl, ?_⟩
  -- The noise plays no part: whatever it is, the entries off the path are lighter.
  have count : hidden.length = 12 := by rw [perm.length_eq, List.length_range]
  have length : (hidden.take 5).length = 5 := by rw [List.length_take, count]; rfl
  have distinct : (hidden.take 5).Nodup :=
    (perm.nodup_iff.mpr List.nodup_range).sublist (List.take_sublist 5 hidden)
  have inside : ∀ x ∈ hidden.take 5, x < 12 := fun x member =>
    List.mem_range.mp (perm.mem_iff.mp (List.mem_of_mem_take member))
  refine ⟨⟨show 0 < 5 by decide, show 5 ≤ 12 by decide, show 0 < 2 by decide,
    show 2 ≤ Nat.choose 12 5 by decide⟩, fun _ _ => ⟨hidden.take 5, ?_⟩⟩
  have ten := tenOn_ofFn distinct inside fun u v =>
    u != v && (noise.toArray[u * 12 + v]?).any (· < 0.6)
  simp only [pathEdges_eq_steps]
  exact ten.hidesPath length

/-- A graph of ten vertices with single edges has at most a hundred. -/
theorem size_le_hundred (present : Nat → Nat → Bool) :
    (Graph.ofFn 10 fun u v => edgeIf (present u v)).size.toNat ≤ 100 := by
  have single : (Graph.ofFn 10 fun u v => edgeIf (present u v)).EntriesLe 1 := by
    refine Graph.entriesLe_ofFn fun u v => ?_
    cases present u v <;> decide
  have edges := single.edges_le
  rw [Graph.toNat_size (show 10 ≤ 2 ^ 16 by decide)]
  exact edges

/-- A third of the edges, or one copy, is no more than there are pairs of vertices. -/
theorem nightmare_maxCopies (i : Nat) : (maxCopiesDesign i).Ensures fun design =>
    design.name = s!"max_k_{i}" ∧ Nightmare design := by
  refine (Draw.Ensures.of_forall fun _ => trivial).bind fun noise _ => .pure ⟨rfl, ?_⟩
  refine .of_first ⟨show 0 < 2 by decide, show 2 ≤ 10 by decide, ?_, ?_⟩ rfl
    (show "max_k_".toList.head? = some 'm' by decide) (by decide)
  · exact Nat.lt_of_lt_of_le Nat.zero_lt_one (Nat.le_max_right _ _)
  · have few := size_le_hundred fun u v => u != v && (noise.toArray[u * 10 + v]?).any (· < 0.3)
    have third := (Nat.div_le_div_right (c := 3) few).trans
      (show 100 / 3 ≤ Nat.choose 10 2 by decide)
    exact Nat.max_le.mpr ⟨third, show 1 ≤ Nat.choose 10 2 by decide⟩

/-- A random graph has the order that is asked for. -/
theorem coinGraph_order (order : Nat) : (coinGraph order).Ensures (·.order = order) :=
  .bind (.of_forall fun _ => trivial) fun _ _ => .pure rfl

/-- The dense graphs ask for no more copies than there are vertex sets. -/
theorem nightmare_scale (i : Nat) : (scaleDesign i).Ensures fun design =>
    design.name = s!"scale_{i}" ∧ Nightmare design := by
  refine (coinGraph_order 7).bind fun pattern seven => ?_
  refine (coinGraph_order 15).bind fun target fifteen => .pure ⟨rfl, ?_⟩
  refine .of_first ⟨?_, ?_, show 0 < 2 by decide, ?_⟩ rfl
    (show "scale_".toList.head? = some 's' by decide) (by decide)
  · change 0 < pattern.order
    omega
  · change pattern.order ≤ target.order
    omega
  · change 2 ≤ target.order.choose pattern.order
    rw [seven, fifteen]
    decide

/-- The names of the designs. -/
def nightmareTitles : List String :=
  ["symmetry_clique_1", "symmetry_clique_2", "symmetry_clique_3", "backtrack_weights_1",
    "backtrack_weights_2", "backtrack_weights_3", "max_k_1", "max_k_2", "scale_1", "scale_2",
    "scale_3", "loops_1", "loops_2"]

/-- Designs with the names of a title and a number are those of the numbers. -/
theorem of_titled {title : String} {numbers : List Nat} {designs : List Design}
    (titled : List.Forall₂ (fun i design => design.name = title ++ toString i ∧ Nightmare design)
      numbers designs) :
    designs.map (·.name) = numbers.map (fun i => title ++ toString i) ∧
      ∀ design ∈ designs, Nightmare design := by
  constructor
  · exact (map_eq_map_of_forall₂ (titled.imp fun _ _ both => both.1.symm)).symm
  · intro design listed
    obtain ⟨_, -, both⟩ := exists_of_mem_forall₂ titled listed
    exact both.2

/-- The designs have their names, make possible cases, and hide paths where they are named so. -/
theorem nightmareDesigns_titled : nightmareDesigns.Ensures fun designs =>
    designs.map (·.name) = nightmareTitles ∧ ∀ design ∈ designs, Nightmare design := by
  refine (Draw.Ensures.mapM fun i _ => nightmare_backtrack i).bind fun backtrack hidden => ?_
  refine (Draw.Ensures.mapM fun i _ => nightmare_maxCopies i).bind fun maxCopies counted => ?_
  refine (Draw.Ensures.mapM fun i _ => nightmare_scale i).bind fun scale dense => .pure ?_
  obtain ⟨backtrackNames, hides⟩ := of_titled hidden
  obtain ⟨maxCopiesNames, counts⟩ := of_titled counted
  obtain ⟨scaleNames, scales⟩ := of_titled dense
  constructor
  · rw [List.map_append, List.map_append, List.map_append, List.map_append, backtrackNames,
      maxCopiesNames, scaleNames]
    decide
  · simp only [List.forall_mem_append]
    refine ⟨⟨⟨⟨?_, hides⟩, counts⟩, scales⟩, ?_⟩
    · exact List.forall_mem_map.mpr fun i listed => nightmare_symmetry listed
    · exact List.forall_mem_map.mpr fun i _ => nightmare_loops i

/-- What the nightmares are by design. -/
structure NightmareLaws (cases : List GeneratedCase) : Prop where
  /-- There are thirteen. -/
  count : cases.length = 13
  /-- They have the names of their designs. -/
  names : cases.map (·.name) = nightmareTitles.map fun title => s!"nightmare_{title}"
  /-- No two have the same name. -/
  distinct : (cases.map (·.name)).Nodup
  /-- None is impossible. -/
  possible : ∀ generated ∈ cases, generated.problem.isImpossible = false
  /-- Those named so hide a path, along which alone their pattern is embedded. -/
  hidden : ∀ generated ∈ cases, ∀ i : Nat, generated.name = s!"nightmare_backtrack_weights_{i}" →
    ∃ path, HidesPath generated.problem.pattern generated.problem.target path

/-- Cases of the designs of the nightmares keep the laws. -/
theorem nightmareLaws_of_realizes {designs : List Design} {cases : List GeneratedCase}
    (titles : designs.map (·.name) = nightmareTitles)
    (nightmares : ∀ design ∈ designs, Nightmare design)
    (realize : List.Forall₂ nightmare.Realizes designs cases) : NightmareLaws cases := by
  have names : cases.map (·.name) = nightmareTitles.map fun title => s!"nightmare_{title}" := by
    rw [← titles, List.map_map]
    exact (map_eq_map_of_forall₂ (realize.imp fun _ _ realized => realized.name.symm)).symm
  refine ⟨?_, names, ?_, fun generated own => ?_, fun generated own i named => ?_⟩
  · have count := congrArg List.length names
    rwa [List.length_map] at count
  · rw [names]
    decide
  · obtain ⟨design, listed, realized⟩ := exists_of_mem_forall₂ realize own
    exact realized.isImpossible (nightmares design listed).possible
  · obtain ⟨design, listed, realized⟩ := exists_of_mem_forall₂ realize own
    have title : design.name = s!"backtrack_weights_{i}" := by
      have parts : "nightmare_backtrack_weights_" = "nightmare_" ++ "backtrack_weights_" := by
        decide
      have same : "nightmare_" ++ design.name =
          "nightmare_backtrack_weights_" ++ toString i := realized.name.symm.trans named
      rw [parts, String.append_assoc] at same
      exact (String.append_right_inj _).mp same
    rw [realized.pattern, realized.target]
    exact (nightmares design listed).hides i title

/-- Whatever the state of the generator, the nightmares are thirteen possible cases with different
names. The target of each hidden path has four entries of ten, which lead through five different
vertices, all others are nine or zero, and the pattern has one embedding. -/
theorem nightmare_keeps_design (g : Generator) :
    ∃ cases, (nightmare.generate.run g).1 = .ok cases ∧ NightmareLaws cases := by
  have drawn : nightmare.generate.Ensures fun result =>
      ∃ cases, result = .ok cases ∧ NightmareLaws cases := by
    refine nightmareDesigns_titled.bind fun designs ⟨titles, nightmares⟩ => .pure ?_
    have each : ∀ design ∈ designs, ∃ generated, nightmare.ofDesign design = .ok generated ∧
        nightmare.Realizes design generated :=
      fun design listed => ofDesign_eq_ok (nightmares design listed).possible
    obtain ⟨cases, given, realize⟩ := exists_mapM_eq_ok each
    exact ⟨cases, given, nightmareLaws_of_realizes titles nightmares realize⟩
  exact drawn g

end Family

end CopyOracle
