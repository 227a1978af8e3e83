import Mathlib.Data.Prod.Lex
/-!
# Searches in lists

A search that goes through a list in its order finds the least match. The pairs of two ordered
lists, row after row, stand in the lexicographic order of pairs. Searching a table of values for
several items at once finds the first of the values that are found for one of them. What is found
under a key in a list of keys with values is the value of the first entry with that key, so entries
with other keys do not matter.
-/

namespace CopyOracle

variable {α β : Type}

/-- The first match of a list in order is the match before which there is none. -/
theorem find?_eq_some_iff_least {before : α → α → Prop} [Std.Asymm before] {items : List α}
    (ordered : items.Pairwise before) {accepts : α → Bool} {item : α} :
    items.find? accepts = some item ↔ item ∈ items ∧ accepts item = true ∧
      ∀ other ∈ items, before other item → accepts other = false := by
  constructor
  · intro search
    obtain ⟨accepted, front, back, rfl, refused⟩ := List.find?_eq_some_iff_append.mp search
    obtain ⟨_, later, _⟩ := List.pairwise_append.mp ordered
    refine ⟨List.mem_of_find?_eq_some search, accepted, fun other member earlier => ?_⟩
    rcases List.mem_append.mp member with inFront | inBack
    · simpa using refused other inFront
    · rcases List.mem_cons.mp inBack with rfl | inBack
      · exact absurd earlier (asymm earlier)
      · exact absurd earlier (asymm ((List.pairwise_cons.mp later).1 other inBack))
  · rintro ⟨member, accepted, first⟩
    obtain ⟨found, search⟩ := Option.isSome_iff_exists.mp
      (List.find?_isSome.mpr ⟨item, member, accepted⟩)
    obtain ⟨matched, front, back, rfl, refused⟩ := List.find?_eq_some_iff_append.mp search
    obtain ⟨_, later, _⟩ := List.pairwise_append.mp ordered
    rcases List.mem_append.mp member with inFront | inBack
    · have declined := refused item inFront
      rw [accepted] at declined
      contradiction
    · rcases List.mem_cons.mp inBack with rfl | inBack
      · exact search
      · have declined := first found (List.mem_of_find?_eq_some search)
          ((List.pairwise_cons.mp later).1 item inBack)
        rw [matched] at declined
        contradiction

/-- The pairs of the members of two ordered lists stand in lexicographic order. -/
theorem pairwise_lex_pairs {first : α → α → Prop} {second : β → β → Prop} {rows : List α}
    {columns : List β} (ordered : rows.Pairwise first) (within : columns.Pairwise second) :
    (rows.flatMap fun row => columns.map fun column => (row, column)).Pairwise
      (Prod.Lex first second) := by
  rw [List.pairwise_flatMap]
  constructor
  · intro row _
    exact List.pairwise_map.mpr (within.imp fun {_ _} before => Prod.Lex.right _ before)
  · refine ordered.imp fun {row next} before cell inRow other inNext => ?_
    obtain ⟨column, -, rfl⟩ := List.mem_map.mp inRow
    obtain ⟨opposite, -, rfl⟩ := List.mem_map.mp inNext
    exact Prod.Lex.left _ _ before

/-- In a list in which equal values stand together, a match that comes before every member is the
first match. -/
theorem find?_eq_some_of_front {rank : β → Nat} (injective : Function.Injective rank)
    {values : List β} (ordered : values.Pairwise fun earlier later => rank earlier ≤ rank later)
    {accepts : β → Bool} {value : β} (member : value ∈ values) (accepted : accepts value = true)
    (front : ∀ other ∈ values, rank value ≤ rank other) : values.find? accepts = some value := by
  obtain ⟨first, search⟩ := Option.isSome_iff_exists.mp
    (List.find?_isSome.mpr ⟨value, member, accepted⟩)
  obtain ⟨_, before, after, rfl, refused⟩ := List.find?_eq_some_iff_append.mp search
  obtain ⟨_, later, _⟩ := List.pairwise_append.mp ordered
  have notBehind : rank first ≤ rank value := by
    rcases List.mem_append.mp member with inFront | inBack
    · simpa [accepted] using refused value inFront
    · rcases List.mem_cons.mp inBack with rfl | inBack
      · exact Nat.le_refl _
      · exact (List.pairwise_cons.mp later).1 value inBack
  have notBefore : rank value ≤ rank first := front first (List.mem_of_find?_eq_some search)
  rw [search, injective (Nat.le_antisymm notBehind notBefore)]

/-- In a table in which equal values stand together, the first entry that accepts one of the items
has the first of the values that are found for a single item. -/
theorem find?_any_eq_first {κ ι : Type} [BEq β] [LawfulBEq β] {rank : β → Nat}
    (injective : Function.Injective rank) {table : List (κ × β)}
    (ordered : table.Pairwise fun earlier later => rank earlier.2 ≤ rank later.2)
    (accepts : κ × β → ι → Bool) (items : List ι) :
    (table.map Prod.snd).find? (fun value =>
        items.any fun item => (table.find? (accepts · item)).map Prod.snd == some value) =
      (table.find? fun entry => items.any (accepts entry)).map Prod.snd := by
  induction table with
  | nil => rfl
  | cons entry rest ih =>
    obtain ⟨first, later⟩ := List.pairwise_cons.mp ordered
    cases here : items.any (accepts entry) with
    | true =>
      obtain ⟨item, listed, accepted⟩ := List.any_eq_true.mp here
      have found : items.any (fun item =>
          ((entry :: rest).find? (accepts · item)).map Prod.snd == some entry.2) = true := by
        refine List.any_eq_true.mpr ⟨item, listed, ?_⟩
        rw [List.find?_cons, accepted]
        exact beq_self_eq_true _
      rw [List.map_cons, List.find?_cons, found, List.find?_cons, here]
      rfl
    | false =>
      have refused : ∀ item ∈ items, accepts entry item = false := by simpa using here
      have skipped (value : β) :
          (items.any fun item =>
            ((entry :: rest).find? (accepts · item)).map Prod.snd == some value) =
          items.any fun item => (rest.find? (accepts · item)).map Prod.snd == some value := by
        rw [Bool.eq_iff_iff, List.any_eq_true, List.any_eq_true]
        refine exists_congr fun item => and_congr_right fun listed => ?_
        rw [List.find?_cons, refused item listed]
      rw [List.map_cons, List.find?_cons (a := entry)]
      simp only [here, skipped]
      rw [← ih later, List.find?_cons]
      split
      · next found =>
        -- The value of the skipped entry comes back further on, so it is the first value there.
        obtain ⟨item, listed, same⟩ := List.any_eq_true.mp found
        obtain ⟨again, search, value⟩ := Option.map_eq_some_iff.mp (beq_iff_eq.mp same)
        have returns : entry.2 ∈ rest.map Prod.snd :=
          value ▸ List.mem_map_of_mem (List.mem_of_find?_eq_some search)
        have front : ∀ other ∈ rest.map Prod.snd, rank entry.2 ≤ rank other := by
          intro other member
          obtain ⟨next, inRest, rfl⟩ := List.mem_map.mp member
          exact first next inRest
        exact (find?_eq_some_of_front injective (List.pairwise_map.mpr later) returns found
          front).symm
      · rfl

section Keys

variable {κ : Type} [BEq κ] [LawfulBEq κ] [DecidableEq κ]

/-- What is found under a key is what the first entry has under it, or else what a later one has. -/
theorem lookup_cons_eq (first key : κ) (value : α) (rest : List (κ × α)) :
    List.lookup key ((first, value) :: rest) =
      if key = first then some value else rest.lookup key := by
  by_cases same : key = first
  · rw [List.lookup_cons, beq_iff_eq.mpr same, if_pos same]
  · rw [List.lookup_cons, beq_eq_false_iff_ne.mpr same, if_neg same]

/-- Where only entries with other keys are left out, the same is found. -/
theorem lookup_filter_eq (kept : κ → Bool) {key : κ} (here : kept key = true)
    (entries : List (κ × α)) :
    (entries.filter fun entry => kept entry.1).lookup key = entries.lookup key := by
  induction entries with
  | nil => rfl
  | cons entry rest ih =>
    obtain ⟨first, value⟩ := entry
    rw [lookup_cons_eq, List.filter_cons]
    by_cases same : key = first
    · subst same
      rw [if_pos here, lookup_cons_eq, if_pos rfl, if_pos rfl]
    · rw [if_neg same]
      split
      · rw [lookup_cons_eq, if_neg same, ih]
      · exact ih

end Keys

end CopyOracle
