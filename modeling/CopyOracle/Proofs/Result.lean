import Mathlib.Data.List.Forall2
/-!
# Results with a value and their faults

A step that may fail has a value exactly when each of its parts has one, and it fails with what
one of its parts fails with. These statements take apart the readers and checks, which are
sequences of such steps.
-/

namespace CopyOracle

variable {α β ε ε' : Type}

/-- Two steps in order have a value exactly when the first has one and the second has one on it. -/
theorem bind_eq_ok_iff {first : Except ε α} {next : α → Except ε β} {value : β} :
    first >>= next = .ok value ↔ ∃ middle, first = .ok middle ∧ next middle = .ok value := by
  cases first <;> simp [bind, Except.bind]

/-- Two steps in order fail with the fault of the first, or with that of the second on the value of
the first. -/
theorem bind_eq_error_iff {first : Except ε α} {next : α → Except ε β} {fault : ε} :
    first >>= next = .error fault ↔
      first = .error fault ∨ ∃ middle, first = .ok middle ∧ next middle = .error fault := by
  cases first <;> simp [bind, Except.bind]

/-- Renaming the fault of a result keeps its value. -/
theorem mapError_eq_ok_iff {rename : ε → ε'} {result : Except ε α} {value : α} :
    result.mapError rename = .ok value ↔ result = .ok value := by
  cases result <;> simp [Except.mapError]

/-- A changed value comes from a value. -/
theorem map_eq_ok_iff {change : α → β} {result : Except ε α} {value : β} :
    result.map change = .ok value ↔ ∃ source, result = .ok source ∧ change source = value := by
  cases result <;> simp [Except.map]

/-- A reader of single values reads a list exactly when it reads each value. -/
theorem mapM_eq_ok_iff {read : α → Except ε β} {tokens : List α} {values : List β} :
    tokens.mapM read = .ok values ↔
      List.Forall₂ (fun value token => read token = .ok value) values tokens := by
  induction tokens generalizing values with
  | nil => cases values <;> simp [pure, Except.pure]
  | cons token tokens ih =>
    rw [List.mapM_cons, bind_eq_ok_iff]
    simp only [bind_eq_ok_iff, ih, pure, Except.pure, Except.ok.injEq, List.forall₂_cons_right_iff]
    constructor
    · rintro ⟨value, head, rest, tail, rfl⟩
      exact ⟨value, rest, head, tail, rfl⟩
    · rintro ⟨value, rest, head, tail, rfl⟩
      exact ⟨value, head, rest, tail, rfl⟩

/-- A reader that has a value for each token, of a property, has the values for all of them. -/
theorem exists_mapM_eq_ok {read : α → Except ε β} {property : α → β → Prop} {tokens : List α}
    (each : ∀ token ∈ tokens, ∃ value, read token = .ok value ∧ property token value) :
    ∃ values, tokens.mapM read = .ok values ∧ List.Forall₂ property tokens values := by
  induction tokens with
  | nil => exact ⟨[], rfl, .nil⟩
  | cons token tokens ih =>
    obtain ⟨⟨value, first, holds⟩, others⟩ := List.forall_mem_cons.mp each
    obtain ⟨values, rest, hold⟩ := ih others
    refine ⟨value :: values, ?_, .cons holds hold⟩
    rw [List.mapM_cons, first, rest]
    rfl

/-- Lists whose members agree one by one under two functions agree under them as lists. -/
theorem map_eq_map_of_forall₂ {γ : Type} {left : α → γ} {right : β → γ} {items : List α}
    {others : List β}
    (same : List.Forall₂ (fun item other => left item = right other) items others) :
    items.map left = others.map right := by
  rw [← List.forall₂_eq_eq_eq, List.forall₂_map_left_iff, List.forall₂_map_right_iff]
  exact same

/-- A member of one of two related lists is related to a member of the other. -/
theorem exists_of_mem_forall₂ {relation : α → β → Prop} {items : List α} {others : List β}
    (related : List.Forall₂ relation items others) {other : β} (member : other ∈ others) :
    ∃ item ∈ items, relation item other := by
  obtain ⟨i, inside, rfl⟩ := List.getElem_of_mem member
  have length := related.length_eq
  exact ⟨items[i], List.getElem_mem _, related.get (by omega) inside⟩

/-- When the result is a fault, it is an allowed one. -/
def FailsOnly (allowed : ε → Prop) (result : Except ε α) : Prop :=
  ∀ fault, result = .error fault → allowed fault

namespace FailsOnly

variable {allowed : ε → Prop}

/-- A value is no fault. -/
theorem ok (value : α) : FailsOnly allowed (.ok value : Except ε α) :=
  fun _ failed => nomatch failed

/-- An allowed fault. -/
theorem error {fault : ε} (good : allowed fault) :
    FailsOnly allowed (.error fault : Except ε α) :=
  fun _ failed => Except.error.inj failed ▸ good

/-- Two steps in order fail with what either of them fails with. -/
theorem bind {first : Except ε α} {next : α → Except ε β} (here : FailsOnly allowed first)
    (there : ∀ middle, FailsOnly allowed (next middle)) : FailsOnly allowed (first >>= next) := by
  cases first with
  | error fault => exact error (here fault rfl)
  | ok middle => exact there middle

/-- A changed value changes no fault. -/
theorem map {result : Except ε α} (here : FailsOnly allowed result) (change : α → β) :
    FailsOnly allowed (result.map change) := by
  cases result with
  | error fault => exact error (here fault rfl)
  | ok value => exact ok _

/-- Renaming keeps the faults allowed that are allowed under their new names. -/
theorem mapError {allowed : ε' → Prop} {rename : ε → ε'} {result : Except ε α}
    (here : FailsOnly (fun fault => allowed (rename fault)) result) :
    FailsOnly allowed (result.mapError rename) := by
  cases result with
  | error fault => exact error (here fault rfl)
  | ok value => exact ok _

/-- A reader of a list fails with what the reader of single values fails with on its members. -/
theorem mapM {read : α → Except ε β} {tokens : List α}
    (each : ∀ token ∈ tokens, FailsOnly allowed (read token)) :
    FailsOnly allowed (tokens.mapM read) := by
  induction tokens with
  | nil => exact ok _
  | cons token tokens ih =>
    obtain ⟨first, others⟩ := List.forall_mem_cons.mp each
    rw [List.mapM_cons]
    exact first.bind fun _ => (ih others).bind fun _ => ok _

/-- A fold fails with what its steps fail with. -/
theorem foldlM {step : β → α → Except ε β}
    (each : ∀ state token, FailsOnly allowed (step state token)) (start : β)
    (tokens : List α) : FailsOnly allowed (tokens.foldlM step start) := by
  induction tokens generalizing start with
  | nil => exact ok _
  | cons token tokens ih =>
    rw [List.foldlM_cons]
    exact (each start token).bind ih

end FailsOnly

end CopyOracle
