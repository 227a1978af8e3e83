import CopyOracle.File.Action
import Mathlib.Tactic.Common
/-!
# What actions on files give

`FileAction.Gives` says that an action on given files ends without an error, with which value, and
which files it leaves. The rules here take an action apart into its steps.
-/

namespace CopyOracle.FileAction

variable {ε α β : Type}

/-- How an action on files ends, and the files that it leaves. -/
def outcome (action : FileAction ε α) (before : FileTree) : Except ε α × FileTree :=
  action.run.run before

/-- On the files `before` the action gives the value and leaves the files `after`. -/
def Gives (action : FileAction ε α) (before : FileTree) (value : α) (after : FileTree) : Prop :=
  action.outcome before = (.ok value, after)

variable {before after : FileTree}

/-- The second of two actions is carried out on the value of the first. -/
theorem outcome_bind (action : FileAction ε α) (next : α → FileAction ε β) (before : FileTree) :
    (action >>= next).outcome before = match action.outcome before with
      | (.ok value, between) => (next value).outcome between
      | (.error fault, between) => (.error fault, between) := by
  change (match action.outcome before with
    | (result, between) => ExceptT.bindCont next result between) = _
  rcases action.outcome before with ⟨_ | _, _⟩ <;> rfl

/-- Getting the files changes nothing. -/
theorem outcome_get (before : FileTree) :
    (get : FileAction ε FileTree).outcome before = (.ok before, before) := rfl

/-- Looking something up changes nothing. -/
theorem outcome_inspect (fail : FileError → ε) (look : FileTree → Except FileError α)
    (before : FileTree) :
    (inspect fail look).outcome before = ((look before).mapError fail, before) := by
  rw [inspect, outcome_bind, outcome_get]
  dsimp only
  cases look before <;> rfl

/-- What is done finally is done in any case, and an error of it is one of the whole. -/
theorem outcome_tryFinally (action : FileAction ε α) (final : FileAction ε β) (before : FileTree) :
    (tryFinally action final).outcome before =
      match final.outcome (action.outcome before).2 with
      | (.ok _, last) => ((action.outcome before).1, last)
      | (.error fault, last) => (.error fault, last) := by
  change (tryFinally (fun _ => action.outcome before : FileAction ε α) final).outcome before = _
  rcases action.outcome before with ⟨_ | _, between⟩ <;>
    change outcome (tryFinally _ (fun _ => final.outcome between : FileAction ε β)) before = _ <;>
    rcases final.outcome between with ⟨_ | _, _⟩ <;> rfl

/-- A value that is given leaves the files as they are. -/
theorem gives_pure_iff {value result : α} :
    Gives (pure value : FileAction ε α) before result after ↔ value = result ∧ before = after := by
  change ((Except.ok value : Except ε α), before) = (.ok result, after) ↔ _
  rw [Prod.mk.injEq, Except.ok.injEq]

/-- Two actions in order give a value exactly when the first gives one and the second gives the
value on it. -/
theorem gives_bind_iff {action : FileAction ε α} {next : α → FileAction ε β} {result : β} :
    Gives (action >>= next) before result after ↔ ∃ value between,
      Gives action before value between ∧ Gives (next value) between result after := by
  rw [Gives, outcome_bind]
  rcases ran : action.outcome before with ⟨fault | value, between⟩ <;> simp [Gives, ran]

/-- Looking something up gives what is found and changes nothing. -/
theorem gives_inspect_iff {fail : FileError → ε} {look : FileTree → Except FileError α}
    {result : α} :
    Gives (inspect fail look) before result after ↔ look before = .ok result ∧ before = after := by
  rw [Gives, outcome_inspect, Prod.mk.injEq]
  cases look before <;> simp [Except.mapError]

/-- An action after which something is done finally gives the value of the action, when both give
one. -/
theorem gives_tryFinally_iff {action : FileAction ε α} {final : FileAction ε β} {result : α} :
    Gives (tryFinally action final) before result after ↔ ∃ between done,
      Gives action before result between ∧ Gives final between done after := by
  rw [Gives, outcome_tryFinally]
  rcases ran : action.outcome before with ⟨_ | _, between⟩ <;>
    rcases ended : final.outcome between with ⟨_ | _, _⟩ <;> simp [Gives, ran, ended]

/-- A change gives the changed files. -/
theorem gives_change_iff {fail : FileError → ε} {edit : FileTree → Except FileError FileTree} :
    Gives (change fail edit) before () after ↔ edit before = .ok after := by
  rw [Gives, change, outcome_bind, outcome_get]
  dsimp only
  cases edit before with
  | error fault => exact iff_of_false nofun nofun
  | ok files =>
    change ((Except.ok (), files) : Except ε Unit × FileTree) = _ ↔ _
    rw [Prod.mk.injEq, Except.ok.injEq]
    simp

/-- A change that is not refused gives the changed files. -/
theorem gives_modify_iff {edit : FileTree → FileTree} :
    Gives (modify edit : FileAction ε PUnit) before () after ↔ edit before = after := by
  change ((Except.ok (), edit before) : Except ε PUnit × FileTree) = _ ↔ _
  rw [Prod.mk.injEq]
  exact and_iff_right rfl

/-- An action that cannot fail gives what it does. -/
theorem gives_lift_iff {action : StateM FileTree α} {value : α} :
    Gives (liftM action : FileAction ε α) before value after ↔
      action.run before = (value, after) := by
  rcases ran : action.run before with ⟨result, files⟩
  have lifted : (liftM action : FileAction ε α).outcome before = (.ok result, files) := by
    change (match action.run before with
      | (result, between) => ((Except.ok result, between) : Except ε α × FileTree)) = _
    rw [ran]
  rw [Gives, lifted, Prod.mk.injEq, Prod.mk.injEq, Except.ok.injEq]

/-- Getting the files gives them and changes nothing. -/
theorem gives_get (files : FileTree) : Gives (get : FileAction ε FileTree) files files files := rfl

/-- An action on each item that gives its value and changes nothing gives all values. -/
theorem gives_mapM {step : α → FileAction ε β} {items : List α} {values : List β}
    {files : FileTree}
    (given : List.Forall₂ (fun item value => (step item).Gives files value files) items values) :
    (items.mapM step).Gives files values files := by
  induction given with
  | nil => exact gives_pure_iff.mpr ⟨rfl, rfl⟩
  | @cons item value items values first _ ih =>
    rw [List.mapM_cons]
    exact gives_bind_iff.mpr ⟨value, files, first, gives_bind_iff.mpr
      ⟨values, files, ih, gives_pure_iff.mpr ⟨rfl, rfl⟩⟩⟩

/-- What every step of a loop over numbered items keeps, the loop keeps. -/
theorem gives_foldlM_zipIdx {items : List α} {step : β → α → Nat → FileAction ε β}
    (kept : Nat → β → FileTree → Prop)
    (keeps : ∀ {index item state next files later}, items[index]? = some item →
      kept index state files → (step state item index).Gives files next later →
      kept (index + 1) next later)
    {count : Nat} {rest : List α} (split : items.drop count = rest) (within : count ≤ items.length)
    {start final : β} (here : kept count start before)
    (given : ((rest.zipIdx count).foldlM (fun state (item, index) => step state item index)
      start).Gives before final after) :
    kept items.length final after := by
  induction rest generalizing count start before with
  | nil =>
    obtain ⟨rfl, rfl⟩ := gives_pure_iff.mp given
    exact Nat.le_antisymm within (List.drop_eq_nil_iff.mp split) ▸ here
  | cons item rest ih =>
    rw [List.zipIdx_cons, List.foldlM_cons] at given
    obtain ⟨middle, files, first, others⟩ := gives_bind_iff.mp given
    have listed : items[count]? = some item := by rw [← List.head?_drop, split, List.head?_cons]
    have tail : items.drop (count + 1) = rest := by rw [← List.tail_drop, split, List.tail_cons]
    exact ih tail (List.getElem?_eq_some_iff.mp listed).1 (keeps listed here first) others

end CopyOracle.FileAction
