import CopyOracle.Regex.Basic

/-!
# Finding what a regular expression stands for

An expression is turned into a program of few kinds of steps. All ways through the program are
followed at once, character by character, those that the expression prefers first; of all texts
that begin first the longest is found. An expression that refers back is followed way by way.
-/
namespace CopyOracle.Regex

/-- A step of the program of an expression. -/
inductive Step where
  /-- A character of a set is passed. -/
  | pass (set : CharSet)
  /-- It goes on at two steps, the first of which is preferred. -/
  | split (first second : Nat)
  /-- It goes on at another step. -/
  | jump (target : Nat)
  /-- The place in the text is remembered. -/
  | save (slot : Nat)
  /-- It goes on only at some places of the text. -/
  | check (place : TextPlace)
  /-- The text of a group is passed again. -/
  | again (number : Nat)
  /-- The expression is found. -/
  | done

/-- The steps of an expression that begin at a number. -/
def steps : Regex → (start : Nat) → List Step
  | .empty, _ => []
  | .among set, _ => [.pass set]
  | .anchor place, _ => [.check place]
  | .same number, _ => [.again number]
  | .group number body, start =>
    .save (2 * number) :: body.steps (start + 1) ++ [.save (2 * number + 1)]
  | .both first second, start =>
    let front := first.steps start
    front ++ second.steps (start + front.length)
  | .either first second, start =>
    let front := first.steps (start + 1)
    let later := start + front.length + 2
    let back := second.steps later
    .split (start + 1) later :: front ++ .jump (later + back.length) :: back
  | .repeated least most body, start =>
    let length := (body.steps 0).length
    let required := (List.range least).flatMap fun i => body.steps (start + i * length)
    let start := start + least * length
    match most with
    | none =>
      required ++ .split (start + 1) (start + length + 2) :: body.steps (start + 1) ++ [.jump start]
    | some most =>
      let count := most - least
      let last := start + count * (length + 1)
      required ++ (List.range count).flatMap fun i =>
        let here := start + i * (length + 1)
        .split (here + 1) last :: body.steps (here + 1)

/-- An expression that is ready to be looked for. -/
structure Finder where
  /-- The steps. -/
  steps : Array Step
  /-- How many groups there are. -/
  groups : Nat
  /-- The characters that a text can begin with; none if it can be empty. -/
  front : Option CharSet
  /-- Whether ways are followed one by one. -/
  isStepwise : Bool
  /-- Whether lines begin and end within the text. -/
  hasLines : Bool

/-- Prepares an expression to be looked for. -/
def finder (regex : Regex) (ignoresCase : Bool := false) (hasLines : Bool := false) : Finder :=
  let regex := if ignoresCase then regex.foldCase else regex
  let (front, canBeEmpty) := regex.front
  { steps := (regex.steps 0 ++ [Step.done]).toArray, groups := regex.groups
    front := if canBeEmpty then none else some front
    isStepwise := regex.refersBack, hasLines }

/-- What was found: where it begins and ends, and where its groups do. -/
structure Found where
  /-- Where it begins. -/
  start : Nat
  /-- Where it ends. -/
  stop : Nat
  /-- The places remembered, by their slots. -/
  slots : Array (Option Nat)

namespace Found

/-- Where a group begins and ends; the group zero is the whole. -/
def group? (found : Found) (number : Nat) : Option (Nat × Nat) :=
  if number = 0 then some (found.start, found.stop)
  else
    match found.slots[2 * number]?.join, found.slots[2 * number + 1]?.join with
    | some start, some stop => some (start, stop)
    | _, _ => none

end Found

/-- Whether a place of a text is of some kind; the text may not begin a line. -/
def isAt (text : Array Char) (hasLines startsLine : Bool) (position : Nat) :
    TextPlace → Bool
  | .lineStart =>
    (position = 0 && startsLine) ||
      (hasLines && 0 < position && text[position - 1]? = some '\n')
  | .lineEnd => position = text.size || (hasLines && text[position]? = some '\n')
  | .textStart => position = 0 && startsLine
  | .textEnd => position = text.size
  | .wordEdge => before != after
  | .noWordEdge => before == after
  | .wordStart => !before && after
  | .wordEnd => before && !after
where
  /-- Whether a word stands before the place. -/
  before : Bool := 0 < position && (text[position - 1]?).any CharSet.isWordChar
  /-- Whether a word stands after the place. -/
  after : Bool := (text[position]?).any CharSet.isWordChar

/-- A way through the program: its next step, and the places remembered. -/
structure Way where
  /-- The next step. -/
  step : Nat
  /-- The places remembered. -/
  slots : Array (Option Nat)

/-- The ways at a place of the text. -/
structure Ways where
  /-- For each step the place, plus one, at which it was last reached. -/
  reached : Array Nat
  /-- The ways that wait for a character, the last one first. -/
  waiting : List Way := []
  /-- The preferred way that has found the expression here. -/
  finished : Option (Array (Option Nat)) := none

namespace Finder

/-- The ways with one more, followed up to where it waits for a character. -/
def follow (finder : Finder) (text : Array Char) (startsLine : Bool) (position : Nat) :
    (fuel : Nat) → Way → Ways → Ways
  | 0, _, ways => ways
  | fuel + 1, way, ways =>
    if ways.reached[way.step]? = some (position + 1) then ways
    else
      let ways := { ways with reached := ways.reached.set! way.step (position + 1) }
      match finder.steps[way.step]? with
      | none => ways
      | some (.pass _) => { ways with waiting := way :: ways.waiting }
      | some (.again _) => ways
      | some .done => { ways with finished := ways.finished.or (some way.slots) }
      | some (.jump target) => follow finder text startsLine position fuel ⟨target, way.slots⟩ ways
      | some (.split first second) =>
        let ways := follow finder text startsLine position fuel ⟨first, way.slots⟩ ways
        follow finder text startsLine position fuel ⟨second, way.slots⟩ ways
      | some (.save slot) =>
        follow finder text startsLine position fuel
          ⟨way.step + 1, way.slots.set! slot (some position)⟩ ways
      | some (.check place) =>
        if isAt text finder.hasLines startsLine position place then
          follow finder text startsLine position fuel ⟨way.step + 1, way.slots⟩ ways
        else ways

/-- Follows all ways from a place to the end of the text or of all ways; the last find is the
longest. -/
def advance (finder : Finder) (text : Array Char) (startsLine : Bool) : (fuel : Nat) →
    (position : Nat) → Ways → Option (Nat × Array (Option Nat)) →
    Option (Nat × Array (Option Nat)) × Array Nat
  | 0, _, ways, best => (best, ways.reached)
  | fuel + 1, position, ways, best =>
    let best := match ways.finished with
      | some slots => some (position, slots)
      | none => best
    match text[position]?, ways.waiting with
    | none, _ | _, [] => (best, ways.reached)
    | some c, waiting =>
      let depth := finder.steps.size + 1
      let next := waiting.reverse.foldl (fun next way =>
        match finder.steps[way.step]? with
        | some (.pass set) =>
          if set.contains c then
            follow finder text startsLine (position + 1) depth ⟨way.step + 1, way.slots⟩ next
          else next
        | _ => next) { reached := ways.reached }
      advance finder text startsLine fuel (position + 1) next best

/-- Follows one way after the other; the first that finds the expression counts. -/
def tryWays (finder : Finder) (text : Array Char) (startsLine : Bool) : (fuel : Nat) →
    (position : Nat) → Way → Option (Nat × Array (Option Nat))
  | 0, _, _ => none
  | fuel + 1, position, way =>
    match finder.steps[way.step]? with
    | none => none
    | some .done => some (position, way.slots)
    | some (.pass set) =>
      match text[position]? with
      | some c =>
        if set.contains c then
          tryWays finder text startsLine fuel (position + 1) ⟨way.step + 1, way.slots⟩
        else none
      | none => none
    | some (.jump target) => tryWays finder text startsLine fuel position ⟨target, way.slots⟩
    | some (.split first second) =>
      match tryWays finder text startsLine fuel position ⟨first, way.slots⟩ with
      | some found => some found
      | none => tryWays finder text startsLine fuel position ⟨second, way.slots⟩
    | some (.save slot) =>
      tryWays finder text startsLine fuel position
        ⟨way.step + 1, way.slots.set! slot (some position)⟩
    | some (.check place) =>
      if isAt text finder.hasLines startsLine position place then
        tryWays finder text startsLine fuel position ⟨way.step + 1, way.slots⟩
      else none
    | some (.again number) =>
      match way.slots[2 * number]?.join, way.slots[2 * number + 1]?.join with
      | some start, some stop =>
        let remembered := text.extract start stop
        if text.extract position (position + remembered.size) == remembered then
          tryWays finder text startsLine fuel (position + remembered.size)
            ⟨way.step + 1, way.slots⟩
        else none
      | _, _ => none

/-- The first place from a start on at which the expression can begin. -/
def nextStart (front : CharSet) (text : Array Char) : (fuel : Nat) → (position : Nat) → Option Nat
  | 0, _ => none
  | fuel + 1, position =>
    match text[position]? with
    | none => none
    | some c => if front.contains c then some position else nextStart front text fuel (position + 1)

/-- Looks for the expression at one place after the other. -/
def searchFrom (finder : Finder) (text : Array Char) (startsLine : Bool) : (fuel : Nat) →
    (position : Nat) → (reached : Array Nat) → Option Found
  | 0, _, _ => none
  | fuel + 1, position, reached =>
    let start := match finder.front with
      | some front => nextStart front text (text.size + 1) position
      | none => if position ≤ text.size then some position else none
    match start with
    | none => none
    | some position =>
      let slots : Array (Option Nat) := Array.replicate (2 * finder.groups + 2) none
      let way : Way := ⟨0, slots⟩
      let (best, reached) :=
        if finder.isStepwise then
          (tryWays finder text startsLine ((text.size + 2) * (finder.steps.size + 1)) position way,
            reached)
        else
          let cleared := if reached.isEmpty then Array.replicate finder.steps.size 0
            else reached.map fun _ => 0
          advance finder text startsLine (text.size + 1) position
            (follow finder text startsLine position (finder.steps.size + 1) way
              { reached := cleared }) none
      match best with
      | some (stop, slots) => some ⟨position, stop, slots⟩
      | none => searchFrom finder text startsLine fuel (position + 1) reached

/-- Looks for the expression in a text from a place on: of the finds that begin first, the
longest. -/
def search (finder : Finder) (text : Array Char) (position : Nat := 0)
    (startsLine : Bool := true) : Option Found :=
  searchFrom finder text startsLine (text.size + 2 - position) position #[]

end Finder

end CopyOracle.Regex
