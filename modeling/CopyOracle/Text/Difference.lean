import Std.Data.HashMap

/-!
# Differences of texts

Two rows of lines are compared: which lines of each are not in the other, if as many as possible are
taken as common. Where a stretch of such lines could as well stand somewhat later it does, unless it
meets one in the other row.
-/
namespace CopyOracle.Difference

variable {Line : Type} [BEq Line] [Hashable Line]

/-- Which lines of two rows are changed. -/
structure Marks where
  /-- Those of the first row. -/
  left : Array Bool
  /-- Those of the second row. -/
  right : Array Bool

/-- A part of two rows: from one place on up to another one in each. -/
structure Part where
  /-- Where it begins in the first row. -/
  leftStart : Nat
  /-- Where it ends in the first row. -/
  leftEnd : Nat
  /-- Where it begins in the second row. -/
  rightStart : Nat
  /-- Where it ends in the second row. -/
  rightEnd : Nat
deriving DecidableEq, Repr

/-- A row of numbers that may begin below zero. -/
structure Track where
  /-- The numbers. -/
  numbers : Array Int
  /-- How far below zero it begins. -/
  shift : Nat

namespace Track

/-- The number at a place. -/
def get (track : Track) (place : Int) : Int := track.numbers[(place + track.shift).toNat]?.getD 0

/-- The row with another number at a place. -/
def set (track : Track) (place number : Int) : Track :=
  { track with numbers := track.numbers.set! (place + track.shift).toNat number }

end Track

/-- Whether the lines at two places are the same. -/
def same (left right : Array Line) (x y : Int) : Bool :=
  match left[x.toNat]?, right[y.toNat]? with
  | some first, some second => first == second
  | _, _ => false

/-- How far common lines go on from two places within a part. -/
def slideForward (left right : Array Line) (part : Part) : (fuel : Nat) → (x y : Int) → Int
  | 0, x, _ => x
  | fuel + 1, x, y =>
    if x < part.leftEnd && y < part.rightEnd && same left right x y then
      slideForward left right part fuel (x + 1) (y + 1)
    else x

/-- How far common lines go back from two places within a part. -/
def slideBack (left right : Array Line) (part : Part) : (fuel : Nat) → (x y : Int) → Int
  | 0, x, _ => x
  | fuel + 1, x, y =>
    if part.leftStart < x && part.rightStart < y && same left right (x - 1) (y - 1) then
      slideBack left right part fuel (x - 1) (y - 1)
    else x

/-- A search from one corner of a part: how far it has come on each diagonal. -/
structure Front where
  /-- How far. -/
  track : Track
  /-- The lowest diagonal that it has reached. -/
  least : Int
  /-- The highest one. -/
  most : Int

namespace Front

/-- The front on one more diagonal at either side, as far as the part has them; what lies beyond
them counts as some number. -/
def widened (front : Front) (lowest highest beyond : Int) : Front :=
  let (track, least) := if lowest < front.least then
      (front.track.set (front.least - 2) beyond, front.least - 1)
    else (front.track, front.least + 1)
  let (track, most) := if front.most < highest then
      (track.set (front.most + 2) beyond, front.most + 1)
    else (track, front.most - 1)
  { track, least, most }

end Front

/-- Moves the front from the first corner one edit further on every second diagonal from one down;
gives the place at which it meets the other front, if it does. -/
def advance (left right : Array Line) (part : Part) (other : Front) (isOdd : Bool) :
    (fuel : Nat) → (diagonal : Int) → Front → Front × Option (Int × Int)
  | 0, _, front => (front, none)
  | fuel + 1, diagonal, front =>
    if diagonal < front.least then (front, none)
    else
      let below := front.track.get (diagonal - 1)
      let above := front.track.get (diagonal + 1)
      let start := if below < above then above else below + 1
      let x := slideForward left right part (left.size + 1) start (start - diagonal)
      let front := { front with track := front.track.set diagonal x }
      if isOdd && other.least ≤ diagonal && diagonal ≤ other.most && other.track.get diagonal ≤ x then
        (front, some (x, x - diagonal))
      else advance left right part other isOdd fuel (diagonal - 2) front

/-- Moves the front from the last corner one edit further, likewise. -/
def retreat (left right : Array Line) (part : Part) (other : Front) (isOdd : Bool) :
    (fuel : Nat) → (diagonal : Int) → Front → Front × Option (Int × Int)
  | 0, _, front => (front, none)
  | fuel + 1, diagonal, front =>
    if diagonal < front.least then (front, none)
    else
      let below := front.track.get (diagonal - 1)
      let above := front.track.get (diagonal + 1)
      let start := if below < above then below else above - 1
      let x := slideBack left right part (left.size + 1) start (start - diagonal)
      let front := { front with track := front.track.set diagonal x }
      if !isOdd && other.least ≤ diagonal && diagonal ≤ other.most && x ≤ other.track.get diagonal then
        (front, some (x, x - diagonal))
      else retreat left right part other isOdd fuel (diagonal - 2) front

/-- The place at which the searches from both corners meet. -/
def meeting (left right : Array Line) (part : Part) (isOdd : Bool) : (fuel : Nat) →
    Front → Front → Int × Int
  | 0, _, _ => (part.leftStart, part.rightStart)
  | fuel + 1, forward, backward =>
    let lowest : Int := part.leftStart - part.rightEnd
    let highest : Int := part.leftEnd - part.rightStart
    let steps := left.size + right.size + 3
    let forward := forward.widened lowest highest (-1)
    match advance left right part backward isOdd steps forward.most forward with
    | (_, some place) => place
    | (forward, none) =>
      let backward := backward.widened lowest highest (left.size + right.size + 3)
      match retreat left right part forward isOdd steps backward.most backward with
      | (_, some place) => place
      | (backward, none) => meeting left right part isOdd fuel forward backward

/-- A place in the middle of a shortest way through a part. -/
def middle (left right : Array Line) (part : Part) : Nat × Nat :=
  let size := left.size + right.size + 5
  let empty : Track := ⟨Array.replicate (2 * size) 0, size⟩
  let first : Int := part.leftStart - part.rightStart
  let last : Int := part.leftEnd - part.rightEnd
  let (x, y) := meeting left right part ((first - last) % 2 ≠ 0) size
    ⟨empty.set first part.leftStart, first, first⟩ ⟨empty.set last part.leftEnd, last, last⟩
  (x.toNat, y.toNat)

/-- Marks the lines of a part that are not common. -/
def mark (left right : Array Line) : (fuel : Nat) → Part → Marks → Marks
  | 0, _, marks => marks
  | fuel + 1, part, marks =>
    let size := left.size + 1
    let start := (slideForward left right part size part.leftStart part.rightStart).toNat
    let part := { part with
      leftStart := start, rightStart := part.rightStart + (start - part.leftStart) }
    let last := (slideBack left right part size part.leftEnd part.rightEnd).toNat
    let part := { part with leftEnd := last, rightEnd := part.rightEnd - (part.leftEnd - last) }
    if part.leftStart = part.leftEnd then
      { marks with
        right := (List.range' part.rightStart (part.rightEnd - part.rightStart)).foldl
          (fun row place => row.set! place true) marks.right }
    else if part.rightStart = part.rightEnd then
      { marks with
        left := (List.range' part.leftStart (part.leftEnd - part.leftStart)).foldl
          (fun row place => row.set! place true) marks.left }
    else
      let (x, y) := middle left right part
      mark left right fuel { part with leftStart := x, rightStart := y }
        (mark left right fuel { part with leftEnd := x, rightEnd := y } marks)

/-- Which places are marked; none outside the row is. -/
def isMarked (row : Array Bool) (place : Int) : Bool :=
  0 ≤ place && row[place.toNat]?.getD false

/-- The first place from one on, upwards, that is not marked. -/
def passMarked (row : Array Bool) : (fuel : Nat) → Int → Int
  | 0, place => place
  | fuel + 1, place => if isMarked row place then passMarked row fuel (place + 1) else place

/-- The first place from one on, downwards, that is not marked. -/
def passMarkedBack (row : Array Bool) : (fuel : Nat) → Int → Int
  | 0, place => place
  | fuel + 1, place => if isMarked row place then passMarkedBack row fuel (place - 1) else place

/-- A stretch of marked lines in one row, and the place in the other row that corresponds to its
end. -/
structure Stretch where
  /-- The marks of the row. -/
  row : Array Bool
  /-- Where the stretch begins. -/
  start : Int
  /-- Where it ends. -/
  stop : Int
  /-- The place in the other row. -/
  across : Int

namespace Stretch

/-- The stretch one line earlier. -/
def back (other : Array Bool) (stretch : Stretch) : Stretch :=
  let row := (stretch.row.set! (stretch.start - 1).toNat true).set! (stretch.stop - 1).toNat false
  { row, start := stretch.start - 1, stop := stretch.stop - 1
    across := passMarkedBack other (other.size + 1) (stretch.across - 1) }

/-- The stretch moved back as far as the lines allow, together with those that it meets. -/
def moveBack (lines : Array Line) (other : Array Bool) : (fuel : Nat) → Stretch → Stretch
  | 0, stretch => stretch
  | fuel + 1, stretch =>
    if 0 < stretch.start && same lines lines (stretch.start - 1) (stretch.stop - 1) then
      let moved := stretch.back other
      let start := passMarkedBack moved.row (lines.size + 1) (moved.start - 1) + 1
      moveBack lines other fuel { moved with start }
    else stretch

/-- The stretch moved forward as far as the lines allow, together with those that it meets, and the
last end of it that corresponds to a stretch in the other row. -/
def moveForward (lines : Array Line) (other : Array Bool) : (fuel : Nat) → Stretch →
    (corresponding : Int) → Stretch × Int
  | 0, stretch, corresponding => (stretch, corresponding)
  | fuel + 1, stretch, corresponding =>
    if stretch.stop < lines.size && same lines lines stretch.start stretch.stop then
      let row := (stretch.row.set! stretch.start.toNat false).set! stretch.stop.toNat true
      let stop := passMarked row (lines.size + 1) (stretch.stop + 1)
      let across := passMarked other (other.size + 1) (stretch.across + 1)
      let corresponding := if stretch.across + 1 < across then stop else corresponding
      moveForward lines other fuel ⟨row, stretch.start + 1, stop, across⟩ corresponding
    else (stretch, corresponding)

/-- The stretch after it has met all that it can. -/
def merged (lines : Array Line) (other : Array Bool) : (fuel : Nat) → Stretch → Stretch × Int
  | 0, stretch => (stretch, lines.size)
  | fuel + 1, stretch =>
    let length := stretch.stop - stretch.start
    let earlier := stretch.moveBack lines other (lines.size + 1)
    let corresponding : Int :=
      if isMarked other (earlier.across - 1) then earlier.stop else lines.size
    let (later, corresponding) := earlier.moveForward lines other (lines.size + 1) corresponding
    if later.stop - later.start = length then (later, corresponding)
    else later.merged lines other fuel

/-- The stretch moved back to one in the other row. -/
def align (other : Array Bool) (corresponding : Int) : (fuel : Nat) → Stretch → Stretch
  | 0, stretch => stretch
  | fuel + 1, stretch =>
    if corresponding < stretch.stop then (stretch.back other).align other corresponding fuel
    else stretch

end Stretch

/-- The first marked place from one on, and the place in the other row that corresponds to it. -/
def nextMarked (row other : Array Bool) : (fuel : Nat) → (place across : Int) → Int × Int
  | 0, place, across => (place, across)
  | fuel + 1, place, across =>
    if place < row.size && !isMarked row place then
      nextMarked row other fuel (place + 1) (passMarked other (other.size + 1) across + 1)
    else (place, across)

/-- Moves the stretches of marked lines of one row, from a place on. -/
def shiftFrom (lines : Array Line) (other : Array Bool) : (fuel : Nat) → (place across : Int) →
    Array Bool → Array Bool
  | 0, _, _, row => row
  | fuel + 1, place, across, row =>
    let (start, across) := nextMarked row other (row.size + 1) place across
    if row.size ≤ start then row
    else
      let stop := passMarked row (row.size + 1) start
      let across := passMarked other (other.size + 1) across
      let (stretch, corresponding) := Stretch.merged lines other (lines.size + 1)
        ⟨row, start, stop, across⟩
      let moved := stretch.align other corresponding (lines.size + 1)
      shiftFrom lines other fuel moved.stop moved.across moved.row

/-- A change: some lines of the first row stand against some of the second one. -/
structure Change where
  /-- Where the lines of the first row begin. -/
  leftStart : Nat
  /-- How many they are. -/
  leftCount : Nat
  /-- Where the lines of the second row begin. -/
  rightStart : Nat
  /-- How many they are. -/
  rightCount : Nat
deriving DecidableEq, Repr

/-- The changes that marks stand for, from two places on. -/
def changesFrom (marks : Marks) : (fuel : Nat) → (x y : Nat) → List Change
  | 0, _, _ => []
  | fuel + 1, x, y =>
    if marks.left.size ≤ x && marks.right.size ≤ y then []
    else
      let leftEnd := (passMarked marks.left (marks.left.size + 1) x).toNat
      let rightEnd := (passMarked marks.right (marks.right.size + 1) y).toNat
      if x < leftEnd || y < rightEnd then
        ⟨x, leftEnd - x, y, rightEnd - y⟩ :: changesFrom marks fuel leftEnd rightEnd
      else changesFrom marks fuel (x + 1) (y + 1)

/-- How often each line stands in a row. -/
def occurrences (lines : Array Line) : Std.HashMap Line Nat :=
  lines.foldl (fun counts line => counts.insert line (counts.getD line 0 + 1)) {}

/-- The marks of two rows: a line that the other row does not have is marked at once, and the others
are compared. -/
def marksOf (left right : Array Line) : Marks :=
  let keep (own other : Array Line) : Array Nat :=
    let counts := occurrences other
    (Array.range own.size).filter fun place => own[place]?.any fun line => counts.contains line
  let leftKept := keep left right
  let rightKept := keep right left
  let pick (lines : Array Line) (places : Array Nat) : Array Line :=
    places.filterMap fun place => lines[place]?
  let small := mark (pick left leftKept) (pick right rightKept) (left.size + right.size + 2)
    ⟨0, leftKept.size, 0, rightKept.size⟩
    ⟨Array.replicate leftKept.size false, Array.replicate rightKept.size false⟩
  let spread (size : Nat) (kept : Array Nat) (marks : Array Bool) : Array Bool :=
    (kept.zip marks).foldl (fun row (place, isMarked) => row.set! place isMarked)
      (Array.replicate size true)
  let leftMarks := spread left.size leftKept small.left
  let rightMarks := spread right.size rightKept small.right
  let leftMarks := shiftFrom left rightMarks (left.size + 1) 0 0 leftMarks
  let rightMarks := shiftFrom right leftMarks (right.size + 1) 0 0 rightMarks
  ⟨leftMarks, rightMarks⟩

/-- How many lines two rows have in common at their front. -/
def commonFront (left right : List Line) : Nat :=
  ((left.zip right).takeWhile fun (first, second) => first == second).length

/-- The changes between two rows. The lines that both have at their ends are common, but for some
that may be needed around the changes. Lines are compared as they are at the ends, and by their keys
between them. -/
def changes {Key : Type} [BEq Key] [Hashable Key] (key : Line → Key) (horizon : Nat)
    (left right : List Line) : List Change :=
  let front := commonFront left right - horizon
  let leftRest := left.drop front
  let rightRest := right.drop front
  let back := commonFront leftRest.reverse rightRest.reverse - horizon
  let body (rest : List Line) : Array Key := ((rest.take (rest.length - back)).map key).toArray
  let marks := marksOf (body leftRest) (body rightRest)
  (changesFrom marks (marks.left.size + marks.right.size + 2) 0 0).map fun change =>
    { change with leftStart := change.leftStart + front, rightStart := change.rightStart + front }

end CopyOracle.Difference
