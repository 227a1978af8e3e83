import CopyOracle.Random.Generator

/-!
# Draws

Numbers of a range, truth values of a given chance, shuffles and subsets, each drawn from the
words of the generator. A number of a range is the high half of the product of a word by the
size of the range; a word is refused while the low half lies in the part that would make some
numbers likelier than others. A chance is a threshold among the 64-bit words, so a draw is an
exact comparison. A subset is drawn in one of four ways, by its own size and that of its set.
-/
namespace CopyOracle

/-- How likely a truth value is to be true: it is true for the words below the threshold, and
for every word without a draw when the threshold is `2 ^ 64`. -/
structure Chance where
  /-- The number of words for which the value is true. -/
  threshold : Nat
  /-- There are no more words than that. -/
  bounded : threshold ≤ UInt64.size := by decide
deriving DecidableEq, Repr

namespace Chance

/-- The certain chance. -/
def always : Chance := ⟨UInt64.size, by decide⟩

/-- The chance of a probability from zero to one: the words below its multiple of `2 ^ 64`,
rounded down. -/
def ofProbability (probability : Float) : Chance :=
  if probability == 1.0 then always
  else
    let threshold := (probability * 18446744073709551616.0).toUInt64
    ⟨threshold.toNat, Nat.le_of_lt threshold.toNat_lt⟩

end Chance

namespace Draw

/-- The next word of the generator. -/
def word : Draw UInt64 := fun g => g.next

/-- A 64-bit number. -/
def bits64 : Draw Nat := do
  let drawn ← word
  pure drawn.toNat

/-- A 32-bit number, the high half of a word. -/
def bits32 : Draw Nat := do
  let drawn ← word
  pure (drawn >>> 32).toNat

/-- How many words are refused for one number before the next is taken as it stands. A word is
refused at most half the time, so a number is decided sooner but once in `2 ^ 128` draws. -/
def patience : Nat := 128

/-- The largest low half that is not refused for a range that is used once: one less than the
largest multiple of the range by a power of two that fits the width. -/
def zone (width range : Nat) : Nat := range * Nat.pow 2 (width - (range.log2 + 1)) - 1

/-- The largest low half that is not refused for a range that is used again and again: one less
than the largest multiple of the range that fits the width. -/
def fullZone (width range : Nat) : Nat := Nat.pow 2 width / range * range - 1

/-- A number below `range` from the words of a width, refusing so many of them at most, those with
a low half above the zone. -/
def below (width : Nat) (draw : Draw Nat) (zone range : Nat) : (refusals : Nat) → Draw Nat
  | 0 => do
    let drawn ← draw
    pure (drawn * range / Nat.pow 2 width)
  | refusals + 1 => do
    let drawn ← draw
    if drawn * range % Nat.pow 2 width ≤ zone then pure (drawn * range / Nat.pow 2 width)
    else below width draw zone range refusals

/-- A number from `low` to `high`; over the full range of the width a word is not scaled. -/
def between (width : Nat) (draw : Draw Nat) (low high : Nat) : Draw Nat := do
  let range := high + 1 - low
  let offsets :=
    if range = Nat.pow 2 width then draw else below width draw (zone width range) range patience
  let offset ← offsets
  pure (low + offset)

/-- A 64-bit number from `low` to `high`. -/
def size (low high : Nat) : Draw Nat := between 64 bits64 low high

/-- A 32-bit number from `low` to `high`. -/
def number (low high : Nat) : Draw Nat := between 32 bits32 low high

/-- A truth value of a chance. -/
def flip (chance : Chance) : Draw Bool :=
  if chance.threshold = UInt64.size then pure true
  else do
    let drawn ← word
    pure (drawn.toNat < chance.threshold)

/-- The 53 high bits of a word. -/
def bits53 : Draw UInt64 := do
  let drawn ← word
  pure (drawn >>> 11)

/-- A double from zero to below one, a multiple of `2 ^ -53`. -/
def unit : Draw Float := do
  let drawn ← bits53
  pure (drawn.toFloat * 1.1102230246251565e-16)

/-- A chance from zero to below one, a multiple of `2 ^ -53`. -/
def density : Draw Chance := do
  let drawn ← bits53
  let threshold := drawn <<< 11
  pure ⟨threshold.toNat, Nat.le_of_lt threshold.toNat_lt⟩

/-- So many results of one draw, in order. -/
def many {α : Type} (draw : Draw α) : (count : Nat) → Draw (List α)
  | 0 => pure []
  | count + 1 => do
    let first ← draw
    let rest ← many draw count
    pure (first :: rest)

/-- The members with the places from `index` down to the second exchanged, each with a place at
or below it. -/
def shuffleDown {α : Type} : (index : Nat) → Array α → Draw (Array α)
  | 0, members => pure members
  | index + 1, members => do
    let chosen ← number 0 (index + 1)
    shuffleDown index (members.swapIfInBounds (index + 1) chosen)

/-- A list in random order. The first place has no choice of its own. -/
def shuffle {α : Type} (members : List α) : Draw (List α) := do
  let shuffled ← shuffleDown (members.length - 1) members.toArray
  pure shuffled.toList

/-- So many members by exchanging each of the first places with one at or above it. -/
def exchange (length : Nat) : (count index : Nat) → Array Nat → Draw (Array Nat)
  | 0, _, members => pure members
  | count + 1, index, members => do
    let chosen ← number index (length - 1)
    exchange length count (index + 1) (members.swapIfInBounds index chosen)

/-- So many members by drawing one of those up to `top`, then up to `top + 1`, and so on; a
member drawn before gives way to the bound itself. -/
def collect : (count top : Nat) → List Nat → Draw (List Nat)
  | 0, _, taken => pure taken
  | count + 1, top, taken => do
    let chosen ← number 0 top
    collect count (top + 1) ((if chosen ∈ taken then top else chosen) :: taken)

/-- So many of the numbers below `length`, from the front of a table of all of them. -/
def front (length count : Nat) : Draw (List Nat) := do
  let members ← exchange length count 0 (Array.range length)
  pure (members.toList.take count)

/-- So many of the numbers below `length`, collected under growing bounds. Fifty or more are
shuffled afterwards, which costs draws. -/
def gather (length count : Nat) : Draw (List Nat) := do
  let members ← collect count (length - count) []
  if count < 50 then pure members else shuffle members.reverse

/-- A number below `length`, which is used again and again. -/
def uniform (width : Nat) (draw : Draw Nat) (length : Nat) : Draw Nat :=
  below width draw (fullZone width length) length patience

/-- A number below `length` that is not taken. Numbers that are taken are passed over, but only so
many of them; then the least number that is not taken is given. -/
def fresh (draw : Draw Nat) (length : Nat) (taken : List Nat) : (passes : Nat) → Draw Nat
  | 0 => pure (((List.range length).find? (· ∉ taken)).getD 0)
  | passes + 1 => do
    let chosen ← draw
    if chosen ∈ taken then fresh draw length taken passes else pure chosen

/-- So many more of the numbers below `length`, each drawn until it is one that is not taken. A
number is taken at most all but once in `length` draws, so one that is not taken is found sooner
than with the last pass but once in `exp patience` times. -/
def reject (draw : Draw Nat) (length : Nat) : (count : Nat) → List Nat → Draw (List Nat)
  | 0, taken => pure taken
  | count + 1, taken => do
    let chosen ← fresh draw length taken (patience * length)
    reject draw length count (chosen :: taken)

/-- Whether a table of all numbers is worth its length: it is where that is small against the
square of the number of members, or against the number itself where there are many. The comparison
is one of numbers of single precision. -/
def prefersTable (length count : Nat) : Bool :=
  let short := length < 500000
  let table := (UInt32.ofNat length).toFloat32
  let drawn := (UInt32.ofNat count).toFloat32
  if count < 163 then
    let slope : Float32 := if short then 1.6 else 8.0 / 45.0
    let start : Float32 := if short then 10.0 else 70.0 / 9.0
    11 < count && table < (start + slope * drawn) * drawn
  else
    let slope : Float32 := if short then 270.0 else 330.0 / 9.0
    table < slope * drawn

/-- So many of the numbers below `length`, in any order. They are taken from a table where one is
worth its length, few are collected under growing bounds, and many are drawn until they are
different. The numbers have 32 bits where they can. -/
def sample (length count : Nat) : Draw (List Nat) :=
  if UInt32.size ≤ length then reject (uniform 64 bits64 length) length count []
  else if prefersTable length count then front length count
  else if count < 163 then gather length count
  else reject (uniform 32 bits32 length) length count []

/-- So many of the numbers below `length`, ascending. -/
def subset (length count : Nat) : Draw (List Nat) := do
  let members ← sample length count
  pure members.mergeSort

end Draw

end CopyOracle
