/-!
# The random generator

The generator is xoshiro256++ on four 64-bit words. A seed is spread over the eight halves of
the state by a linear congruential sequence whose outputs are permuted, so equal seeds give
equal sequences and every draw is a pure function of the state.
-/
namespace CopyOracle

/-- The state of the generator. -/
structure Generator where
  /-- First word. -/
  a : UInt64
  /-- Second word. -/
  b : UInt64
  /-- Third word. -/
  c : UInt64
  /-- Fourth word. -/
  d : UInt64
deriving DecidableEq, Repr

/-- A draw is a function of the state of the generator. -/
abbrev Draw (α : Type) := StateM Generator α

namespace Generator

/-- A 64-bit word rotated left. -/
def rotateLeft (word amount : UInt64) : UInt64 :=
  (word <<< amount) ||| (word >>> (64 - amount))

/-- A 32-bit word rotated right. -/
def rotateRight (word amount : UInt32) : UInt32 :=
  (word >>> amount) ||| (word <<< ((32 - amount) % 32))

/-- The congruential sequence that spreads a seed. -/
def spread (state : UInt64) : UInt64 := state * 6364136223846793005 + 11634580027462260723

/-- The 32 bits given out at a state of the sequence. -/
def output (state : UInt64) : UInt32 :=
  rotateRight (((state >>> 18) ^^^ state) >>> 27).toUInt32 (state >>> 59).toUInt32

/-- The next word of the state, from two outputs, the low half first, and the sequence after it. -/
def seedWord (state : UInt64) : UInt64 × UInt64 :=
  let first := spread state
  let second := spread first
  ((output first).toUInt64 ||| ((output second).toUInt64 <<< 32), second)

/-- The generator of a seed. -/
def ofSeed (seed : UInt64) : Generator :=
  let (a, state) := seedWord seed
  let (b, state) := seedWord state
  let (c, state) := seedWord state
  let (d, _) := seedWord state
  ⟨a, b, c, d⟩

/-- The next 64-bit word and the state after it. -/
def next (g : Generator) : UInt64 × Generator :=
  let result := rotateLeft (g.a + g.d) 23 + g.a
  let t := g.b <<< 17
  let c := g.c ^^^ g.a
  let d := g.d ^^^ g.b
  let b := g.b ^^^ c
  let a := g.a ^^^ d
  (result, ⟨a, b, c ^^^ t, rotateLeft d 45⟩)

end Generator

end CopyOracle
