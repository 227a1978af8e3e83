/-!
# Durations

A duration is a number of nanoseconds, at most that of the largest 64-bit number of seconds with
a full fraction. Sums stop at the largest duration; a mean is rounded down to a nanosecond.
-/
namespace CopyOracle

/-- A span of time in nanoseconds. -/
structure Duration where
  /-- The whole span in nanoseconds. -/
  nanoseconds : Nat
deriving DecidableEq, Repr

namespace Duration

/-- The nanoseconds of a second. -/
def perSecond : Nat := 1000000000

/-- The nanoseconds of a millisecond. -/
def perMillisecond : Nat := 1000000

/-- No time. -/
def zero : Duration := ⟨0⟩

/-- The largest duration. -/
def largest : Duration := ⟨(UInt64.size - 1) * perSecond + (perSecond - 1)⟩

/-- A whole number of seconds and the nanoseconds beyond them. -/
def ofParts (seconds nanoseconds : Nat) : Duration := ⟨seconds * perSecond + nanoseconds⟩

/-- A whole number of milliseconds. -/
def ofMilliseconds (milliseconds : Nat) : Duration := ⟨milliseconds * perMillisecond⟩

/-- The whole seconds. -/
def seconds (time : Duration) : Nat := time.nanoseconds / perSecond

/-- The nanoseconds beyond the whole seconds. -/
def subsecond (time : Duration) : Nat := time.nanoseconds % perSecond

/-- The sum of two durations, at most the largest. -/
def add (left right : Duration) : Duration :=
  ⟨min (left.nanoseconds + right.nanoseconds) largest.nanoseconds⟩

/-- The duration over a number of equal parts, rounded down; there is none over no part. -/
def divide? (time : Duration) (parts : Nat) : Option Duration :=
  if parts = 0 then none else some ⟨time.nanoseconds / parts⟩

/-- The duration in milliseconds as a double: the seconds and their fraction are rounded, added
and scaled, each with one rounding. -/
def toMilliseconds (time : Duration) : Float :=
  (time.seconds.toUInt64.toFloat + time.subsecond.toUInt64.toFloat / 1000000000.0) * 1000.0

end Duration

end CopyOracle
