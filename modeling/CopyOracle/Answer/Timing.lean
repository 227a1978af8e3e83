import CopyOracle.Duration
import CopyOracle.Number.Numeral

/-!
# The time that a solver reports

A solver may print its own time in milliseconds after the label `TIME_MS:`. The first line with
a word after its label decides. The fraction may have any number of digits, of which the first
six are kept, so the time is exact to the nanosecond and rounded down.
-/
namespace CopyOracle.Timing

/-- The label of the time. -/
def label : Text := "TIME_MS:".toList

/-- The first word after the first label on the first line that has one. -/
def token? (text : Text) : Option Text :=
  text.lines.findSome? fun line => (line.after? label).bind fun rest => rest.words.head?

/-- The nanoseconds of a decimal fraction of a millisecond, from its first six digits. -/
def fractionNanoseconds (fraction : Text) : Nat :=
  Nat.ofDigitChars 10 ((fraction ++ List.replicate 6 '0').take 6) 0

/-- The duration of a decimal number of milliseconds. -/
def ofToken? (token : Text) : Option Duration :=
  let (whole, fraction) := (token.cut? ['.']).getD (token, [])
  match Numeral.readSize? whole with
  | none => none
  | some milliseconds =>
    if fraction.all Char.isDigit then
      some ⟨milliseconds * Duration.perMillisecond + fractionNanoseconds fraction⟩
    else none

/-- The time that a text reports. -/
def reported? (text : Text) : Option Duration := (token? text).bind ofToken?

end CopyOracle.Timing
