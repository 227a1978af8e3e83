import CopyOracle.Shell.Builtin.Basic
import CopyOracle.Shell.Condition
import CopyOracle.Shell.Printing

/-!
# Commands that print and compare

Words are printed as they are or by a format, and conditions are answered by a status.
-/
namespace CopyOracle.Shell

open Host

namespace Execution

/-- Prints words. -/
def echo : Builtin := fun _ _ arguments => print (Printing.echo arguments)

/-- Prints arguments by a format. -/
def printf : Builtin := fun _ _ arguments => do
  match ← operands arguments with
  | [] => fail "usage: printf format [arg ...]".toList
  | format :: arguments =>
    let printed := Printing.format format arguments
    for complaint in printed.complaints.reverse do complain complaint
    let status ← if printed.output.isEmpty then pure 0 else print printed.output
    if printed.isFailed then throw (.fault 2)
    return if printed.complaints.isEmpty then status else 1

/-- Answers a condition. -/
def condition (words : List ByteText) : Execution Nat := do
  match Condition.evaluate { files := ← call .files } (words.length + 1) words with
  | .ok answer => return if answer then 0 else 1
  | .error wording => fail wording

/-- Answers a condition. -/
def test : Builtin := fun _ _ arguments => condition arguments

/-- Answers a condition in brackets. -/
def bracket : Builtin := fun _ _ arguments => do
  if arguments.getLast? = some [']'] then condition arguments.dropLast
  else fail "missing ]".toList

end Execution

end CopyOracle.Shell
