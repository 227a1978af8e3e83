import CopyOracle.Shell.Evaluation

/-!
# The shell as a program

A shell is a program that runs a script: one of its arguments, the content of a file, or its
input. The variables of its surroundings are variables of the script.
-/
namespace CopyOracle.Shell

open Host

namespace Execution

/-- Takes over the variables of the surroundings, as far as they have names. -/
def takeVariables (environment : List ByteText) : Execution Unit :=
  environment.forM fun entry => do
    let (name, value) := splitAssignment entry
    if isName name && name ≠ "IFS".toList && name ≠ "OPTIND".toList then
      match value with
      | some value => setVariable name { value := some value, isExported := true }
      | none => return ()

/-- Gives a variable a value, unless it has one already. -/
def assignByDefault (name : String) (value : ByteText) : Execution Unit := do
  if (← storedValue? name.toList).isNone then setVariable name.toList { value := some value }

/-- Prepares the variables of a shell. -/
def prepareVariables (environment : List ByteText) : Execution Unit := do
  let (number, parent) ← call .identity
  modify fun context => { context with number := number }
  takeVariables environment
  setVariable "IFS".toList { value := some defaultSeparators }
  setVariable "OPTIND".toList { value := some ['1'] }
  assignByDefault "PATH" standardPath
  assignByDefault "PS1" "# ".toList
  assignByDefault "PS2" "> ".toList
  assignByDefault "PS4" "+ ".toList
  setVariable "PPID".toList { value := some (Numeral.digits parent) }
  let files ← call .files
  let actual := '/' :: ['/'].intercalate (files.workingDirectory.map ByteText.ofString)
  let given := (← storedValue? "PWD".toList).getD []
  let isValid := given.head? = some '/' &&
    (files.locate (ByteText.asString given)).toOption = some files.workingDirectory
  let directory := if isValid then given else actual
  setVariable "PWD".toList { value := some directory, isExported := true }
  modify fun context => { context with directory := directory }

/-- Runs the script that the arguments of a shell name. -/
def runArguments (arguments : List ByteText) : Execution Nat := do
  let after ← setOptions true (arguments.length + 1) arguments
  let start (operands : List ByteText) : Execution Unit :=
    modify fun context => { context with arguments := operands }
  let named (name : ByteText) (operands : List ByteText) : Execution Unit := do
    modify fun context => { context with title := name }
    start operands
  match after.isScript, after.rest with
  | true, [] => fail "-c requires an argument".toList
  | true, script :: rest =>
    match rest with
    | name :: operands => named name operands
    | [] => start []
    runText evaluator {} script
  | false, rest =>
    if rest.isEmpty || (← hasOption 's') then
      putOption 's' true
      start rest
      runText evaluator {} (← readAll 0) .file
    else
      let path := rest.headD []
      let text ← scriptIn path
      named path rest.tail
      runText evaluator {} text .file

end Execution

/-- The shell as a program. -/
def main : Main := fun invocation =>
  let body : Execution Nat := do
    Execution.prepareVariables invocation.environment
    Execution.runShell Execution.evaluator (Execution.runArguments invocation.arguments.tail)
  body { title := invocation.arguments.headD [] } fun (result, _) =>
    .ended (match result with
      | .ok status | .error (.exit status) | .error (.fault status) => status
      | .error _ => 0)

end CopyOracle.Shell
