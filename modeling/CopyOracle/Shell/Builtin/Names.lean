import CopyOracle.Shell.Builtin.Basic
import CopyOracle.Shell.Search

/-!
# Commands on names

It is said what a name stands for: a word of the language, an alias, a function, a command of the
shell, or a program. Aliases are set and removed.
-/
namespace CopyOracle.Shell

open Host

namespace Execution

/-- The names of the commands of the shell that are special: a failure of theirs ends it. -/
def specialNames : List String :=
  [".", ":", "break", "continue", "eval", "exec", "exit", "export", "local", "readonly", "return",
    "set", "shift", "times", "trap", "unset"]

/-- The names of all commands of the shell. -/
def builtinNames : List String :=
  specialNames ++
    ["[", "alias", "bg", "cd", "chdir", "command", "echo", "false", "fg", "getopts", "hash", "jobs",
      "kill", "printf", "pwd", "read", "test", "true", "type", "ulimit", "umask", "unalias",
      "wait"]

/-- An alias as it is listed. -/
def aliasLine (entry : ByteText × ByteText) : ByteText :=
  entry.1 ++ '=' :: singleQuoted entry.2 ++ ['\n']

/-- What a name stands for, in words or by what stands for it alone; and whether it stands for
anything. -/
def describe (isLong : Bool) (path : Option ByteText) (name : ByteText) :
    Execution (ByteText × Bool) := do
  let context ← get
  let say (long : String) (short : ByteText) : Execution (ByteText × Bool) :=
    return (if isLong then name ++ long.toList ++ ['\n'] else short ++ ['\n'], true)
  if (Keyword.ofText? name).isSome then say " is a shell keyword" name
  else match context.aliases.lookup name with
  | some value =>
    if isLong then return (name ++ " is an alias for ".toList ++ value ++ ['\n'], true)
    else return ("alias ".toList ++ aliasLine (name, value), true)
  | none =>
    let missing : ByteText × Bool := (if isLong then name ++ ": not found\n".toList else [], false)
    let found (verb : String) (place : ByteText) : ByteText × Bool :=
      (if isLong then name ++ verb.toList ++ ' ' :: place ++ ['\n'] else place ++ ['\n'], true)
    if name.contains '/' then
      let files ← call .files
      match files.entry (ByteText.asString name) with
      | .ok _ => return found " is" name
      | .error _ => return missing
    else if (context.functions.lookup name).isSome then say " is a shell function" name
    else if builtinNames.contains (String.ofList name) then
      say (if specialNames.contains (String.ofList name) then " is a special shell builtin"
        else " is a shell builtin") name
    else
      let isTracked := path.isNone && (context.tracked.lookup name).isSome
      match ← findProgram path name with
      | .ok place =>
        return found (if isTracked then " is a tracked alias for" else " is") place
      | .error _ => return missing

/-- Says what names stand for. -/
def type : Builtin := fun _ _ arguments => do
  let answers ← (← operands arguments).mapM (describe true none)
  let status ← print (answers.flatMap Prod.fst)
  return if answers.all Prod.snd then status else 127

/-- Says what a name stands for, where it would otherwise be run. -/
def command : Builtin := fun _ _ arguments => do
  let (options, operands) ← options "pvV" arguments
  let path := if options.any fun (letter, _) => letter = 'p' then some standardPath else none
  let asked := (options.map Prod.fst).filter fun letter => letter ≠ 'p'
  match asked.getLast?, operands with
  | some letter, name :: _ =>
    let (answer, isFound) ← describe (letter = 'V') path name
    let status ← if answer.isEmpty then pure 0 else print answer
    return if isFound then status else 127
  | _, _ => return 0

/-- Lists the programs that were looked for, forgets them, or looks for more. -/
def hash : Builtin := fun _ _ arguments => do
  let (options, names) ← options "r" arguments
  if !options.isEmpty then
    modify fun context => { context with tracked := [] }
    return 0
  else if names.isEmpty then
    let tracked := (← get).tracked
    print ((inRows 31 tracked).flatMap fun (_, path) => path ++ ['\n'])
  else
    let statuses ← names.mapM fun name => do
      modify fun context =>
        { context with tracked := context.tracked.filter fun (other, _) => other ≠ name }
      if builtinNames.contains (String.ofList name) || name.contains '/' ||
        ((← get).functions.lookup name).isSome then pure 0
      else match ← findProgram none name with
      | .ok _ => pure 0
      | .error error =>
        complain (name ++ ": ".toList ++ runningReason error)
        pure 1
    return statuses.foldl max 0

/-- Sets aliases, or lists them. -/
def «alias» : Builtin := fun _ _ arguments => do
  match arguments with
  | [] => print ((inRows 39 (← get).aliases).flatMap aliasLine)
  | _ =>
    let statuses ← arguments.mapM fun argument => do
      let name := argument.takeWhile (· ≠ '=')
      match argument.drop name.length with
      | _ :: value =>
        if name.isEmpty then unknown argument
        else
          modify fun context =>
            { context with
              aliases := context.aliases.filter (fun (other, _) => other ≠ name) ++
                [(name, value)] }
          pure 0
      | [] =>
        match (← get).aliases.lookup name with
        | some value => print (aliasLine (name, value))
        | none => unknown argument
    return statuses.foldl max 0
where
  /-- Complains about a name that is no alias. -/
  unknown (name : ByteText) : Execution Nat := do
    complainRaw ("alias: ".toList ++ name ++ " not found\n".toList)
    return 1

/-- Removes aliases. -/
def unalias : Builtin := fun _ _ arguments => do
  let (options, names) ← options "a" arguments
  if !options.isEmpty then
    modify fun context => { context with aliases := [] }
    return 0
  else
    let statuses ← names.mapM fun name => do
      let known := ((← get).aliases.lookup name).isSome
      modify fun context =>
        { context with aliases := context.aliases.filter fun (other, _) => other ≠ name }
      if known then pure 0
      else
        complainRaw ("unalias: ".toList ++ name ++ " not found\n".toList)
        pure 1
    return statuses.foldl max 0

end Execution

end CopyOracle.Shell
