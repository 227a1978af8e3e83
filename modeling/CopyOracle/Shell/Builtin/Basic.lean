import CopyOracle.Shell.Running

/-!
# Commands of the shell

A command of the shell is run by the shell itself. It reads its options and prints its results. A
command that cannot do what it is asked complains under its own name.
-/
namespace CopyOracle.Shell

/-- A command of the shell, given how commands are run, the flags under which it is run itself,
and its arguments. -/
abbrev Builtin := Evaluator → Flags → List ByteText → Execution Nat

/-- A text in single quotes. -/
def singleQuoted (text : ByteText) : ByteText :=
  '\'' :: (text.flatMap fun c => if c = '\'' then "'\"'\"'".toList else [c]) ++ ['\'']

namespace Execution

/-- Prints a text. -/
def print (text : ByteText) : Execution Nat := do
  match ← write 1 text with
  | .ok _ => return 0
  | .error _ =>
    let name := (← get).commandName.getD []
    complain (name ++ ": I/O error".toList)
    return 1

/-- Prints a text and a line end. -/
def printLine (text : ByteText) : Execution Nat := print (text ++ ['\n'])

/-- The natural number that an argument stands for. -/
def number (argument : ByteText) : Execution Nat := do
  match Numeral.value? argument with
  | some value =>
    if value < 2147483648 then return value
    else fail ("Illegal number: ".toList ++ argument)
  | none => fail ("Illegal number: ".toList ++ argument)

/-- Whether an option takes an argument, or is accepted at all. -/
def accepts? (accepted : ByteText) (letter : Char) : Option Bool :=
  match accepted.dropWhile (· ≠ letter) with
  | _ :: ':' :: _ => some true
  | _ :: _ => some false
  | [] => none

/-- The options among arguments, each with its own argument, and the arguments left. -/
def optionsOf (accepted : String) : (fuel : Nat) → List ByteText →
    Execution (List (Char × ByteText) × List ByteText)
  | 0, arguments => return ([], arguments)
  | fuel + 1, arguments => do
    match arguments with
    | ['-', '-'] :: rest => return ([], rest)
    | ('-' :: c :: letters) :: rest =>
      let again (letters : ByteText) (rest : List ByteText) : List ByteText :=
        if letters.isEmpty then rest else ('-' :: letters) :: rest
      match if c = ':' then none else accepts? accepted.toList c with
      | none => fail ("Illegal option -".toList ++ [c])
      | some false =>
        let next := again letters rest
        if letters = ['-'] then fail "Illegal option --".toList
        let (options, operands) ← optionsOf accepted fuel next
        return ((c, []) :: options, operands)
      | some true =>
        match letters, rest with
        | [], [] => fail ("No arg for -".toList ++ c :: " option".toList)
        | [], argument :: rest =>
          let (options, operands) ← optionsOf accepted fuel rest
          return ((c, argument) :: options, operands)
        | argument, rest =>
          let (options, operands) ← optionsOf accepted fuel rest
          return ((c, argument) :: options, operands)
    | _ => return ([], arguments)

/-- The options among arguments, and the arguments left. -/
def options (accepted : String) (arguments : List ByteText) :
    Execution (List (Char × ByteText) × List ByteText) :=
  optionsOf accepted (arguments.flatten.length + arguments.length + 1) arguments

/-- The arguments after options, of which none is accepted. -/
def operands (arguments : List ByteText) : Execution (List ByteText) :=
  Prod.snd <$> options "" arguments

/-- Refuses a text that is no name. -/
def demandName (name : ByteText) : Execution Unit := do
  unless isName name do fail (name ++ ": bad variable name".toList)

/-- Gives a variable of some name a value. -/
def assignNamed (name value : ByteText) : Execution Unit := do
  demandName name
  assign name value

/-- Removes a variable. -/
def removeVariable (name : ByteText) : Execution Unit := do
  demandName name
  match ← binding? name with
  | none => return ()
  | some entry =>
    if entry.isReadOnly then fail (name ++ ": is read only".toList)
    modify fun context =>
      { context with bindings := context.bindings.filter fun (other, _) => other ≠ name }
    if name = "PATH".toList then modify fun context => { context with tracked := [] }

/-- The variables that have some property, each as a line after a word. -/
def listing (word : ByteText) (isListed : Variable → Bool) : Execution ByteText := do
  let listed := (← get).bindings.filter fun (_, entry) => isListed entry
  let sorted := listed.mergeSort fun left right => ByteText.atMost left.1 right.1
  return sorted.flatMap fun (name, entry) =>
    word ++ (if word.isEmpty then [] else [' ']) ++ name ++
      (match entry.value with
        | some value => '=' :: singleQuoted value
        | none => []) ++ ['\n']

end Execution

end CopyOracle.Shell
