import CopyOracle.Shell.Builtin.Basic

/-!
# Options of the shell

An option has a letter or only a name. Options are set and reset when a shell starts and by the
script itself.
-/
namespace CopyOracle.Shell

namespace Execution

/-- The options by their names; one without a letter of its own has a letter that nothing else
uses. -/
def optionTable : List (String × Char) :=
  [("errexit", 'e'), ("noglob", 'f'), ("ignoreeof", 'I'), ("interactive", 'i'), ("monitor", 'm'),
    ("noexec", 'n'), ("stdin", 's'), ("xtrace", 'x'), ("verbose", 'v'), ("vi", 'V'),
    ("emacs", 'E'), ("noclobber", 'C'), ("allexport", 'a'), ("notify", 'b'), ("nounset", 'u'),
    ("privileged", 'p'), ("nolog", '1'), ("debug", '2')]

/-- Sets or resets an option. -/
def putOption (letter : Char) (isSet : Bool) : Execution Unit :=
  modify fun context =>
    let others := context.options.filter (· ≠ letter)
    { context with options := if isSet then letter :: others else others }

/-- Sets or resets the option of a letter. -/
def setLetter (letter : Char) (isSet : Bool) : Execution Unit := do
  if optionTable.any fun (_, other) => other = letter && !other.isDigit then
    if letter = 'm' && isSet then
      complain "can't access tty; job control turned off".toList
    else putOption letter isSet
  else fail ("Illegal option -".toList ++ [letter])

/-- The options as a table, or as commands that set them again. -/
def optionListing (isTable : Bool) : Execution ByteText := do
  let options := (← get).options
  let lines := optionTable.flatMap fun (name, letter) =>
    let isSet := options.contains letter
    if isTable then
      name.toList ++ List.replicate (16 - name.length) ' ' ++
        (if isSet then "on" else "off").toList ++ ['\n']
    else "set ".toList ++ (if isSet then '-' else '+') :: 'o' :: ' ' :: name.toList ++ ['\n']
  return (if isTable then "Current option settings\n".toList else []) ++ lines

/-- Sets or resets the option of a name. -/
def setNamed (name : ByteText) (isSet : Bool) : Execution Unit := do
  match optionTable.lookup (String.ofList name) with
  | some letter =>
    if letter.isDigit then putOption letter isSet else setLetter letter isSet
  | none => fail ("Illegal option -o ".toList ++ name)

/-- Sets and resets the options of some letters, with the arguments after them; a shell that
starts takes a script in place of a file. -/
def setLetters (isStart isSet : Bool) : ByteText → List ByteText → Execution (Bool × List ByteText)
  | [], rest => return (false, rest)
  | letter :: letters, rest => do
    if letter = 'c' && isStart then
      let (_, rest) ← setLetters isStart isSet letters rest
      return (true, rest)
    else if letter = 'l' && isStart then setLetters isStart isSet letters rest
    else if letter = 'o' then
      match rest with
      | [] =>
        let _ ← print (← optionListing isSet)
        setLetters isStart isSet letters []
      | name :: rest =>
        setNamed name isSet
        setLetters isStart isSet letters rest
    else
      setLetter letter isSet
      setLetters isStart isSet letters rest

/-- The arguments after options, whether they replace those of the script, and whether one of them
holds a script. -/
structure AfterOptions where
  /-- The arguments. -/
  rest : List ByteText
  /-- Whether there are to be no others. -/
  isWhole : Bool := false
  /-- Whether the first one is a script. -/
  isScript : Bool := false

/-- Sets the options in front of arguments. -/
def setOptions (isStart : Bool) : (fuel : Nat) → List ByteText → Execution AfterOptions
  | 0, arguments => return { rest := arguments }
  | fuel + 1, arguments => do
    match arguments with
    | ['-'] :: rest =>
      unless isStart do
        putOption 'x' false
        putOption 'v' false
      return { rest }
    | ['-', '-'] :: rest => return { rest, isWhole := true }
    | (sign :: letters) :: rest =>
      if sign = '-' || sign = '+' then
        let (isScript, rest) ← setLetters isStart (sign = '-') letters rest
        let after ← setOptions isStart fuel rest
        return { after with isScript := isScript || after.isScript }
      else return { rest := arguments }
    | _ => return { rest := arguments }

/-- Sets options and arguments, or lists all variables. -/
def set : Builtin := fun _ _ arguments => do
  match arguments with
  | [] => print (← listing [] fun entry => entry.value.isSome)
  | _ =>
    let after ← setOptions false (arguments.length + 1) arguments
    if after.isWhole || !after.rest.isEmpty then
      modify fun context =>
        { context with arguments := after.rest, optionIndex := 1, optionOffset := none }
    return 0

end Execution

end CopyOracle.Shell
