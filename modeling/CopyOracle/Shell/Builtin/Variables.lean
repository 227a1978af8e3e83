import CopyOracle.Shell.Builtin.Basic

/-!
# Commands on variables

Variables are exported, made unchangeable, local to a function, removed, and read from the input;
the arguments of a script are shifted and their options are read one by one.
-/
namespace CopyOracle.Shell

open Host

namespace Execution

/-- A word taken apart at its first equals sign. -/
def splitAssignment (word : ByteText) : ByteText × Option ByteText :=
  let name := word.takeWhile (· ≠ '=')
  match word.drop name.length with
  | _ :: value => (name, some value)
  | [] => (name, none)

/-- Marks variables, and gives those a value that are named with one. -/
def markVariables (word : String) (isMarked : Variable → Bool) (mark : Variable → Variable) :
    Builtin := fun _ _ arguments => do
  let (options, names) ← options "p" arguments
  if !options.isEmpty || names.isEmpty then
    print (← listing word.toList isMarked)
  else
    for argument in names do
      let (name, value) := splitAssignment argument
      match value with
      | some value => assignNamed name value
      | none => demandName name
      let entry := (← binding? name).getD {}
      setVariable name (mark entry)
    return 0

/-- Exports variables. -/
def «export» : Builtin :=
  markVariables "export" Variable.isExported fun entry => { entry with isExported := true }

/-- Makes variables unchangeable. -/
def readonly : Builtin :=
  markVariables "readonly" Variable.isReadOnly fun entry => { entry with isReadOnly := true }

/-- Notes what is to be restored of a variable at the end of a function. -/
def noteVariable (name : ByteText) : Execution Unit := do
  let before ← binding? name
  modify fun context =>
    { context with
      saved := match context.saved with
        | frame :: rest => ((name, before) :: frame) :: rest
        | [] => [] }

/-- Makes a variable local to the function that runs; it keeps its value if it is given none. -/
def makeLocal (argument : ByteText) (isExported : Bool) : Execution Unit := do
  if argument = optionsName then
    let letters := (← get).options
    modify fun context =>
      { context with
        saved := match context.saved with
          | frame :: rest => ((optionsName, some { value := some letters }) :: frame) :: rest
          | [] => [] }
  else
    let (name, value) := splitAssignment argument
    demandName name
    noteVariable name
    match value with
    | some value =>
      assign name value
      if isExported then
        setVariable name { (← binding? name).getD {} with isExported := true }
    | none =>
      if (← binding? name).isNone then setVariable name {}

/-- Makes variables local to the function that runs. -/
def «local» : Builtin := fun _ _ arguments => do
  if (← get).saved.isEmpty then fail "not in a function".toList
  for argument in ← operands arguments do makeLocal argument false
  return 0

/-- Removes variables or functions. -/
def unset : Builtin := fun _ _ arguments => do
  let (options, names) ← options "vf" arguments
  let removesFunctions := (options.getLast?.map Prod.fst) = some 'f'
  for name in names do
    if removesFunctions then
      modify fun context =>
        { context with functions := context.functions.filter fun (other, _) => other ≠ name }
    else removeVariable name
  return 0

/-- Drops arguments from the front. -/
def shift : Builtin := fun _ _ arguments => do
  let count ← match arguments with
    | [] => pure 1
    | argument :: _ => number argument
  let all ← ask Context.arguments
  if all.length < count then fail "can't shift that many".toList
  modify fun context =>
    { context with arguments := all.drop count, optionIndex := 1, optionOffset := none }
  return 0

/-- A line of input: its characters, each with whether it was protected, and whether a line end
was found. -/
def inputLine (isRaw : Bool) : (fuel : Nat) → (isProtected : Bool) → List (Char × Bool) →
    Execution (List (Char × Bool) × Bool)
  | 0, _, found => return (found.reverse, false)
  | fuel + 1, isProtected, found => do
    match ← call (.read 0 1) with
    | .error .interrupted =>
      keepCaught
      return (found.reverse, false)
    | .error _ | .ok [] => return (found.reverse, false)
    | .ok (c :: _) =>
      if c = Char.ofNat 0 then inputLine isRaw fuel isProtected found
      else if isProtected then
        inputLine isRaw fuel false (if c = '\n' then found else (c, true) :: found)
      else if c = '\\' && !isRaw then inputLine isRaw fuel true found
      else if c = '\n' then return (found.reverse, true)
      else inputLine isRaw fuel false ((c, false) :: found)

/-- Whether a character is one of the blanks that separate by default. -/
def isBlank (c : Char) : Bool := defaultSeparators.contains c

/-- The last field of a line: without blanks at its end, and without the one separator that ends
it, if there is no more than that. -/
def lastField (separators : ByteText) (rest : List (Char × Bool)) : ByteText :=
  let isSeparator (c : Char × Bool) : Bool := !c.2 && separators.contains c.1
  let isGap (c : Char × Bool) : Bool := isSeparator c && isBlank c.1
  let trimmed := (rest.reverse.dropWhile isGap).reverse
  let ends := match trimmed.reverse with
    | last :: before =>
      if isSeparator last then
        let body := (before.dropWhile isGap).reverse
        if body.any isSeparator then none else some body
      else none
    | [] => none
  (ends.getD trimmed).map Prod.fst

/-- The fields of a line, of which the last one takes what is left. -/
def lineFields (separators : ByteText) : (count : Nat) → List (Char × Bool) → List ByteText
  | 0, _ => []
  | count + 1, rest =>
    let isSeparator (c : Char × Bool) : Bool := !c.2 && separators.contains c.1
    let isGap (c : Char × Bool) : Bool := isSeparator c && isBlank c.1
    let rest := rest.dropWhile isGap
    if count = 0 then [lastField separators rest]
    else
      let field := rest.takeWhile fun c => !isSeparator c
      let later := rest.drop field.length
      let afterGap := later.dropWhile isGap
      let next := match afterGap with
        | c :: more => if isSeparator c then more else afterGap
        | [] => []
      field.map Prod.fst :: lineFields separators count next

/-- Reads a line of input into variables. -/
def read : Builtin := fun _ _ arguments => do
  let (options, names) ← options "p:r" arguments
  if names.isEmpty then fail "arg count".toList
  let isRaw := options.any fun (letter, _) => letter = 'r'
  let (line, isWhole) ← inputLine isRaw Reading.limit false []
  for (name, value) in names.zip (lineFields (← separators) names.length line) do
    assignNamed name value
  return if isWhole then 0 else 1

/-- Which option stands next among arguments. -/
inductive NextOption where
  /-- None any more; so many arguments were passed. -/
  | over (index : Nat)
  /-- One, with the argument and the place in it at which the next one is looked for. -/
  | found (letter : Char) (argument : Option ByteText) (index : Nat) (offset : Option Nat)
  /-- One that is not accepted, or that lacks its argument. -/
  | bad (letter : Char) (lacksArgument : Bool) (index : Nat) (offset : Option Nat)

/-- The option after a place among arguments. -/
def nextOption (accepted : ByteText) (arguments : List ByteText) (index : Nat)
    (offset : Option Nat) : NextOption :=
  let current := offset.bind fun offset =>
    if index ≤ 1 then none
    else (arguments[index - 2]?).bind fun word =>
      if offset < word.length then some (offset, word) else none
  let start := match current with
    | some (offset, word) => some (offset, word, index)
    | none =>
      match arguments[index - 1]? with
      | some word =>
        if word.head? = some '-' && 1 < word.length then some (1, word, index + 1) else none
      | none => none
  match start with
  | none => .over index
  | some (offset, word, index) =>
    if current.isNone && word = ['-', '-'] then .over index
    else match word.drop offset with
    | [] => .over index
    | letter :: rest =>
      let later := if rest.isEmpty then none else some (offset + 1)
      match if letter = ':' then none else accepts? accepted letter with
      | none => .bad letter false index later
      | some false => .found letter none index later
      | some true =>
        if !rest.isEmpty then .found letter (some rest) index none
        else match arguments[index - 1]? with
        | some argument => .found letter (some argument) (index + 1) none
        | none => .bad letter true index none

/-- Reads the next option of the arguments into a variable. -/
def getopts : Builtin := fun _ _ arguments => do
  match arguments with
  | accepted :: name :: given =>
    let context ← get
    let list := if given.isEmpty then context.arguments else given
    let (index, offset) :=
      if list.length + 1 < context.optionIndex then (1, none)
      else (context.optionIndex, context.optionOffset)
    let isQuiet := accepted.head? = some ':'
    let argumentName := "OPTARG".toList
    let (letter, index, offset, status) ← match nextOption accepted list index offset with
      | .over index => pure ('?', index, none, 1)
      | .found letter argument index offset =>
        assign argumentName (argument.getD [])
        pure (letter, index, offset, 0)
      | .bad letter lacksArgument index offset =>
        if isQuiet then
          assign argumentName [letter]
          pure (if lacksArgument then ':' else '?', index, offset, 0)
        else
          complainRaw (if lacksArgument then "No arg for -".toList ++ letter :: " option\n".toList
            else "Illegal option -".toList ++ [letter, '\n'])
          removeVariable argumentName
          pure ('?', index, offset, 0)
    assign "OPTIND".toList (Numeral.digits index)
    assignNamed name [letter]
    modify fun context => { context with optionIndex := index, optionOffset := offset }
    return status
  | _ => fail "Usage: getopts optstring var [arg...]".toList

end Execution

end CopyOracle.Shell
