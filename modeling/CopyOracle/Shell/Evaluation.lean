import CopyOracle.Shell.Builtin.Table

/-!
# Running commands

A command is run by the shell itself, by shells of its own, or by a program in a process of its
own. A command in a process that ends with it needs no other process.
-/
namespace CopyOracle.Shell

open Host

namespace Execution

/-- Takes the output of a command in a shell of its own. -/
def captured (evaluate : Evaluator) : Capturing := fun body => do
  let (reading, writing) ← call .pipe
  let child ← startShell false false do
    let _ ← call (.close reading)
    if writing ≠ 1 then
      let _ ← call (.duplicate writing 1)
      let _ ← call (.close writing)
    runShell evaluate (evaluate { isLast := true } body)
  let _ ← call (.close writing)
  let text ← readAll reading
  let _ ← call (.close reading)
  let status ← awaitCommand [child]
  modify fun context => { context with substituted := status }
  let kept := text.filter (· ≠ Char.ofNat 0)
  return (kept.reverse.dropWhile (· = '\n')).reverse

/-- Runs a command in a shell of its own, unless the shell that runs it ends with it. -/
def subshell (evaluate : Evaluator) (flags : Flags) (isBackground : Bool) (line : Nat)
    (body : Command) (redirections : List Redirection) : Execution Nat := do
  atLine line
  let capture := captured evaluate
  let leads ← expandRedirections capture redirections
  let run (isTested : Bool) : Execution Nat := do
    redirect capture leads
    evaluate { isLast := true, isTested } body
  let hasTraps := (← get).traps.any fun (_, action) => !action.isEmpty
  if flags.isLast && !isBackground && !hasTraps then
    throw (.exit (← run flags.isTested))
  else
    let isTested := flags.isTested && !isBackground
    let child ← startShell isBackground true (runShell evaluate (run isTested))
    if isBackground then
      addJob [child]
      return 0
    else awaitCommand [child]

/-- Starts the stages of a pipeline, the first of which reads from a descriptor. -/
def startStages (evaluate : Evaluator) (flags : Flags) (isBackground : Bool) :
    (source : Option Nat) → (isFirst : Bool) → List Command → Execution (List Nat)
  | _, _, [] => return []
  | source, isFirst, stage :: rest => do
    let pipe ← if rest.isEmpty then pure none else some <$> call .pipe
    let child ← startShell isBackground isFirst do
      if let some (reading, _) := pipe then
        let _ ← call (.close reading)
      if let some reading := source then
        let _ ← call (.duplicate reading 0)
        let _ ← call (.close reading)
      if let some (_, writing) := pipe then
        if writing ≠ 1 then
          let _ ← call (.duplicate writing 1)
          let _ ← call (.close writing)
      runShell evaluate (evaluate { flags with isLast := true } stage)
    if let some reading := source then
      let _ ← call (.close reading)
    if let some (_, writing) := pipe then
      let _ ← call (.close writing)
    return child :: (← startStages evaluate flags isBackground (pipe.map Prod.fst) false rest)

/-- What a repetition does after its body or its condition left it. -/
inductive Turn where
  /-- It goes on. -/
  | next (status : Nat)
  /-- It ends. -/
  | over (status : Nat)

/-- Runs a part of a repetition. -/
def inLoop (body : Execution Nat) : Execution Turn := do
  match ← attempt body with
  | .ok status => return .next status
  | .error (.stop 0) => return .over 0
  | .error (.again 0) => return .next 0
  | .error (.stop (levels + 1)) => leaveLoop (.stop levels)
  | .error (.again (levels + 1)) => leaveLoop (.again levels)
  | .error leave => leaveLoop leave
where
  /-- Leaves the repetition for what is around it. -/
  leaveLoop (leave : Leave) : Execution Turn := do
    modify fun context => { context with loops := context.loops - 1 }
    throw leave

/-- Repeats a body as long as a condition holds, after a status. -/
def repeated (evaluate : Evaluator) (flags : Flags) (whileFails : Bool)
    (condition body : Command) : (fuel : Nat) → (status : Nat) → Execution Nat
  | 0, status => return status
  | fuel + 1, status => do
    match ← attempt (evaluate { isTested := true } condition) with
    | .ok found =>
      if (found = 0) = whileFails then return status
      else match ← inLoop (evaluate flags body) with
      | .next status => repeated evaluate flags whileFails condition body fuel status
      | .over status => return status
    | result =>
      match ← inLoop (settle result) with
      | .next _ => repeated evaluate flags whileFails condition body fuel status
      | .over _ => return status

/-- Runs a body for each of some values of a variable. -/
def forEach (evaluate : Evaluator) (flags : Flags) (name : ByteText) (body : Command) :
    List ByteText → (status : Nat) → Execution Nat
  | [], status => return status
  | value :: rest, _ => do
    assign name value
    match ← inLoop (evaluate flags body) with
    | .next status => forEach evaluate flags name body rest status
    | .over status => return status

/-- The first branch with a pattern that a text fits. -/
def chosen (capture : Capturing) (subject : ByteText) :
    List (List Word × Option Command) → Execution (Option Command)
  | [] => return none
  | (patterns, body) :: rest => do
    if ← fitsAny patterns then return body else chosen capture subject rest
where
  /-- Whether the text fits one of some patterns. -/
  fitsAny : List Word → Execution Bool
    | [] => return false
    | pattern :: rest => do
      if (← expandPattern capture pattern).fits subject then return true else fitsAny rest

/-- Words that are expanded one after the other: the fields so far, and the words left. -/
structure Expanding where
  /-- The fields. -/
  fields : List ByteText := []
  /-- The words left. -/
  words : List Word

/-- Expands words until there is one more field, if there is any. -/
def oneMore (capture : Capturing) (fields : List ByteText) : List Word → Execution Expanding
  | [] => return ⟨fields, []⟩
  | word :: rest => do
    let found ← expandFields capture word
    if found.isEmpty then oneMore capture fields rest else return ⟨fields ++ found, rest⟩

/-- What the name of a command stands for. -/
inductive Meaning where
  /-- A function. -/
  | function (body : Function)
  /-- A command of the shell. -/
  | builtin (name : ByteText) (run : Builtin)
  /-- A program. -/
  | program

/-- What the name of a command stands for; functions can be passed over. -/
def meaningOf (skipsFunctions : Bool) (name : ByteText) : Execution Meaning := do
  let functions := (← get).functions
  match if skipsFunctions then none else functions.lookup name with
  | some function => return .function function
  | none =>
    match builtin? name with
    | some run => return .builtin name run
    | none => return .program

/-- A simple command of which the first words are expanded. -/
structure Prepared where
  /-- Its fields, without the words that only say how it is looked for. -/
  fields : List ByteText
  /-- The words left. -/
  words : List Word
  /-- What its name stands for. -/
  meaning : Meaning
  /-- The first command of the shell that was named, if there was one. -/
  firstBuiltin : Option ByteText := none
  /-- The search path that it names. -/
  path : Option ByteText := none

/-- Passes the word that asks for a command rather than a function, with its options. Nothing is
passed where it has another use. -/
def passOptions (capture : Capturing) : (fuel : Nat) → (passed : List ByteText) →
    (path : Option ByteText) → Expanding →
    Execution (Option (List ByteText × Option ByteText × Expanding) × Expanding)
  | 0, _, _, state => return (none, state)
  | fuel + 1, passed, path, state => do
    let state ← if state.fields.isEmpty then oneMore capture [] state.words else pure state
    let whole : Expanding := { state with fields := passed ++ state.fields }
    match state.fields with
    | [] => return (none, whole)
    | ['-', '-'] :: rest =>
      let state ← if rest.isEmpty then oneMore capture [] state.words else
        pure { state with fields := rest }
      let passed := passed ++ ["--".toList]
      if state.fields.isEmpty then return (none, { state with fields := passed })
      else return (some (passed, path, state), { state with fields := passed ++ state.fields })
    | word@('-' :: _ :: _) :: rest =>
      if word.tail.all (· = 'p') then
        passOptions capture fuel (passed ++ [word]) (some standardPath)
          { state with fields := rest }
      else return (none, whole)
    | _ => return (some (passed, path, state), whole)

/-- Finds out what the name of a command stands for. The fields before those of the command itself
are collected for its trace. -/
def prepare (capture : Capturing) : (fuel : Nat) → (skipsFunctions : Bool) →
    (firstBuiltin path : Option ByteText) → (front : List ByteText) → Expanding →
    Execution (Prepared × List ByteText)
  | 0, _, firstBuiltin, path, front, state =>
    return (⟨state.fields, state.words, .program, firstBuiltin, path⟩, front)
  | fuel + 1, skipsFunctions, firstBuiltin, path, front, state => do
    let name := state.fields.headD []
    let meaning ← meaningOf skipsFunctions name
    let firstBuiltin := match firstBuiltin, meaning with
      | none, .builtin name _ => some name
      | known, _ => known
    let ready (state : Expanding) : Prepared × List ByteText :=
      (⟨state.fields, state.words, meaning, firstBuiltin, path⟩, front)
    match meaning with
    | .builtin _ _ =>
      if name = "command".toList then
        match ← passOptions capture Reading.limit [name] path
          { state with fields := state.fields.tail } with
        | (none, whole) => return ready whole
        | (some (passed, path, later), _) =>
          prepare capture fuel true firstBuiltin path (front ++ passed) later
      else return ready state
    | _ => return ready state

/-- What stands in front of a line of the trace: the text for it, expanded if that can be done. -/
def traceStart (capture : Capturing) : Execution ByteText := do
  let start := (← storedValue? "PS4".toList).getD []
  modify fun context => { context with isTracing := true }
  let expanded ← attempt do expandOne capture (← freeText start) .nowhere
  modify fun context => { context with isTracing := false }
  return expanded.toOption.getD start

/-- Writes the trace of a command, unless the command is run for a line of the trace. -/
def trace (capture : Capturing) (descriptor : Nat) (words : List ByteText) : Execution Unit := do
  unless (← get).isTracing do
    let start ← traceStart capture
    let _ ← write descriptor (start ++ [' '].intercalate words ++ ['\n'])

/-- Whether a command of the shell is special. -/
def isSpecial (name : Option ByteText) : Bool :=
  name.any fun name => specialNames.contains (String.ofList name)

/-- How deep functions can call one another. -/
def functionDepth : Nat := 1000

/-- Runs a function. -/
def callFunction (evaluate : Evaluator) (flags : Flags) (function : Function)
    (arguments : List ByteText) : Execution Nat := do
  let before ← get
  if functionDepth ≤ before.functionDepth then
    fail s!"Maximum function recursion depth ({functionDepth}) reached".toList
  modify fun context =>
    { context with
      arguments := arguments, loops := 0, functionDepth := context.functionDepth + 1
      functionLine := some function.line, optionIndex := 1, optionOffset := none }
  let result ← attempt (evaluate { isTested := flags.isTested } function.body)
  modify fun context =>
    { context with
      arguments := before.arguments, loops := before.loops
      functionDepth := before.functionDepth, functionLine := before.functionLine
      optionIndex := before.optionIndex, optionOffset := before.optionOffset }
  match result with
  | .error (.back _) => return (← get).status
  | result => settle result

/-- Runs a command of the shell. A fault in one that is not special only makes it fail. -/
def callBuiltin (evaluate : Evaluator) (flags : Flags) (isSpecial : Bool) (name : ByteText)
    (run : Builtin) (arguments : List ByteText) : Execution Nat := do
  let before ← ask Context.commandName
  modify fun context => { context with commandName := some name }
  let result ← attempt (run evaluate flags arguments)
  modify fun context => { context with commandName := before }
  match result with
  | .ok status =>
    modify fun context => { context with status := status }
    return status
  | .error (.fault status) =>
    modify fun context => { context with status := status }
    if isSpecial then throw (.fault status) else return status
  | .error leave => throw leave

/-- Runs a program in a process of its own, unless the shell ends with it. -/
def callProgram (flags : Flags) (path : Option ByteText) (fields : List ByteText) :
    Execution Nat := do
  let hasTraps := (← get).traps.any fun (_, action) => !action.isEmpty
  if flags.isLast && !hasTraps then becomeProgram path fields
  else
    forgetJobs
    let child ← fork fun context => (becomeProgram (α := Nat) path fields) context
      fun (result, _) => .ended (match result with
        | .ok status | .error (.exit status) | .error (.fault status) => status
        | .error _ => 0)
    awaitCommand [child]

/-- Makes the assignments in front of a command, and gives them as they are traced. -/
def makeAssignments (capture : Capturing) (isLocal isExported : Bool) :
    List Word → Execution (List ByteText)
  | [] => return []
  | word :: rest => do
    let text ← expandOne capture word .assignment
    if isLocal then makeLocal text true
    else
      let (name, value) := splitAssignment text
      assign name (value.getD [])
      if isExported then setVariable name { (← binding? name).getD {} with isExported := true }
    return text :: (← makeAssignments capture isLocal isExported rest)

/-- The fields of the words left of a command. -/
def laterFields (capture : Capturing) (takesAssignments : Bool) (words : List Word) :
    Execution (List ByteText) := do
  let fields ← words.mapM fun word => do
    if takesAssignments && isAssignment word then
      return [← expandOne capture word .assignment]
    else expandFields capture word
  return fields.flatten

/-- Runs a simple command. -/
def simple (evaluate : Evaluator) (flags : Flags) (line : Nat) (assignments words : List Word)
    (redirections : List Redirection) : Execution Nat := do
  let capture := captured evaluate
  atLine line
  modify fun context => { context with substituted := 0 }
  let start ← oneMore capture [] words
  let isEmpty := start.fields.isEmpty
  let (prepared, front) ← if isEmpty then
      pure (⟨[], [], .program, none, none⟩, [])
    else prepare capture Reading.limit false none none [] start
  let pseudo := match prepared.meaning with
    | .builtin name _ => takesAssignments name
    | _ => false
  let fields := prepared.fields ++ (← laterFields capture pseudo prepared.words)
  let isSpecialCommand := isSpecial prepared.firstBuiltin
  let isLocal := !isEmpty && !isSpecialCommand
  let isExec := match prepared.meaning with
    | .builtin name _ => name = "exec".toList
    | _ => false
  let standing ← get
  let frames := standing.saved.length
  let redirected := standing.redirected.length
  if isLocal then modify fun context => { context with saved := [] :: context.saved }
  let leads ← expandRedirections capture redirections
  let finish (status : Nat) : Execution Nat := do
    if isExec && redirected < (← get).redirected.length then restoreLast true
    restoreTo redirected
    restoreVariables frames
    return status
  let bail (status : Nat) : Execution Nat := do
    modify fun context => { context with status := status }
    if isSpecialCommand then throw (.fault status)
    finish status
  let result ← attempt do
    let failure ← if redirections.isEmpty then pure none else redirectForNow capture leads
    match failure with
    | some status => bail status
    | none =>
      let assigned ← makeAssignments capture isLocal (isExec && 1 < fields.length) assignments
      if ← hasOption 'x' then
        let descriptor ← if redirections.isEmpty then pure 2 else formerErrors
        trace capture descriptor (assigned ++ front ++ fields)
      if isEmpty then
        let status := (← get).substituted
        modify fun context => { context with status := status }
        finish status
      else match prepared.meaning with
      | .function function =>
        let status ← callFunction evaluate flags function fields.tail
        noteEnds Reading.limit
        finish status
      | .builtin name run =>
        let status ← callBuiltin evaluate flags isSpecialCommand name run fields.tail
        unless name = "kill".toList do noteEnds Reading.limit
        finish status
      | .program =>
        let name := fields.headD []
        let found ← if name.contains '/' then pure (.ok name)
          else findProgram prepared.path name
        match found with
        | .error error =>
          complain (name ++ ": ".toList ++ runningReason error)
          bail 127
        | .ok _ => finish (← callProgram flags prepared.path fields)
  match result with
  | .ok status => return status
  | .error (.exit status) => throw (.exit status)
  | .error (.fault status) => throw (.fault status)
  | .error leave =>
    let _ ← finish 0
    throw leave

/-- A command and whether a failure of it ends the shell where failures do. -/
abbrev Answered := Nat × Bool

/-- How deep commands can be run in one another before the memory for them is used up. -/
def commandDepth : Nat := 30000

/-- Runs a command of any kind, nested to a depth. -/
def run (evaluate : Evaluator) (flags : Flags) (command : Command) : Execution Answered := do
  let inner : Flags := { isTested := flags.isTested }
  let settled (isChecked : Bool) (status : Nat) : Execution Answered := do
    modify fun context => { context with status := status }
    return (status, isChecked)
  let capture := captured evaluate
  match command with
  | .simple line assignments words redirections =>
    settled true (← simple evaluate flags line assignments words redirections)
  | .redirected line body redirections =>
    atLine line
    let standing := (← get).redirected.length
    let leads ← expandRedirections capture redirections
    let result ← attempt do
      match ← redirectForNow capture leads with
      | some status => return status
      | none => evaluate inner body
    match result with
    | .error (.exit _) | .error (.fault _) => pure ()
    | _ => restoreTo standing
    settled false (← settle result)
  | .subshell line body redirections =>
    settled true (← subshell evaluate flags false line body redirections)
  | .background line body redirections =>
    settled true (← subshell evaluate flags true line body redirections)
  | .pipeline stages isBackground =>
    let children ← startStages evaluate flags isBackground none true stages
    if isBackground then
      addJob children
      settled true 0
    else settled true (← awaitCommand children)
  | .negated body =>
    let status ← evaluate { isTested := true } body
    settled false (if status = 0 then 1 else 0)
  | .both first second =>
    let status ← evaluate { isTested := true } first
    if status = 0 then settled false (← evaluate flags second) else return (status, false)
  | .either first second =>
    let status ← evaluate { isTested := true } first
    if status = 0 then return (status, false) else settled false (← evaluate flags second)
  | .sequence first second =>
    let _ ← evaluate inner first
    settled false (← evaluate flags second)
  | .branch condition body otherwise =>
    let status ← evaluate { isTested := true } condition
    if status = 0 then settled false (← evaluate flags body)
    else match otherwise with
    | some other => settled false (← evaluate flags other)
    | none => settled false 0
  | .repeated whileFails condition body =>
    modify fun context => { context with loops := context.loops + 1 }
    let status ← repeated evaluate inner whileFails condition body Reading.limit 0
    modify fun context => { context with loops := context.loops - 1 }
    settled false status
  | .each line name words body =>
    atLine line
    let values := (← words.mapM (expandFields capture)).flatten
    modify fun context => { context with loops := context.loops + 1 }
    let status ← forEach evaluate inner name body values 0
    modify fun context => { context with loops := context.loops - 1 }
    settled false status
  | .choose line word branches =>
    atLine line
    let subject ← expandOne capture word
    match ← chosen capture subject branches with
    | some body => settled false (← evaluate flags body)
    | none => settled false 0
  | .define line name body =>
    modify fun context =>
      { context with
        functions := (name, ⟨line, body⟩) ::
          context.functions.filter fun (other, _) => other ≠ name }
    settled false 0

/-- Runs a command, with what is to be done on signals before and after it. -/
def evaluate : (depth : Nat) → Evaluator
  | 0, _, _ => do
    let _ ← call (.signal (← call .identity).1 11)
    quit 139
  | depth + 1, flags, command => do
    let inner : Evaluator := fun flags command => evaluate depth flags command
    call .work
    if ← hasOption 'n' then return (← get).status
    dealWithSignals inner
    let (status, isChecked) ← run inner flags command
    dealWithSignals inner
    if isChecked && !flags.isTested && status ≠ 0 && (← hasOption 'e') then
      throw (.exit (← get).status)
    return (← get).status

/-- Runs commands. -/
def evaluator : Evaluator := evaluate commandDepth

end Execution

end CopyOracle.Shell
