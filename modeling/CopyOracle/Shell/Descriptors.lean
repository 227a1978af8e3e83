import CopyOracle.Shell.Expansion

/-!
# Redirections

A redirection leads a descriptor to a file, to where another descriptor leads, or to a text in the
script. Where it led before is kept in a copy, from which it is restored after the command.
-/
namespace CopyOracle.Shell

open Host

/-- Where a descriptor is led, after its words were expanded. -/
inductive Lead where
  /-- To a file. -/
  | file (access : Access) (path : ByteText)
  /-- Where another descriptor leads, or nowhere. -/
  | same (source : Option Nat)
  /-- To a text in the script. -/
  | here (number : Nat)

namespace Execution

/-- The descriptor that a word names, or none for a dash. -/
def sourceOf (word : ByteText) : Execution (Option Nat) := do
  match word with
  | ['-'] => return none
  | [c] => if c.isDigit then return some (c.toNat - '0'.toNat) else refuse
  | _ => refuse
where
  /-- Refuses the word. -/
  refuse : Execution (Option Nat) := fail "Syntax error: Bad fd number".toList

/-- Expands the words of redirections. -/
def expandRedirections (capture : Capturing) (redirections : List Redirection) :
    Execution (List (Nat × Lead)) :=
  redirections.mapM fun redirection => do
    match redirection with
    | .lead descriptor (.file access path) =>
      return (descriptor, .file access (← expandOne capture path))
    | .lead descriptor (.same word) =>
      let fields ← expandFields capture word
      return (descriptor, .same (← sourceOf (fields.headD [])))
    | .lead descriptor (.here number) => return (descriptor, .here number)

/-- What is wrong with a file that cannot be opened, where something else is said of one that is
missing. -/
def openingReason (missing : String) (error : FileError) : ByteText :=
  (match error with
    | .notFound | .notDirectory => missing
    | other => other.reason).toList

/-- Opens the file of a redirection. -/
def openAccess (access : Access) (path : ByteText) : Execution Nat := do
  let isWary := access = .write && (← hasOption 'C')
  let mode : OpenMode := match access with
    | .read => .read
    | .update => .update
    | .append => .append
    | .write | .replace => if isWary then { OpenMode.write with truncates := false } else .write
  let isReplaced ← if isWary then
      let files ← call .files
      pure (match files.standing? (ByteText.asString path) with
        | some (.file _ _) => true
        | _ => false)
    else pure false
  let result ← if isReplaced then pure (.error FileError.exists) else call (.openFile path mode)
  match result with
  | .ok descriptor => return descriptor
  | .error error =>
    let isOpened := access = .read
    let verb := if isOpened then "cannot open " else "cannot create "
    let missing := if isOpened then "No such file" else "Directory nonexistent"
    fail (verb.toList ++ path ++ ": ".toList ++ openingReason missing error)

/-- How many bytes of a text in the script are written at once. -/
def textAtOnce : Nat := 4096

/-- Opens a text in the script. -/
def openText (capture : Capturing) (number : Nat) : Execution Nat := do
  let word := ((← get).texts.lookup number).getD []
  let text ← expandOne capture word .nowhere
  let (reading, writing) ← call .pipe
  if text.length ≤ textAtOnce then
    let _ ← write writing text
  else
    let _ ← fork fun _ =>
      .call (.close reading) fun _ => .call (.write writing text) fun _ => .ended 0
  let _ ← call (.close writing)
  return reading

/-- Copies a descriptor out of the way and closes it. -/
def keepFormer (descriptor : Nat) : Execution Former := do
  match ← call (.keep descriptor 10) with
  | .ok copy =>
    let _ ← call (.close descriptor)
    return .copied copy
  | .error _ => return .nowhere

/-- Notes where a descriptor led before, unless that was noted already. -/
def noteFormer (descriptor : Nat) (opened : Option Nat) : Execution Unit := do
  match (← get).redirected with
  | [] => return ()
  | noted :: rest =>
    if (noted.lookup descriptor).isNone then
      let former ← if opened = some descriptor then pure .nowhere else keepFormer descriptor
      modify fun context =>
        { context with redirected := ((descriptor, former) :: noted) :: rest }

/-- Leads a descriptor to what a redirection names. -/
def redirectOne (capture : Capturing) (isKept : Bool) (descriptor : Nat) (lead : Lead) :
    Execution Unit := do
  match lead with
  | .same (some source) =>
    if source ≠ descriptor then
      if isKept then noteFormer descriptor none
      match ← call (.duplicate source descriptor) with
      | .ok _ => return ()
      | .error error =>
        fail (Numeral.digits source ++ ": ".toList ++ error.reason.toList)
  | .same none =>
    if isKept then noteFormer descriptor none
    let _ ← call (.close descriptor)
  | .file access path => move (← openAccess access path)
  | .here number => move (← openText capture number)
where
  /-- Moves what was opened to the descriptor. -/
  move (opened : Nat) : Execution Unit := do
    if isKept then noteFormer descriptor (some opened)
    if opened ≠ descriptor then
      let _ ← call (.duplicate opened descriptor)
      let _ ← call (.close opened)

/-- Redirects descriptors for good. -/
def redirect (capture : Capturing) (leads : List (Nat × Lead)) : Execution Unit :=
  leads.forM fun (descriptor, lead) => redirectOne capture false descriptor lead

/-- Redirects descriptors until they are restored. A failure is complained about and gives a
status. -/
def redirectForNow (capture : Capturing) (leads : List (Nat × Lead)) :
    Execution (Option Nat) := do
  modify fun context => { context with redirected := [] :: context.redirected }
  match ← attempt (leads.forM fun (descriptor, lead) =>
    redirectOne capture true descriptor lead) with
  | .ok _ => return none
  | .error (.fault status) => return some status
  | .error leave => throw leave

/-- Restores the descriptors that were redirected last, or forgets where they led. -/
def restoreLast (isForgotten : Bool) : Execution Unit := do
  match (← get).redirected with
  | [] => return ()
  | noted :: rest =>
    modify fun context => { context with redirected := rest }
    for (descriptor, former) in noted do
      match former with
      | .nowhere => unless isForgotten do
          let _ ← call (.close descriptor)
      | .copied copy =>
        unless isForgotten do
          let _ ← call (.duplicate copy descriptor)
        let _ ← call (.close copy)

/-- Restores descriptors until only some of the redirections hold. -/
def restoreTo (count : Nat) : Execution Unit := do
  let surplus := (← get).redirected.length - count
  for _ in List.range surplus do restoreLast false

/-- The descriptor to which standard errors went before the last redirection. -/
def formerErrors : Execution Nat := do
  match (← get).redirected with
  | noted :: _ =>
    match noted.lookup 2 with
    | some (.copied copy) => return copy
    | _ => return 2
  | [] => return 2

/-- The name under which the options are kept among the variables that are local to a function. -/
def optionsName : ByteText := ['-']

/-- Restores the variables that are local to the functions that ended, until only some of them
run. -/
def restoreVariables (count : Nat) : Execution Unit :=
  modify fun context =>
    let surplus := context.saved.length - count
    let ended := (context.saved.take surplus).flatten
    let bindings := ended.foldl (fun bindings (name, before) =>
      match before with
      | some entry => bind name entry bindings
      | none => bindings.filter fun (other, _) => other ≠ name) context.bindings
    let options := ended.foldl (fun options (name, before) =>
      if name = optionsName then (before.bind Variable.value).getD options else options)
      context.options
    { context with
      saved := context.saved.drop surplus, options := options
      bindings := bindings.filter fun (name, _) => name ≠ optionsName }

end Execution

end CopyOracle.Shell
