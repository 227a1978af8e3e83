import CopyOracle.Shell.Builtin.Control

/-!
# Commands on processes

Jobs in the background are listed and waited for, and signals are sent to processes.
-/
namespace CopyOracle.Shell

open Host

namespace Execution

/-- The job that a word with a percent sign names. -/
def jobOf (word : ByteText) : Execution Job := do
  let jobs := (← get).jobs
  let refuse : Execution Job := fail ("No such job: ".toList ++ word)
  match word with
  | ['%'] | ['%', '%'] | ['%', '+'] =>
    match jobs with
    | job :: _ => return job
    | [] => fail "No current job".toList
  | ['%', '-'] =>
    match jobs with
    | _ :: job :: _ => return job
    | _ => fail "No previous job".toList
  | '%' :: digits =>
    match (Numeral.value? digits).bind fun number => jobs.find? fun job => job.number = number with
    | some job => return job
    | none => refuse
  | _ => refuse

/-- What is said of a job. -/
def jobState (job : Job) : ByteText :=
  if job.isDone then
    match job.ending with
    | some (.exited 0) | none => "Done".toList
    | some (.exited status) => s!"Done({status})".toList
    | some (.killed signal) => (Signal.notice signal).toList
  else "Running".toList

/-- The line about a job at a place in the list of all. -/
def jobLine (showsNumber : Bool) (job : Job) (index : Nat) : ByteText :=
  let mark := if index = 0 then '+' else if index = 1 then '-' else ' '
  let start := '[' :: Numeral.digits job.number ++ "] ".toList ++ [mark, ' ']
  let number := if showsNumber then
      Numeral.digits ((job.processes.head?.map Prod.fst).getD 0) ++ [' ']
    else []
  let text := start ++ number ++ jobState job
  let stages := (List.replicate (job.processes.length - 1) " | ".toList).flatten
  text ++ List.replicate (max 1 (33 - text.length)) ' ' ++ stages ++ ['\n']

/-- Lists the jobs in the background. -/
def jobs : Builtin := fun _ _ arguments => do
  let (options, operands) ← options "lp" arguments
  noteEnds Reading.limit
  let all := (← get).jobs
  let chosen ← if operands.isEmpty then pure all else operands.mapM jobOf
  let hasOption (letter : Char) : Bool := options.any fun (other, _) => other = letter
  let lines := chosen.map fun job =>
    if hasOption 'p' then Numeral.digits ((job.processes.head?.map Prod.fst).getD 0) ++ ['\n']
    else jobLine (hasOption 'l') job (all.findIdx fun other => other.number = job.number)
  unless hasOption 'p' do
    modify fun context =>
      { context with
        jobs := context.jobs.filter fun job =>
          !(job.isDone && chosen.any fun other => other.number = job.number) }
  print lines.flatten

/-- Refuses to put a job in front or in the background, which only a shell with a terminal can. -/
def moveJob : Builtin := fun _ _ arguments => do
  let words ← operands arguments
  let _ ← jobOf (words.headD ['%', '+'])
  fail ("job ".toList ++ words.headD "(null)".toList ++ " not created under job control".toList)

/-- Notes that a job was waited for. -/
def settleJob (number : Nat) : Execution Unit :=
  modify fun context =>
    { context with
      jobs := context.jobs.map fun job =>
        if job.number = number then { job with isSettled := true } else job }

/-- The job of a number. -/
def jobNumbered? (context : Context) (number : Nat) : Option Job :=
  context.jobs.find? fun job => job.number = number

/-- Waits for a job and gives its status. -/
def waitForJob (number : Nat) : Execution (Except Nat Nat) := do
  let isDone (context : Context) : Bool := (jobNumbered? context number).all Job.isDone
  let isAnnounced (process : Nat) (context : Context) : Bool :=
    (jobNumbered? context number).any fun job =>
      job.processes.any fun (other, _) => other = process
  match ← awaitJob isDone isAnnounced Reading.limit with
  | some signal => return .error signal
  | none =>
    settleJob number
    let ending := (jobNumbered? (← get) number).bind Job.ending
    return .ok ((ending.map statusOf).getD 127)

/-- Waits for jobs in the background: for those that are named, or for all. -/
def wait : Builtin := fun _ _ arguments => do
  let words ← operands arguments
  match words with
  | [] =>
    let isDone (context : Context) : Bool := context.jobs.all Job.isDone
    match ← awaitJob isDone (fun _ _ => false) Reading.limit with
    | some signal => return 128 + signal
    | none =>
      modify fun context =>
        { context with jobs := context.jobs.map fun job => { job with isSettled := true } }
      return 0
  | _ => each 127 words
where
  /-- Waits for each job that is named. -/
  each (status : Nat) : List ByteText → Execution Nat
    | [] => return status
    | word :: rest => do
      let job? ← if word.head? = some '%' then some <$> jobOf word else do
        let process ← number word
        pure ((← get).jobs.find? fun job =>
          (job.processes.getLast?.map Prod.fst) = some process)
      match job? with
      | none => each status rest
      | some job =>
        match ← waitForJob job.number with
        | .error signal => return 128 + signal
        | .ok status => each status rest

/-- How signals are sent. -/
def killUsage : ByteText :=
  ("Usage: kill [-s sigspec | -signum | -sigspec] [pid | job]... or\n" ++
    "kill -l [exitstatus]").toList

/-- Sends a signal to processes. -/
def sendTo (signal : Nat) : (status : Nat) → List ByteText → Execution Nat
  | status, [] => return status
  | status, word :: rest => do
    let target : Int ← match word with
      | '%' :: _ => do
        let job ← jobOf word
        pure (-(((job.processes.head?.map Prod.fst).getD 0 : Nat) : Int))
      | '-' :: digits => do pure (-((← number digits) : Int))
      | _ => do pure ((← number word) : Int)
    match ← call (.signal target signal) with
    | .ok _ => sendTo signal status rest
    | .error error =>
      complain (error.reason.toList ++ ['\n'])
      sendTo signal 1 rest

/-- Lists the signals, or names one. -/
def listSignals : List ByteText → Execution Nat
  | [] =>
    print ("0\n".toList ++ ((List.range Signal.largest).flatMap fun signal =>
      signalName (signal + 1) ++ ['\n']))
  | word :: _ => do
    let value ← number word
    let signal := if 128 < value then value - 128 else value
    if 0 < signal && signal ≤ Signal.largest then printLine (signalName signal)
    else fail ("invalid signal number or exit status: ".toList ++ word)

/-- Sends signals to processes, or lists them. -/
def kill : Builtin := fun _ _ arguments => do
  match arguments with
  | [] => fail killUsage
  | first :: rest =>
    let signal? := match first with
      | '-' :: word => signalOf? false word
      | _ => none
    match signal? with
    | some signal => if rest.isEmpty then fail killUsage else sendTo signal 0 rest
    | none =>
      let (options, operands) ← options "ls:" arguments
      let isList := options.any fun (letter, _) => letter = 'l'
      let named := options.filter fun (letter, _) => letter = 's'
      let signals ← named.mapM fun (_, word) => do
        match signalOf? false word with
        | some signal => pure signal
        | none => fail ("invalid signal number or name: ".toList ++ word)
      if isList then
        if signals.isEmpty then listSignals operands else fail killUsage
      else if operands.isEmpty then fail killUsage
      else sendTo (signals.getLast?.getD Signal.terminate) 0 operands

end Execution

end CopyOracle.Shell
