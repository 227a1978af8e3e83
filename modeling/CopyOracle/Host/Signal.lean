/-!
# Signals

A signal is a number with a name. A process that does not say otherwise is ended by most signals,
stopped by a few, and not touched by the others.
-/
namespace CopyOracle.Host

/-- What a process does on a signal. -/
inductive Disposition where
  /-- What is usual for the signal. -/
  | usual
  /-- Nothing. -/
  | ignored
  /-- It takes note of the signal and goes on. -/
  | caught
deriving DecidableEq, Repr

namespace Signal

/-- The signals with a meaning: number, name, and what is said of a process that one has ended. One
goes by its number. -/
def table : List (Nat × String × String) :=
  [(1, "HUP", "Hangup"), (2, "INT", "Interrupt"), (3, "QUIT", "Quit"),
    (4, "ILL", "Illegal instruction"), (5, "TRAP", "Trace/breakpoint trap"),
    (6, "ABRT", "Aborted"), (7, "BUS", "Bus error"), (8, "FPE", "Floating point exception"),
    (9, "KILL", "Killed"), (10, "USR1", "User defined signal 1"),
    (11, "SEGV", "Segmentation fault"), (12, "USR2", "User defined signal 2"),
    (13, "PIPE", "Broken pipe"), (14, "ALRM", "Alarm clock"), (15, "TERM", "Terminated"),
    (16, "16", "Stack fault"), (17, "CHLD", "Child exited"), (18, "CONT", "Continued"),
    (19, "STOP", "Stopped (signal)"), (20, "TSTP", "Stopped"), (21, "TTIN", "Stopped (tty input)"),
    (22, "TTOU", "Stopped (tty output)"), (23, "URG", "Urgent I/O condition"),
    (24, "XCPU", "CPU time limit exceeded"), (25, "XFSZ", "File size limit exceeded"),
    (26, "VTALRM", "Virtual timer expired"), (27, "PROF", "Profiling timer expired"),
    (28, "WINCH", "Window changed"), (29, "IO", "I/O possible"), (30, "PWR", "Power failure"),
    (31, "SYS", "Bad system call")]

/-- The largest number of a signal. -/
def largest : Nat := 64

/-- The first of the signals that have no meaning of their own. -/
def firstFree : Nat := 34

/-- The names of the signals that have no meaning of their own: the first half counts up from their
first and the others count down from their last. -/
def freeNames : List (Nat × String) :=
  (List.range (largest + 1 - firstFree)).map fun place =>
    let left := largest - firstFree - place
    let name :=
      if place ≤ left then if place = 0 then "RTMIN" else s!"RTMIN+{place}"
      else if left = 0 then "RTMAX" else s!"RTMAX-{left}"
    (firstFree + place, name)

/-- The names of the signals. -/
def names : List (Nat × String) :=
  (table.map fun (number, name, _) => (number, name)) ++ freeNames

/-- The name of a signal. -/
def name? (number : Nat) : Option String := names.lookup number

/-- What is said of a process that a signal has ended. -/
def notice (number : Nat) : String :=
  match table.lookup number with
  | some (_, notice) => notice
  | none =>
    if firstFree ≤ number && number ≤ largest then s!"Real-time signal {number - firstFree}"
    else s!"Unknown signal {number}"

/-- The number of a signal of some name. -/
def ofName? (name : String) : Option Nat :=
  (names.find? fun (_, other) => other = name).map Prod.fst

/-- The end by force. -/
def kill : Nat := 9

/-- A write that nobody reads. -/
def pipe : Nat := 13

/-- The signal of an alarm. -/
def alarm : Nat := 14

/-- The request to end. -/
def terminate : Nat := 15

/-- The end of a child. -/
def child : Nat := 17

/-- The order to go on. -/
def continue_ : Nat := 18

/-- The order to stop. -/
def stop : Nat := 19

/-- Whether a signal does what it does whatever a process says. -/
def isForced (number : Nat) : Bool := number = kill || number = stop

/-- Whether a signal usually leaves a process as it is. -/
def isHarmless (number : Nat) : Bool := number ∈ [17, 18, 23, 28]

/-- Whether a signal usually stops a process. -/
def isStopping (number : Nat) : Bool := number ∈ [19, 20, 21, 22]

end Signal

end CopyOracle.Host
