import CopyOracle.File.Tree
import CopyOracle.Host.Signal
import CopyOracle.Text.Bytes

/-!
# What a process does

A process asks the system for one thing after another and goes on with the answer. Its behaviour
is the tree of all that it may ask for: what comes next is a function of the answer. A program is
written in direct style, as a computation that asks and returns; running it to its end makes a
behaviour.
-/
namespace CopyOracle.Host

/-- How a file is opened. -/
structure OpenMode where
  /-- Whether it can be read. -/
  reads : Bool := false
  /-- Whether it can be written. -/
  writes : Bool := false
  /-- Whether it is made if it is not there. -/
  creates : Bool := false
  /-- Whether it is emptied. -/
  truncates : Bool := false
  /-- Whether all is written at its end. -/
  appends : Bool := false
  /-- Whether it must not be there. -/
  isExclusive : Bool := false
deriving DecidableEq, Repr

namespace OpenMode

/-- A file to be read. -/
def read : OpenMode := { reads := true }

/-- A file to be written anew. -/
def write : OpenMode := { writes := true, creates := true, truncates := true }

/-- A file to be written at its end. -/
def append : OpenMode := { writes := true, creates := true, appends := true }

/-- A file to be read and written. -/
def update : OpenMode := { reads := true, writes := true, creates := true }

end OpenMode

/-- How a process ended. -/
inductive Ending where
  /-- By itself, with a status. -/
  | exited (status : Nat)
  /-- By a signal. -/
  | killed (signal : Nat)
deriving DecidableEq, Repr

/-- What became of the children of a process. -/
inductive Awaited where
  /-- One of them ended. -/
  | ended (number : Nat) (ending : Ending)
  /-- All of them still run. -/
  | running
  /-- There is none. -/
  | childless
  /-- A signal came first. -/
  | interrupted
deriving DecidableEq, Repr

/-- What kind of thing a descriptor leads to. -/
inductive StreamKind where
  /-- A file. -/
  | file
  /-- A directory. -/
  | directory
  /-- A pipe. -/
  | pipe
  /-- A device. -/
  | device
deriving DecidableEq, Repr

/-- What a process asks the system for. -/
inductive Call where
  /-- A descriptor for the file at a path, the lowest one that is free. -/
  | openFile (path : ByteText) (mode : OpenMode)
  /-- That a descriptor leads nowhere any more. -/
  | close (descriptor : Nat)
  /-- At most so many bytes from a descriptor; none at its end. -/
  | read (descriptor count : Nat)
  /-- That the last bytes read are read again, where that is possible. -/
  | giveBack (descriptor count : Nat)
  /-- That bytes are written. -/
  | write (descriptor : Nat) (text : ByteText)
  /-- That a descriptor leads where another does. -/
  | duplicate (source target : Nat)
  /-- A copy of a descriptor at or above a number, which other programs do not inherit. -/
  | keep (source least : Nat)
  /-- A pipe: a descriptor to read from it, and one to write to it. -/
  | pipe
  /-- What a descriptor leads to. -/
  | inspect (descriptor : Nat)
  /-- The files, with the working directory of the process. -/
  | files
  /-- A change of the files. -/
  | change (edit : FileTree → Except FileError FileTree)
  /-- Another working directory. -/
  | enter (place : Place)
  /-- That the process becomes another program, with arguments and variables. -/
  | execute (path : ByteText) (arguments environment : List ByteText)
  /-- The end of a child, or of any; or only whether one has ended. -/
  | await (child : Option Nat) (blocks isInterruptible : Bool)
  /-- That some nanoseconds pass. -/
  | sleep (nanoseconds : Nat)
  /-- The nanoseconds since the start. -/
  | clock
  /-- That a signal is sent to a process: to the one of a number, to all of the group of the process
  at zero, and to all of another group at its negated number. -/
  | signal (target : Int) (number : Nat)
  /-- A group of its own for the process. -/
  | lead
  /-- The signal of an alarm after some nanoseconds, or none at zero. -/
  | alarm (nanoseconds : Nat)
  /-- Another disposition towards a signal. -/
  | dispose (number : Nat) (disposition : Disposition)
  /-- The disposition towards a signal. -/
  | disposition (number : Nat)
  /-- The signals caught since the last time. -/
  | caught
  /-- The numbers of the process and of its parent. -/
  | identity
  /-- A little time, spent on work. -/
  | work

/-- What the system answers. -/
abbrev Call.Answer : Call → Type
  | .openFile _ _ => Except FileError Nat
  | .close _ => Except FileError Unit
  | .read _ _ => Except FileError ByteText
  | .giveBack _ _ => Unit
  | .write _ _ => Except FileError Unit
  | .duplicate _ _ => Except FileError Unit
  | .keep _ _ => Except FileError Nat
  | .pipe => Nat × Nat
  | .inspect _ => Option StreamKind
  | .files => FileTree
  | .change _ => Except FileError Unit
  | .enter _ => Unit
  | .execute _ _ _ => FileError
  | .await _ _ _ => Awaited
  | .sleep _ => Unit
  | .clock => Nat
  | .signal _ _ => Except FileError Unit
  | .lead => Unit
  | .alarm _ => Unit
  | .dispose _ _ => Unit
  | .disposition _ => Disposition
  | .caught => List Nat
  | .identity => Nat × Nat
  | .work => Unit

/-- What a process does from some point on. -/
inductive Behaviour where
  /-- It ends with a status. -/
  | ended (status : Nat)
  /-- It asks and goes on with the answer. -/
  | call (asked : Call) (next : asked.Answer → Behaviour)
  /-- It starts a child, which does something else, and goes on with the number of the child. -/
  | fork (child : Unit → Behaviour) (next : Nat → Behaviour)

/-- A computation that may ask the system: given what is done with its result, what is done. -/
def Program (α : Type) : Type := (α → Behaviour) → Behaviour

namespace Program

@[always_inline]
instance : Monad Program where
  pure a := fun next => next a
  bind program rest := fun next => program fun a => rest a next

/-- The answer of the system. -/
@[inline] def ask (asked : Call) : Program asked.Answer := fun next => .call asked next

/-- Starts a child and gives its number. -/
@[inline] def fork (child : Unit → Behaviour) : Program Nat := fun next => .fork child next

/-- Ends the process. -/
@[inline] def exit {α : Type} (status : Nat) : Program α := fun _ => .ended status

/-- What a process does that runs a program to its end. -/
@[inline] def behaviour (program : Program Nat) : Behaviour := program .ended

end Program

/-- What a program is given when it starts. -/
structure Invocation where
  /-- Its name and its arguments. -/
  arguments : List ByteText
  /-- The variables of its surroundings, each with its value. -/
  environment : List ByteText

/-- A program as a whole. -/
abbrev Main := Invocation → Behaviour

end CopyOracle.Host
