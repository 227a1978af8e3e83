/-!
# Refusals of the system

What an operating system says when it refuses an operation on files or descriptors, with the
number and the wording that it has for each refusal.
-/
namespace CopyOracle

/-- What an operating system says when it refuses an operation on files. -/
inductive FileError where
  /-- Nothing stands at the place. -/
  | notFound
  /-- A call was cut short by a signal. -/
  | interrupted
  /-- There is no such device. -/
  | noDevice
  /-- The file is no program that the system can run. -/
  | notProgram
  /-- No file is open under the number. -/
  | badDescriptor
  /-- The program may not be run. -/
  | permissionDenied
  /-- Something stands at the place already. -/
  | exists
  /-- A name on the way is that of a file. -/
  | notDirectory
  /-- A directory stands at the place of a file. -/
  | isDirectory
  /-- The operation does not suit its operands. -/
  | invalid
  /-- The device is full. -/
  | noSpace
  /-- Nobody reads what is written. -/
  | brokenPipe
  /-- A name or a path is too long. -/
  | nameTooLong
  /-- The directory holds something. -/
  | notEmpty
  /-- There is no such process. -/
  | noProcess
  /-- The bytes of a file are no text. -/
  | invalidText
  /-- A path holds the character that ends names. -/
  | zeroInPath
deriving DecidableEq, Repr

namespace FileError

/-- What is wrong, without its number. -/
def reason : FileError → String
  | .notFound => "No such file or directory"
  | .interrupted => "Interrupted system call"
  | .noDevice => "No such device or address"
  | .notProgram => "Exec format error"
  | .badDescriptor => "Bad file descriptor"
  | .permissionDenied => "Permission denied"
  | .exists => "File exists"
  | .notDirectory => "Not a directory"
  | .isDirectory => "Is a directory"
  | .invalid => "Invalid argument"
  | .noSpace => "No space left on device"
  | .brokenPipe => "Broken pipe"
  | .nameTooLong => "File name too long"
  | .notEmpty => "Directory not empty"
  | .noProcess => "No such process"
  | .invalidText => "stream did not contain valid UTF-8"
  | .zeroInPath => "file name contained an unexpected NUL byte"

/-- The number that the operating system gives an error; text that is none is found later. -/
def number? : FileError → Option Nat
  | .notFound => some 2
  | .noProcess => some 3
  | .interrupted => some 4
  | .noDevice => some 6
  | .notProgram => some 8
  | .badDescriptor => some 9
  | .permissionDenied => some 13
  | .exists => some 17
  | .notDirectory => some 20
  | .isDirectory => some 21
  | .invalid => some 22
  | .noSpace => some 28
  | .brokenPipe => some 32
  | .nameTooLong => some 36
  | .notEmpty => some 39
  | .invalidText | .zeroInPath => none

/-- The wording of a file error. -/
def message (error : FileError) : String :=
  match error.number? with
  | some number => s!"{error.reason} (os error {number})"
  | none => error.reason

end FileError

end CopyOracle
