import CopyOracle.Shell.Builtin.Basic
import CopyOracle.Shell.Search

/-!
# Commands on the surroundings of a shell

The working directory, the bits that new files do not get, the limits of the shell, and the time
that it took.
-/
namespace CopyOracle.Shell

open Host

namespace Execution

/-- The directory that a path leads to from another, as it is written. -/
def resolveDirectory (current path : ByteText) : ByteText :=
  let isAbsolute := path.head? = some '/'
  let text := if isAbsolute then path
    else if current.getLast? = some '/' then current ++ path else current ++ '/' :: path
  let hasTwoSlashes := "//".toList.isPrefixOf text && !"///".toList.isPrefixOf text
  let names := (text.splitOn '/').foldl (fun (names : List ByteText) name =>
    if name.isEmpty || name = ['.'] then names
    else if name = ['.', '.'] then names.dropLast
    else names ++ [name]) []
  (if hasTwoSlashes then ['/'] else []) ++ '/' :: ['/'].intercalate names

/-- Enters a directory, if it is one. -/
def enter (isPhysical : Bool) (path : ByteText) : Execution Bool := do
  let files ← call .files
  let current := (← get).directory
  let directory := resolveDirectory current path
  match files.locate (ByteText.asString (if isPhysical then path else directory)) with
  | .error _ => return false
  | .ok place =>
    if files.isDirectoryAt place then
      call (.enter place)
      let export_ (name value : ByteText) : Execution Unit := do
        assign name value
        setVariable name { (← binding? name).getD {} with isExported := true }
      export_ "OLDPWD".toList current
      export_ "PWD".toList directory
      modify fun context => { context with directory := directory }
      return true
    else return false

/-- Whether a path does not depend on the search path of directories. -/
def isFixed (path : ByteText) : Bool :=
  match path with
  | '/' :: _ | ['.'] | '.' :: '/' :: _ | ['.', '.'] | '.' :: '.' :: '/' :: _ => true
  | _ => false

/-- Goes to another directory. -/
def cd : Builtin := fun _ _ arguments => do
  let (letters, operands) ← options "LP" arguments
  let isPhysical := letters.getLast?.map Prod.fst = some 'P'
  let (path, isShown) ← match operands with
    | [] => pure ((← storedValue? "HOME".toList).getD [], false)
    | ['-'] :: _ => pure ((← storedValue? "OLDPWD".toList).getD [], true)
    | path :: _ => pure (path, false)
  let shown (isShown : Bool) : Execution Nat := do
    if isShown then printLine (← get).directory else return 0
  let failed : Execution Nat := fail ("can't cd to ".toList ++ path)
  if isFixed path then
    if ← enter isPhysical path then shown isShown else failed
  else
    let target := if path.isEmpty then ['.'] else path
    match ← storedValue? "CDPATH".toList with
    | none => if ← enter isPhysical target then shown isShown else failed
    | some directories =>
      let files ← call .files
      let found := (directories.splitOn ':').find? fun directory =>
        files.isDirectory (ByteText.asString
          (if directory.isEmpty then target else directory ++ '/' :: target))
      match found with
      | some [] => if ← enter isPhysical target then shown isShown else failed
      | some directory =>
        if ← enter isPhysical (directory ++ '/' :: target) then shown true else failed
      | none => if ← enter isPhysical target then shown isShown else failed

/-- Prints the working directory. -/
def pwd : Builtin := fun _ _ arguments => do
  let _ ← options "LP" arguments
  printLine (← get).directory

/-- The digits of a number in base eight, at least four of them. -/
def octalMode (mode : Nat) : ByteText :=
  let digits := Nat.toDigits 8 mode
  List.replicate (4 - digits.length) '0' ++ digits

/-- The permissions that a mask leaves, as letters. -/
def symbolicMode (mask : Nat) : ByteText :=
  let letters (shift : Nat) : ByteText :=
    let bits := mask / shift % 8
    (if bits / 4 % 2 = 0 then ['r'] else []) ++ (if bits / 2 % 2 = 0 then ['w'] else []) ++
      (if bits % 2 = 0 then ['x'] else [])
  "u=".toList ++ letters 64 ++ ",g=".toList ++ letters 8 ++ ",o=".toList ++ letters 1

/-- The bits that letters for whom and for what stand for. -/
def modeBits (who what : ByteText) : Nat :=
  let scopes := if who.isEmpty || who.contains 'a' then ['u', 'g', 'o'] else who
  let bits := (if what.contains 'r' then 4 else 0) + (if what.contains 'w' then 2 else 0) +
    (if what.contains 'x' then 1 else 0)
  [('u', 64), ('g', 8), ('o', 1)].foldl (fun sum (letter, shift) =>
    if scopes.contains letter then sum + bits * shift else sum) 0

/-- Bits without some others. -/
def withoutBits (bits others : Nat) : Nat := bits - (bits &&& others)

/-- The permissions after one clause of a symbolic mode, if it is one. -/
def applyClause (permissions : Nat) (clause : ByteText) : Option Nat :=
  let who := clause.takeWhile fun c => c ∈ ['u', 'g', 'o', 'a']
  match clause.drop who.length with
  | sign :: what =>
    if what.all fun c => c ∈ ['r', 'w', 'x', 'X', 's', 't'] then
      match sign with
      | '=' => some (withoutBits permissions (modeBits who ['r', 'w', 'x']) ||| modeBits who what)
      | '+' => some (permissions ||| modeBits who what)
      | '-' => some (withoutBits permissions (modeBits who what))
      | _ => none
    else none
  | [] => none

/-- Sets or prints the bits that new files do not get. -/
def umask : Builtin := fun _ _ arguments => do
  let (options, operands) ← options "S" arguments
  let mask := (← get).mask
  match operands with
  | [] => printLine (if options.isEmpty then octalMode mask else symbolicMode mask)
  | word :: _ =>
    if word.head?.any Char.isDigit then
      if word.all fun c => '0' ≤ c && c ≤ '7' then
        let value := word.foldl (fun value c => value * 8 + (c.toNat - '0'.toNat)) 0
        modify fun context => { context with mask := value % 512 }
        return 0
      else fail ("Illegal number: ".toList ++ word)
    else
      match (word.splitOn ',').foldlM applyClause (511 - mask % 512) with
      | some permissions =>
        modify fun context => { context with mask := 511 - permissions % 512 }
        return 0
      | none => fail ("Illegal mode: ".toList ++ word)

/-- Prints the time that the shell took, which is none worth mentioning. -/
def times : Builtin := fun _ _ _ =>
  print "0m0.000000s 0m0.000000s\n0m0.000000s 0m0.000000s\n".toList

/-- The limits by their letters. -/
def limitTable : List (Char × String) :=
  [('t', "time(seconds)"), ('f', "file(blocks)"), ('d', "data(kbytes)"), ('s', "stack(kbytes)"),
    ('c', "coredump(blocks)"), ('m', "memory(kbytes)"), ('l', "locked memory(kbytes)"),
    ('p', "process"), ('n', "nofiles"), ('v', "vmemory(kbytes)"), ('w', "locks"),
    ('r', "rtprio")]

/-- The usual limit of a letter. -/
def usualLimit : Char → ByteText
  | 's' => "8192".toList
  | 'c' | 'r' => ['0']
  | 'n' => "1048576".toList
  | _ => "unlimited".toList

/-- Prints limits; setting one changes nothing that a script could notice. -/
def ulimit : Builtin := fun _ _ arguments => do
  let (options, operands) ← options "HSatfdsmcnpvlwr" arguments
  let letters := (options.map Prod.fst).filter fun letter => letter ≠ 'H' && letter ≠ 'S'
  match operands with
  | [] =>
    if letters.contains 'a' then
      print (limitTable.flatMap fun (letter, name) =>
        name.toList ++ List.replicate (20 - name.length) ' ' ++ ' ' :: usualLimit letter ++
          ['\n'])
    else printLine (usualLimit ((letters.getLast?).getD 'f'))
  | value :: _ =>
    if value = "unlimited".toList || (Numeral.value? value).isSome then return 0
    else fail "bad number".toList

end Execution

end CopyOracle.Shell
