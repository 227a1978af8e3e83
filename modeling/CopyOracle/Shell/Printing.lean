import CopyOracle.Text.Directive
import CopyOracle.Text.Escape

/-!
# Formatted printing

A format prints its text with the directives in it replaced by arguments, and is used again as
long as arguments are left. An argument that is no number is complained about and counts as far as
it can be read.
-/
namespace CopyOracle.Shell.Printing

/-- What printing has come to so far. -/
structure Printed where
  /-- The output in pieces, the last one first. -/
  pieces : List ByteText := []
  /-- The arguments left. -/
  arguments : List ByteText
  /-- The complaints, the last one first. -/
  complaints : List ByteText := []
  /-- Whether the last complaint ended the printing. -/
  isFailed : Bool := false
  /-- Whether nothing more is to be printed. -/
  isOver : Bool := false

namespace Printed

/-- The output as a whole. -/
def output (printed : Printed) : ByteText := printed.pieces.reverse.flatten

/-- The printing with more output. -/
def add (printed : Printed) (text : ByteText) : Printed :=
  { printed with pieces := text :: printed.pieces }

/-- The printing ended by a complaint. -/
def fail (printed : Printed) (wording : ByteText) : Printed :=
  { printed with
    complaints := wording :: printed.complaints, isFailed := true, isOver := true }

/-- The next argument, if there is one. -/
def next? (printed : Printed) : Option ByteText × Printed :=
  (printed.arguments.head?, { printed with arguments := printed.arguments.tail })

/-- The printing after an argument was read as a number up to some rest. -/
def check (printed : Printed) (argument rest : ByteText) (isInRange : Bool) : Printed :=
  let complain (wording : String) : Printed :=
    { printed with
      complaints := (argument ++ ": ".toList ++ wording.toList) :: printed.complaints }
  if !rest.isEmpty then
    complain (if rest.length = argument.length then "expected numeric value"
      else "not completely converted")
  else if !isInRange then complain "Numerical result out of range"
  else printed

end Printed

/-- The code of the character after a quote. -/
def quotedCode? : ByteText → Option Nat
  | c :: rest => if c = '\'' || c = '"' then some ((rest.head?.map Char.toNat).getD 0) else none
  | [] => none

/-- The digits in a base at the front of a text. -/
def digitsIn (base : Nat) (text : ByteText) : ByteText :=
  text.takeWhile fun c => match Decimals.digitValue? c with
    | some value => value < base
    | none => false

/-- The value of digits in a base. -/
def valueIn (base : Nat) (digits : ByteText) : Nat :=
  digits.foldl (fun value c => value * base + (Decimals.digitValue? c).getD 0) 0

/-- The number at the front of a text, and what follows it: after `0x` in base sixteen, after `0`
in base eight, and otherwise in base ten. -/
def natural? (text : ByteText) : Option (Nat × ByteText) :=
  match text with
  | '0' :: x :: rest =>
    let digits := digitsIn 16 rest
    if (x = 'x' || x = 'X') && !digits.isEmpty then
      some (valueIn 16 digits, rest.drop digits.length)
    else
      let digits := digitsIn 8 text
      some (valueIn 8 digits, text.drop digits.length)
  | _ =>
    let digits := digitsIn 10 text
    if digits.isEmpty then none else some (valueIn 10 digits, text.drop digits.length)

/-- The integer at the front of a text after white space and a sign, and what follows it. Without
digits there is no number, and all of the text follows. -/
def integer (text : ByteText) : Int × ByteText :=
  let found : Option (Int × ByteText) := match text.dropWhile Decimals.isGap with
    | '-' :: rest => (natural? rest).map fun (value, later) => (-(value : Int), later)
    | '+' :: rest => (natural? rest).map fun (value, later) => ((value : Int), later)
    | rest => (natural? rest).map fun (value, later) => ((value : Int), later)
  found.getD (0, text)

namespace Printed

/-- The largest signed integer. -/
def largest : Int := (UInt64.size / 2 : Nat) - 1

/-- The next argument as a signed integer. -/
def nextInteger (printed : Printed) : Int × Printed :=
  match printed.next? with
  | (none, printed) => (0, printed)
  | (some argument, printed) =>
    match quotedCode? argument with
    | some code => (code, printed)
    | none =>
      let (value, rest) := integer argument
      let bounded := max (-largest - 1) (min largest value)
      (bounded, printed.check argument rest (bounded = value))

/-- The next argument as an integer without a sign. -/
def nextNatural (printed : Printed) : Nat × Printed :=
  match printed.next? with
  | (none, printed) => (0, printed)
  | (some argument, printed) =>
    match quotedCode? argument with
    | some code => (code, printed)
    | none =>
      let (value, rest) := integer argument
      let isInRange := value.natAbs < UInt64.size
      let wrapped := if isInRange then (value % UInt64.size).toNat else UInt64.size - 1
      (wrapped, printed.check argument rest isInRange)

/-- Whether a text has a digit that is not zero before an exponent. -/
def hasValue (text : ByteText) : Bool :=
  (text.takeWhile fun c => c ≠ 'e' && c ≠ 'E').any fun c => '1' ≤ c && c ≤ '9'

/-- The next argument as a double. -/
def nextFloat (printed : Printed) : Float × Printed :=
  match printed.next? with
  | (none, printed) => (0.0, printed)
  | (some argument, printed) =>
    match quotedCode? argument with
    | some code => (Float.ofNat code, printed)
    | none =>
      match Decimals.atFront? argument with
      | none => (0.0, printed.check argument argument true)
      | some (value, rest) =>
        let isInRange := !((value.isInf && argument.any Char.isDigit) ||
          (value == 0.0 && hasValue argument))
        (value, printed.check argument rest isInRange)

/-- The printing with the next argument written as a directive and its letter say; the directive
as it was written is complained about if there is no such letter. -/
def convert (printed : Printed) (directive : Directive) (letter : Char) (written : ByteText) :
    Printed :=
  let unsigned (text : Nat → ByteText) : Printed :=
    let (value, printed) := printed.nextNatural
    printed.add (text value)
  match letter with
  | 's' =>
    let (argument, printed) := printed.next?
    printed.add (directive.text (argument.getD []))
  | 'b' =>
    let (argument, printed) := printed.next?
    let (text, isOver) := Escape.resolved (argument.getD [])
    { printed.add (directive.text text) with isOver := isOver }
  | 'c' =>
    let (argument, printed) := printed.next?
    let c := (argument.bind List.head?).getD (Char.ofNat 0)
    printed.add (directive.fill [c])
  | 'd' | 'i' =>
    let (value, printed) := printed.nextInteger
    printed.add (directive.integer value)
  | 'u' => unsigned directive.natural
  | 'o' => unsigned directive.octal
  | 'x' => unsigned (directive.hexadecimal false)
  | 'X' => unsigned (directive.hexadecimal true)
  | _ =>
    if letter.toLower ∈ ['a', 'e', 'f', 'g'] then
      let (value, printed) := printed.nextFloat
      printed.add (directive.float letter value)
    else printed.fail (written ++ ": invalid directive".toList)

/-- A number in a directive, which a star takes from the arguments, and what follows it. Without
digits there is none. -/
def size (printed : Printed) (text : ByteText) : Option Int × Printed × ByteText :=
  match text with
  | '*' :: rest =>
    let (value, printed) := printed.nextInteger
    (some value, printed, rest)
  | _ =>
    let digits := text.takeWhile Char.isDigit
    (if digits.isEmpty then none else some (Nat.ofDigitChars 10 digits 0 : Nat), printed,
      text.drop digits.length)

/-- The printing after a directive, and what follows the directive. -/
def directive (printed : Printed) (text : ByteText) : Printed × ByteText :=
  let flags := text.takeWhile Directive.isFlag
  let (width, printed, rest) := printed.size (text.drop flags.length)
  let (precision, printed, rest) := match rest with
    | '.' :: rest =>
      let (precision, printed, rest) := printed.size rest
      (some (precision.getD 0), printed, rest)
    | _ => (none, printed, rest)
  let precision := precision.bind fun value => if value < 0 then none else some value.toNat
  match rest with
  | [] => (printed.fail "missing format character".toList, [])
  | letter :: later =>
    let written := '%' :: text.take (text.length - later.length)
    let directive := { (Directive.ofFlags flags).withWidth (width.getD 0) with precision }
    (printed.convert directive letter written, later)

/-- The printing after a format has been used once. -/
def once : (fuel : Nat) → ByteText → Printed → Printed
  | 0, _, printed | _, [], printed => printed
  | fuel + 1, '\\' :: rest, printed =>
    let (found, later) := Escape.after rest
    once fuel later (printed.add [found])
  | fuel + 1, '%' :: '%' :: rest, printed => once fuel rest (printed.add ['%'])
  | fuel + 1, '%' :: rest, printed =>
    let (printed, later) := printed.directive rest
    if printed.isOver then printed else once fuel later printed
  | fuel + 1, c :: rest, printed =>
    let isPlain (c : Char) : Bool := c ≠ '\\' && c ≠ '%'
    let text := rest.takeWhile isPlain
    once fuel (rest.drop text.length) (printed.add (c :: text))

/-- The printing after a format has been used for all arguments. -/
def all (format : ByteText) : (rounds : Nat) → Printed → Printed
  | 0, printed => printed
  | rounds + 1, printed =>
    let after := once (format.length + 1) format printed
    if after.isOver || after.arguments.isEmpty ||
      after.arguments.length = printed.arguments.length then after
    else all format rounds after

end Printed

/-- What a format prints of arguments. -/
def format (text : ByteText) (arguments : List ByteText) : Printed :=
  Printed.all text (arguments.length + 1) { arguments }

/-- What is printed of words: with blanks between them, backslashes resolved, and a line end
unless it is not wanted. -/
def echo (words : List ByteText) : ByteText :=
  let (hasLineEnd, words) := match words with
    | ['-', 'n'] :: rest => (false, rest)
    | _ => (true, words)
  let (text, isOver) := Escape.resolved ([' '].intercalate words)
  if hasLineEnd && !isOver then text ++ ['\n'] else text

end CopyOracle.Shell.Printing
