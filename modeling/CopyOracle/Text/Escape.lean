import CopyOracle.Text.Bytes

/-!
# Backslashes in text

A backslash before a letter stands for a control character, and before octal digits for the
character of that number. Before anything else it stands for itself.
-/
namespace CopyOracle.Escape

/-- The character that a letter stands for after a backslash. -/
def control? : Char → Option Char
  | 'a' => some (Char.ofNat 7)
  | 'b' => some (Char.ofNat 8)
  | 'e' => some (Char.ofNat 27)
  | 'f' => some (Char.ofNat 12)
  | 'n' => some '\n'
  | 'r' => some '\r'
  | 't' => some '\t'
  | 'v' => some (Char.ofNat 11)
  | '\\' => some '\\'
  | _ => none

/-- Whether a character is an octal digit. -/
def isOctal (c : Char) : Bool := '0' ≤ c && c ≤ '7'

/-- The character of octal digits. -/
def ofOctal (digits : ByteText) : Char :=
  Char.ofNat (digits.foldl (fun value c => value * 8 + (c.toNat - '0'.toNat)) 0 % 256)

/-- What stands after a backslash, and what follows it. -/
def after (rest : ByteText) : Char × ByteText :=
  let digits := (rest.take 3).takeWhile isOctal
  if !digits.isEmpty then (ofOctal digits, rest.drop digits.length)
  else match rest with
    | c :: later =>
      match control? c with
      | some found => (found, later)
      | none => ('\\', rest)
    | [] => ('\\', [])

/-- A text with its backslashes resolved, and whether it asks to print nothing more. A zero may
stand before the three digits of an octal number. -/
def resolve : (fuel : Nat) → ByteText → ByteText × Bool
  | 0, _ | _, [] => ([], false)
  | fuel + 1, '\\' :: rest =>
    match rest with
    | 'c' :: _ => ([], true)
    | _ =>
      let (found, later) := after (match rest with
        | '0' :: c :: later => if isOctal c then c :: later else rest
        | _ => rest)
      let (more, stops) := resolve fuel later
      (found :: more, stops)
  | fuel + 1, c :: rest =>
    let (more, stops) := resolve fuel rest
    (c :: more, stops)

/-- A text with its backslashes resolved as a whole. -/
def resolved (text : ByteText) : ByteText × Bool :=
  if text.contains '\\' then resolve (text.length + 1) text else (text, false)

end CopyOracle.Escape
