import CopyOracle.Text.Basic

/-!
# Bytes as text

Programs exchange bytes. A byte text holds one character for each byte, with the byte as its
code, so that ASCII text is its own byte text. Decoding follows the definition of UTF-8 by the
allowed range of each next byte; a stretch of bytes that begins a character but does not end it
becomes one replacement character, and so does every other byte that fits nowhere.
-/
namespace CopyOracle

/-- A text whose characters stand for the bytes of their codes. -/
abbrev ByteText := List Char

-- A table with texts as keys hashes them character by character, whatever else is imported.
instance (priority := 2000) : Hashable ByteText := @instHashableList Char instHashableChar

namespace ByteText

/-- The byte text of bytes. -/
def ofBytes (bytes : ByteArray) : ByteText := bytes.toList.map fun byte => Char.ofNat byte.toNat

/-- The bytes of a byte text. -/
def toBytes (text : ByteText) : ByteArray :=
  text.foldl (fun bytes c => bytes.push (UInt8.ofNat c.toNat)) .empty

/-- The byte text of a string in UTF-8. -/
def ofString (text : String) : ByteText := ofBytes text.toUTF8

/-- Whether a text stands at or before another in the order of their bytes. -/
def atMost : (left right : ByteText) → Bool
  | [], _ => true
  | _ :: _, [] => false
  | a :: left, b :: right => a.toNat < b.toNat || (a == b && atMost left right)

/-- A character of which some bytes were read. -/
structure Begun where
  /-- How many bytes are missing. -/
  missing : Nat
  /-- The least next byte. -/
  low : Nat
  /-- The greatest next byte. -/
  high : Nat
  /-- The bits read. -/
  bits : Nat

/-- The character that a byte begins, if it begins one of several bytes. -/
def begin? (byte : Nat) : Option Begun :=
  if 0xC2 ≤ byte && byte ≤ 0xDF then some ⟨1, 0x80, 0xBF, byte - 0xC0⟩
  else if byte = 0xE0 then some ⟨2, 0xA0, 0xBF, 0⟩
  else if byte = 0xED then some ⟨2, 0x80, 0x9F, 13⟩
  else if 0xE1 ≤ byte && byte ≤ 0xEF then some ⟨2, 0x80, 0xBF, byte - 0xE0⟩
  else if byte = 0xF0 then some ⟨3, 0x90, 0xBF, 0⟩
  else if 0xF1 ≤ byte && byte ≤ 0xF3 then some ⟨3, 0x80, 0xBF, byte - 0xF0⟩
  else if byte = 0xF4 then some ⟨3, 0x80, 0x8F, 4⟩
  else none

/-- What stands for bytes that are no character. -/
def replacement : Char := Char.ofNat 0xFFFD

/-- What decoding has made of the bytes so far: the characters in reverse, and one begun. -/
structure Decoding where
  /-- The characters, the last one first. -/
  reversed : Text := []
  /-- A character that lacks bytes. -/
  begun : Option Begun := none

/-- Decoding one more byte where no character is begun. -/
def Decoding.start (decoding : Decoding) (byte : Nat) : Decoding :=
  if byte < 0x80 then ⟨Char.ofNat byte :: decoding.reversed, none⟩
  else match begin? byte with
  | some begun => ⟨decoding.reversed, some begun⟩
  | none => ⟨replacement :: decoding.reversed, none⟩

/-- Decoding one more byte. -/
def Decoding.step (decoding : Decoding) (c : Char) : Decoding :=
  let byte := c.toNat
  match decoding.begun with
  | none => decoding.start byte
  | some begun =>
    if begun.low ≤ byte && byte ≤ begun.high then
      let bits := begun.bits * 64 + (byte - 0x80)
      if begun.missing ≤ 1 then ⟨Char.ofNat bits :: decoding.reversed, none⟩
      else ⟨decoding.reversed, some ⟨begun.missing - 1, 0x80, 0xBF, bits⟩⟩
    else Decoding.start ⟨replacement :: decoding.reversed, none⟩ byte

/-- The characters of a byte text, with replacements for what is none. -/
def decode (text : ByteText) : Text :=
  let decoding := text.foldl Decoding.step {}
  (match decoding.begun with
    | some _ => replacement :: decoding.reversed
    | none => decoding.reversed).reverse

/-- The string that a byte text spells. -/
def asString (text : ByteText) : String := .ofList (decode text)

end ByteText

end CopyOracle
