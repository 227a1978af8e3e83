/-!
# Text

A text is a list of characters. White space is the Unicode `White_Space` property, fixed here as
a table of its 25 characters; trimming and splitting into words are defined by that table alone.
Lines end at a line feed, and one carriage return before the line feed belongs to the line end,
so a text with either convention has the same lines.
-/
namespace CopyOracle

/-- A text is read and written character by character. -/
abbrev Text := List Char

namespace Text

/-- The 25 characters with the Unicode property `White_Space`. -/
def isBlank (c : Char) : Bool :=
  (9 ≤ c.toNat && c.toNat ≤ 13) || c.toNat == 0x20 || c.toNat == 0x85 || c.toNat == 0xA0 ||
  c.toNat == 0x1680 || (0x2000 ≤ c.toNat && c.toNat ≤ 0x200A) || c.toNat == 0x2028 ||
  c.toNat == 0x2029 || c.toNat == 0x202F || c.toNat == 0x205F || c.toNat == 0x3000

/-- The text without the white space at its front. -/
def trimStart (text : Text) : Text := text.dropWhile isBlank

/-- The text without the white space at its end. -/
def trimEnd (text : Text) : Text := (text.reverse.dropWhile isBlank).reverse

/-- The text without the white space at either end. -/
def trim (text : Text) : Text := trimEnd (trimStart text)

/-- The maximal runs of characters that are not white space, in order. -/
def words (text : Text) : List Text := (text.splitOnP isBlank).filter fun word => !word.isEmpty

/-- The lines of a text. A line feed ends a line, together with one carriage return directly
before it; characters after the last line feed form a last line. -/
def lines : Text → List Text
  | [] => []
  | '\n' :: rest => [] :: lines rest
  | '\r' :: '\n' :: rest => [] :: lines rest
  | c :: rest =>
    match lines rest with
    | [] => [[c]]
    | line :: later => (c :: line) :: later

/-- The rest of the text after the first occurrence of a label. -/
def after? : (text label : Text) → Option Text
  | [], label => if label.isEmpty then some [] else none
  | c :: rest, label =>
    if label.isPrefixOf (c :: rest) then some ((c :: rest).drop label.length)
    else after? rest label

/-- Whether a label occurs in the text. -/
def contains (text label : Text) : Bool := (after? text label).isSome

/-- The text before and after the first occurrence of a separator. -/
def cut? : (text separator : Text) → Option (Text × Text)
  | [], separator => if separator.isEmpty then some ([], []) else none
  | c :: rest, separator =>
    if separator.isPrefixOf (c :: rest) then some ([], (c :: rest).drop separator.length)
    else (cut? rest separator).map fun (before, later) => (c :: before, later)

/-- The text with ASCII capitals made small; other characters stay. -/
def lower (text : Text) : Text := text.map Char.toLower

end Text

/-- A line of a text with its one-based number, trimmed of white space. -/
structure Line where
  /-- One-based position among the lines of the text. -/
  number : Nat
  /-- The line without the white space at its ends. -/
  content : Text
deriving DecidableEq, Repr

/-- The lines of a text, numbered from one and trimmed. -/
def Text.numberedLines (text : Text) : List Line :=
  ((lines text).zipIdx 1).map fun (content, number) => ⟨number, trim content⟩

/-- Whether nothing is left of the line after trimming. -/
def Line.isEmpty (line : Line) : Bool := line.content.isEmpty

end CopyOracle
