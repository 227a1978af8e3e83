import CopyOracle.Number.FloatText

/-!
# JSON values and their text

The results of a run are kept as JSON. A value is written over several lines with two blanks of
indentation for each level; an empty array or object stays on its line. In a string the quote,
the backslash and the control characters are escaped and every other character stands for
itself.
-/
namespace CopyOracle

/-- A JSON value; the members of an object keep their order. -/
inductive JsonValue where
  /-- The null value. -/
  | null
  /-- A truth value. -/
  | bool (value : Bool)
  /-- An integer. -/
  | integer (value : Int)
  /-- A double. -/
  | double (value : Float)
  /-- A string. -/
  | string (value : String)
  /-- An array. -/
  | array (items : List JsonValue)
  /-- An object. -/
  | object (members : List (String × JsonValue))

namespace JsonValue

/-- The natural number as an integer. -/
def natural (value : Nat) : JsonValue := .integer value

/-- A value that may be missing, written as null. -/
def option {α : Type} (write : α → JsonValue) : Option α → JsonValue
  | none => .null
  | some value => write value

/-- A hexadecimal digit. -/
def hexDigit (n : Nat) : Char := Nat.digitChar (n % 16)

/-- A character as it stands in a string. -/
def escape (c : Char) : Text :=
  if c = '"' then ['\\', '"']
  else if c = '\\' then ['\\', '\\']
  else if c = '\n' then ['\\', 'n']
  else if c = '\r' then ['\\', 'r']
  else if c = '\t' then ['\\', 't']
  else if c.toNat = 8 then ['\\', 'b']
  else if c.toNat = 12 then ['\\', 'f']
  else if c.toNat < 32 then
    ['\\', 'u', '0', '0', hexDigit (c.toNat / 16), hexDigit c.toNat]
  else [c]

/-- A string in quotes. -/
def quote (text : Text) : Text := '"' :: text.flatMap escape ++ ['"']

/-- A double; those that are no number are written as null. -/
def writeDouble (value : Float) : Text :=
  if value.isFinite then FloatText.record value else "null".toList

/-- An integer. -/
def writeInteger : Int → Text
  | .ofNat value => Numeral.digits value
  | .negSucc value => '-' :: Numeral.digits (value + 1)

/-- A new line indented by so many levels. -/
def newLine (level : Nat) : Text := '\n' :: List.replicate (2 * level) ' '

/-- Written items between brackets, each on a line of its own one level further in. -/
def block (opening closing : Char) (level : Nat) : List Text → Text
  | [] => [opening, closing]
  | items =>
    opening :: [','].intercalate (items.map fun item => newLine (level + 1) ++ item) ++
      newLine level ++ [closing]

mutual

/-- The written value, its lines after the first indented by so many levels. -/
def pretty (level : Nat) : JsonValue → Text
  | .null => "null".toList
  | .bool value => (if value then "true" else "false").toList
  | .integer value => writeInteger value
  | .double value => writeDouble value
  | .string value => quote value.toList
  | .array items => block '[' ']' level (prettyItems (level + 1) items)
  | .object members => block '\x7b' '\x7d' level (prettyMembers (level + 1) members)

/-- The written items of an array. -/
def prettyItems (level : Nat) : List JsonValue → List Text
  | [] => []
  | item :: rest => pretty level item :: prettyItems level rest

/-- The written members of an object. -/
def prettyMembers (level : Nat) : List (String × JsonValue) → List Text
  | [] => []
  | (key, value) :: rest =>
    (quote key.toList ++ ':' :: ' ' :: pretty level value) :: prettyMembers level rest

end

end JsonValue

end CopyOracle
