import CopyOracle.Tool.Options

/-!
# Showing bytes

Bytes are shown in rows with their addresses, as numbers of one or more bytes or as characters, and
in several ways under one another. Of rows that are alike only the first one is shown.
-/
namespace CopyOracle.Tool

open Host

/-- How a group of bytes is shown. -/
inductive ByteView where
  /-- As a character or its escape. -/
  | character
  /-- As a character or its name. -/
  | named
  /-- As a number in some base, below zero if the first bit says so. -/
  | number (base : Nat) (isSigned : Bool)
deriving DecidableEq, Repr

/-- A way to show a row. -/
structure RowView where
  /-- How a group is shown. -/
  view : ByteView
  /-- How many bytes are in a group. -/
  size : Nat := 1
  /-- Whether the visible characters are shown at the end. -/
  showsText : Bool := false
deriving DecidableEq, Repr

/-- How the addresses of rows are shown. -/
inductive Addressing where
  /-- Not at all. -/
  | hidden
  /-- As numbers of a base, with so many digits at least. -/
  | shown (base digits : Nat)
deriving DecidableEq, Repr

/-- A text with blanks in front of it up to a width. -/
def rightAligned (width : Nat) (text : ByteText) : ByteText :=
  List.replicate (width - text.length) ' ' ++ text

/-- A number in a base with so many digits at least. -/
def digitsIn (base least number : Nat) : ByteText :=
  let digits := Nat.toDigits base number
  List.replicate (least - digits.length) '0' ++ digits

/-- The names of the characters that cannot be seen. -/
def characterNames : List String :=
  ["nul", "soh", "stx", "etx", "eot", "enq", "ack", "bel", "bs", "ht", "nl", "vt", "ff", "cr", "so",
    "si", "dle", "dc1", "dc2", "dc3", "dc4", "nak", "syn", "etb", "can", "em", "sub", "esc", "fs",
    "gs", "rs", "us", "sp"]

/-- A character, or how it is escaped. -/
def characterText (c : Char) : ByteText :=
  match c.toNat with
  | 0 => ['\\', '0']
  | 7 => ['\\', 'a']
  | 8 => ['\\', 'b']
  | 9 => ['\\', 't']
  | 10 => ['\\', 'n']
  | 11 => ['\\', 'v']
  | 12 => ['\\', 'f']
  | 13 => ['\\', 'r']
  | code => if 32 ≤ code && code < 127 then [c] else digitsIn 8 3 code

/-- The number whose bytes are given, the lowest one first. -/
def numberOfBytes (bytes : ByteText) : Nat :=
  bytes.foldr (fun c number => number * 256 + c.toNat) 0

namespace RowView

/-- How wide a group is. -/
def width (row : RowView) : Nat :=
  match row.view with
  | .character | .named => 3
  | .number base isSigned =>
    let digits := (Nat.toDigits base (Nat.pow 256 row.size / (if isSigned then 2 else 1) -
      (if isSigned then 0 else 1))).length
    if isSigned then digits + 1 else digits

/-- The text of a group. -/
def text (row : RowView) (bytes : ByteText) : ByteText :=
  match row.view with
  | .character => (bytes.map characterText).headD []
  | .named =>
    let code := (numberOfBytes bytes) % 128
    if code = 127 then "del".toList
    else match characterNames[code]? with
    | some name => name.toList
    | none => [Char.ofNat code]
  | .number base isSigned =>
    let number := numberOfBytes bytes
    let half := Nat.pow 256 row.size / 2
    if base = 10 then
      if isSigned && half ≤ number then '-' :: Nat.toDigits 10 (2 * half - number)
      else Nat.toDigits 10 number
    else digitsIn base row.width number

/-- The groups of a row, the last one filled up with zero bytes. -/
def groups (size : Nat) : (fuel : Nat) → ByteText → List ByteText
  | 0, _ | _, [] => []
  | fuel + 1, bytes =>
    let group := bytes.take size
    (group ++ List.replicate (size - group.length) (Char.ofNat 0)) ::
      groups size fuel (bytes.drop size)

/-- A row of bytes, where a full row is so many bytes and characters wide. -/
def line (row : RowView) (rowBytes rowWidth : Nat) (bytes : ByteText) : ByteText :=
  let count := rowBytes / row.size
  let spare := rowWidth - count * row.width
  let cells := (groups row.size (bytes.length + 1) bytes).zipIdx.map fun (group, index) =>
    let before := spare * (count - index) / count
    let after := spare * (count - index - 1) / count
    rightAligned (row.width + (before - after)) (row.text group)
  let missing := (count - cells.length) * row.width + spare * (count - cells.length) / count
  let visible := bytes.map fun c => if ' ' ≤ c && c ≤ '~' then c else '.'
  cells.flatten ++ if row.showsText then List.replicate missing ' ' ++ "  >".toList ++ visible ++ ['<']
    else []

end RowView

/-- How bytes are shown. -/
structure Dump where
  /-- How the addresses are shown. -/
  addressing : Addressing := .shown 8 7
  /-- The ways in which each row is shown. -/
  rows : List RowView
  /-- How many bytes are in a row. -/
  rowBytes : Nat := 16
  /-- Whether rows that are alike are all shown. -/
  showsAll : Bool := false

namespace Dump

/-- How wide a row is. -/
def rowWidth (dump : Dump) : Nat :=
  (dump.rows.map fun row => dump.rowBytes / row.size * (row.width + 1)).foldl max 0

/-- An address. -/
def address (dump : Dump) (number : Nat) : ByteText :=
  match dump.addressing with
  | .hidden => []
  | .shown base digits => digitsIn base digits number

/-- A row in all ways. -/
def row (dump : Dump) (number : Nat) (bytes : ByteText) : ByteText :=
  let front := dump.address number
  (dump.rows.zipIdx.map fun (view, index) =>
    (if index = 0 then front else front.map fun _ => ' ') ++
      view.line dump.rowBytes dump.rowWidth bytes ++ ['\n']).flatten

/-- All rows from an address on, after a row; whether that one stood for others. -/
def rowsFrom (dump : Dump) : (fuel : Nat) → (number : Nat) → (former : Option ByteText) →
    (isRepeated : Bool) → ByteText → ByteText
  | 0, _, _, _, _ => []
  | fuel + 1, number, former, isRepeated, bytes =>
    match bytes with
    | [] => match dump.addressing with
      | .hidden => []
      | .shown _ _ => dump.address number ++ ['\n']
    | _ =>
      let taken := bytes.take dump.rowBytes
      let rest := bytes.drop dump.rowBytes
      let later := dump.rowsFrom fuel (number + taken.length) (some taken)
      if !dump.showsAll && former = some taken then
        (if isRepeated then [] else ['*', '\n']) ++ later true rest
      else dump.row number taken ++ later false rest

end Dump

/-- The number of bytes that a letter or digits stand for, and what follows. -/
def groupSize (word : ByteText) : Option Nat × ByteText :=
  match word with
  | 'C' :: rest => (some 1, rest)
  | 'S' :: rest => (some 2, rest)
  | 'I' :: rest => (some 4, rest)
  | 'L' :: rest => (some 8, rest)
  | _ =>
    let digits := word.takeWhile Char.isDigit
    (Numeral.value? digits, word.drop digits.length)

/-- Why a word names no ways to show rows. -/
inductive RowFault where
  /-- A character has no meaning. -/
  | unknown (c : Char)
  /-- There are no numbers of so many bytes. -/
  | size (bytes : Nat)
deriving DecidableEq, Repr

/-- What is wrong with a word. -/
def RowFault.message (word : ByteText) : RowFault → ByteText
  | .unknown c => "invalid character '".toList ++ c :: "' in type string ".toList ++ quoted word
  | .size bytes =>
    "invalid type string ".toList ++ quoted word ++
      s!";\nthis system doesn't provide a {bytes}-byte integral type".toList

/-- The ways to show rows that a word names. -/
def rowViewsOf : (fuel : Nat) → ByteText → Except RowFault (List RowView)
  | 0, _ | _, [] => .ok []
  | fuel + 1, letter :: rest => do
    let number (base : Nat) (isSigned : Bool) : Except RowFault (RowView × ByteText) := do
      let (size, rest) := groupSize rest
      let size := size.getD 4
      if size ∈ [1, 2, 4, 8] then return (⟨.number base isSigned, size, false⟩, rest)
      else throw (.size size)
    let (row, rest) ← match letter with
      | 'a' => pure (⟨.named, 1, false⟩, rest)
      | 'c' => pure (⟨.character, 1, false⟩, rest)
      | 'd' => number 10 true
      | 'u' => number 10 false
      | 'o' => number 8 false
      | 'x' => number 16 false
      | _ => throw (.unknown letter)
    match rest with
    | 'z' :: rest => return { row with showsText := true } :: (← rowViewsOf fuel rest)
    | _ => return row :: (← rowViewsOf fuel rest)

/-- The way to show rows that a letter of an option stands for. -/
def rowViewOfLetter? (letter : Char) : Option RowView :=
  match letter with
  | 'a' => some ⟨.named, 1, false⟩
  | 'b' => some ⟨.number 8 false, 1, false⟩
  | 'c' => some ⟨.character, 1, false⟩
  | 'd' => some ⟨.number 10 false, 2, false⟩
  | 'i' => some ⟨.number 10 true, 4, false⟩
  | 'l' => some ⟨.number 10 true, 8, false⟩
  | 'o' => some ⟨.number 8 false, 2, false⟩
  | 's' => some ⟨.number 10 true, 2, false⟩
  | 'x' => some ⟨.number 16 false, 2, false⟩
  | _ => none

/-- The options of the tool that shows bytes. -/
def dumpOptions : OptionTable :=
  OptionTable.of "A:abcdilosxj:N:t:vw::" [("address-radix", .argument, 'A'),
    ("skip-bytes", .argument, 'j'), ("read-bytes", .argument, 'N'), ("format", .argument, 't'),
    ("output-duplicates", .nothing, 'v'), ("width", .joined, 'w')]

/-- The ways to show rows that options ask for. -/
def rowViewsFrom : List (Char × ByteText) → Work (List RowView)
  | [] => return []
  | ('t', word) :: rest => do
    match rowViewsOf (word.length + 1) word with
    | .ok rows => return rows ++ (← rowViewsFrom rest)
    | .error fault => fail 1 (fault.message word)
  | (letter, _) :: rest => do return (rowViewOfLetter? letter).toList ++ (← rowViewsFrom rest)

/-- The number of bytes that an option names. -/
def byteCount (letter : Char) (word : ByteText) : Work Nat := do
  match Numeral.value? word with
  | some number => return number
  | none =>
    fail 1 ("invalid -".toList ++ letter :: " argument ".toList ++ quoted word)

/-- So many bytes of a descriptor at most. -/
def someBytes (name : ByteText) (descriptor : Nat) : (fuel count : Nat) → Work (List ByteText)
  | 0, _ | _, 0 => return []
  | fuel + 1, count => do
    match ← call (.read descriptor (min count readAtOnce)) with
    | .ok [] => return []
    | .ok text => return text :: (← someBytes name descriptor fuel (count - text.length))
    | .error error =>
      fault 1 (name ++ ": ".toList ++ error.reason.toList)
      return []

/-- The bytes of operands one after the other, so many at most if that is wanted. -/
def bytesOf (most : Option Nat) : List ByteText → Work ByteText
  | [] => return []
  | path :: rest => do
    if most = some 0 then return []
    match ← openOperand path with
    | .error error =>
      refusedPlainly path error
      bytesOf most rest
    | .ok descriptor =>
      let text ← match most with
        | none => all (operandName path) descriptor
        | some count => List.flatten <$> someBytes (operandName path) descriptor limit count
      closeOperand descriptor
      return text ++ (← bytesOf (most.map (· - text.length)) rest)

/-- Shows the bytes of files. -/
def od : Main := program fun arguments => do
  let asked ← askedFor dumpOptions arguments
  let rows ← rowViewsFrom asked.options
  let addressing ← match asked.argument? 'A' with
    | none | some ('o' :: _) => pure (Addressing.shown 8 7)
    | some ('d' :: _) => pure (.shown 10 7)
    | some ('x' :: _) => pure (.shown 16 6)
    | some ('n' :: _) => pure .hidden
    | some other =>
      fail 1 ("invalid output address radix '".toList ++ other ++
        "'; it must be one character from [doxn]".toList)
  let skipped := (← (asked.argument? 'j').mapM (byteCount 'j')).getD 0
  let most ← (asked.argument? 'N').mapM (byteCount 'N')
  let width ← (asked.argument? 'w').mapM fun word =>
    if word.isEmpty then pure 32 else byteCount 'w' word
  let wanted := most.map (skipped + ·)
  let bytes ← bytesOf wanted (if asked.operands.isEmpty then [['-']] else asked.operands)
  if bytes.length < skipped then fail 1 "cannot skip past end of combined input".toList
  let bytes := bytes.drop skipped
  let rows := if rows.isEmpty then [⟨.number 8 false, 2, false⟩] else rows
  let largest := (rows.map RowView.size).foldl max 1
  let rowBytes := match width with
    | some count => if count = 0 || count % largest ≠ 0 then largest else count
    | none => 16
  match width with
  | some count =>
    if count ≠ rowBytes then
      complain s!"warning: invalid width {count}; using {rowBytes} instead".toList
  | none => pure ()
  let dump : Dump := { addressing, rows, rowBytes, showsAll := asked.has 'v' }
  if !(asked.operands.isEmpty) && (← get).status ≠ 0 && bytes.isEmpty then return ()
  put (dump.rowsFrom (bytes.length + 1) skipped none false bytes)

end CopyOracle.Tool
