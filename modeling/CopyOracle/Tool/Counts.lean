import CopyOracle.Shell.Printing
import CopyOracle.Tool.Streams

/-!
# Counting

Lines, words and bytes are counted, lines are numbered, and rows of numbers are printed.
-/
namespace CopyOracle.Tool

open Host

/-- Whether a byte parts words. -/
def isGap (c : Char) : Bool := c = ' ' || (9 ≤ c.toNat && c.toNat ≤ 13)

/-- Whether a byte has a shape. -/
def isVisible (c : Char) : Bool := 32 ≤ c.toNat && c.toNat ≤ 126

/-- What is counted in a text. -/
structure Counts where
  /-- The line ends. -/
  lines : Nat := 0
  /-- The words. -/
  words : Nat := 0
  /-- The bytes. -/
  bytes : Nat := 0
  /-- The width of the widest line. -/
  widest : Nat := 0

namespace Counts

/-- The state of counting: the counts, whether a word has begun, and the place in the line. -/
structure State where
  /-- The counts. -/
  counts : Counts := {}
  /-- Whether a word has begun. -/
  isInWord : Bool := false
  /-- The place in the line. -/
  column : Nat := 0

/-- Counts one more byte. -/
def State.step (state : State) (c : Char) : State :=
  let counts := { state.counts with bytes := state.counts.bytes + 1 }
  let endsWord := if state.isInWord then counts.words + 1 else counts.words
  let widest := max counts.widest state.column
  if c = '\n' then
    ⟨{ counts with lines := counts.lines + 1, words := endsWord, widest }, false, 0⟩
  else if c = '\r' || c.toNat = 12 then ⟨{ counts with words := endsWord, widest }, false, 0⟩
  else if c = '\t' then
    ⟨{ counts with words := endsWord }, false, state.column + 8 - state.column % 8⟩
  else if c = ' ' then ⟨{ counts with words := endsWord }, false, state.column + 1⟩
  else if c.toNat = 11 then ⟨{ counts with words := endsWord }, false, state.column⟩
  else if isVisible c then ⟨counts, true, state.column + 1⟩
  else ⟨counts, state.isInWord, state.column⟩

/-- Counts the end of the text. -/
def State.finish (state : State) : Counts :=
  { state.counts with
    words := if state.isInWord then state.counts.words + 1 else state.counts.words
    widest := max state.counts.widest state.column }

/-- The counts of two texts together. -/
def add (left right : Counts) : Counts :=
  ⟨left.lines + right.lines, left.words + right.words, left.bytes + right.bytes,
    max left.widest right.widest⟩

/-- A line with counts of the kinds that are asked for, each in a column of some width. -/
def line (counts : Counts) (kinds : List Char) (width : Nat) (name : Option ByteText) : ByteText :=
  let columns := [('l', counts.lines), ('w', counts.words), ('m', counts.bytes),
    ('c', counts.bytes), ('L', counts.widest)].filterMap fun (kind, count) =>
      if kinds.contains kind then
        let digits := Numeral.digits count
        some (List.replicate (width - digits.length) ' ' ++ digits)
      else none
  [' '].intercalate (columns ++ name.toList)

end Counts

/-- Counts the bytes of a descriptor as they come. -/
def countFrom (name : ByteText) (descriptor : Nat) : (fuel : Nat) → Counts.State →
    Work Counts.State
  | 0, state => return state
  | fuel + 1, state => do
    match ← more name descriptor with
    | [] => return state
    | text => countFrom name descriptor fuel (text.foldl Counts.State.step state)

/-- The size of the file that a descriptor leads to, if it is one: what is left to be read. -/
def sizeAt (files : FileTree) (path : ByteText) : Work (Option (Option Nat)) := do
  if path = ['-'] then
    if (← call (.inspect 0)) = some .file then
      let text ← all path 0
      call (.giveBack 0 text.length)
      return some (some text.length)
    else return some none
  else match files.standing? (ByteText.asString path) with
  | some (.file content _) => return some (some content.size)
  | some _ => return some none
  | none => return none

/-- Counts lines, words and bytes. -/
def wc : Main := program fun arguments => do
  let asked ← askedFor (OptionTable.of "clLmw" [("bytes", .nothing, 'c'),
    ("chars", .nothing, 'm'), ("lines", .nothing, 'l'), ("words", .nothing, 'w'),
    ("max-line-length", .nothing, 'L')]) arguments
  let kinds := if asked.options.isEmpty then ['l', 'w', 'c'] else asked.options.map Prod.fst
  let isPlain := asked.operands.isEmpty
  let paths := if isPlain then [['-']] else asked.operands
  let files ← call .files
  let sizes ← paths.mapM (sizeAt files)
  let width := if kinds.eraseDups.length = 1 && paths.length = 1 then 1
    else
      let known := sizes.filterMap fun size => size
      let total := (known.filterMap fun size => size).foldl (· + ·) 0
      max (if known.any Option.isNone then 7 else 1) (Numeral.digits total).length
  let width := if sizes.head? = some none then 1 else width
  let total ← paths.foldlM (fun (total : Counts) path => do
    let name := if isPlain then none else some path
    match ← openOperand path with
    | .error error =>
      refusedPlainly path error
      return total
    | .ok descriptor =>
      let counts := (← countFrom (operandName path) descriptor limit {}).finish
      putLine (counts.line kinds width name)
      closeOperand descriptor
      return total.add counts) {}
  if 1 < paths.length then putLine (total.line kinds width (some "total".toList))

/-- How lines are numbered. -/
structure Numbering where
  /-- The number of the first line. -/
  first : Nat := 1
  /-- How much a number is above the one before it. -/
  step : Nat := 1
  /-- How wide the numbers are. -/
  width : Nat := 6
  /-- What stands after a number. -/
  separator : ByteText := ['\t']
  /-- Whether blank lines are numbered. -/
  numbersBlank : Bool := false
  /-- Whether no line is numbered. -/
  numbersNone : Bool := false
  /-- Where numbers stand in their column. -/
  format : ByteText := "rn".toList

/-- The lines of a text with numbers in front, from one on, and the next number. -/
def Numbering.lines (numbering : Numbering) (number : Nat) (text : ByteText) : ByteText × Nat :=
  let (reversed, next) := (linesOf text).foldl (fun (done, number) line =>
    if numbering.numbersNone || (line.isEmpty && !numbering.numbersBlank) then
      let blank := List.replicate (numbering.width + numbering.separator.length) ' '
      ((blank ++ line ++ ['\n']) :: done, number)
    else
      let digits := Numeral.digits number
      let missing := numbering.width - digits.length
      let shown := if numbering.format = "ln".toList then digits ++ List.replicate missing ' '
        else if numbering.format = "rz".toList then List.replicate missing '0' ++ digits
        else List.replicate missing ' ' ++ digits
      ((shown ++ numbering.separator ++ line ++ ['\n']) :: done, number + numbering.step))
    (([] : List ByteText), number)
  (reversed.reverse.flatten, next)

/-- Numbers lines. -/
def nl : Main := program fun arguments => do
  let asked ← askedFor (OptionTable.of "b:h:f:i:l:n:ps:v:w:d:") arguments
  let number (letter : Char) (standard : Nat) : Nat :=
    ((asked.argument? letter).bind Numeral.value?).getD standard
  let style := (asked.argument? 'b').getD ['t']
  let numbering : Numbering :=
    { first := number 'v' 1, step := number 'i' 1, width := number 'w' 6
      separator := (asked.argument? 's').getD ['\t']
      numbersBlank := style = ['a'], numbersNone := style = ['n']
      format := (asked.argument? 'n').getD "rn".toList }
  let paths := if asked.operands.isEmpty then [['-']] else asked.operands
  let _ ← paths.foldlM (fun next path => do
    match ← openOperand path with
    | .error error =>
      refusedPlainly path error
      return next
    | .ok descriptor =>
      let text ← all (operandName path) descriptor
      closeOperand descriptor
      let (shown, next) := numbering.lines next text
      put shown
      return next) numbering.first

/-- A decimal number of a row: its value in units of a power of ten, and its places. -/
structure Term where
  /-- The value in units of the last place. -/
  units : Int
  /-- How many places it has after the point. -/
  places : Nat
  /-- How wide it is as it was written, up to its point. -/
  width : Nat

/-- The number that a word spells in plain decimals. -/
def Term.ofWord? (word : ByteText) : Option Term :=
  let (isNegative, digits) := match word with
    | '-' :: digits => (true, digits)
    | '+' :: digits => (false, digits)
    | digits => (false, digits)
  let whole := digits.takeWhile Char.isDigit
  let read (fraction : ByteText) : Option Term :=
    if whole.isEmpty && fraction.isEmpty then none
    else
      let value : Int := Nat.ofDigitChars 10 (whole ++ fraction) 0
      some ⟨if isNegative then -value else value, fraction.length,
        max 1 whole.length + if isNegative then 1 else 0⟩
  match digits.drop whole.length with
  | [] => read []
  | '.' :: fraction => if fraction.all Char.isDigit then read fraction else none
  | 'e' :: exponent =>
    if exponent.isEmpty || !exponent.all Char.isDigit || whole.isEmpty then none
    else
      let value : Int :=
        Nat.ofDigitChars 10 whole 0 * Nat.pow 10 (Nat.ofDigitChars 10 exponent 0)
      some ⟨if isNegative then -value else value, 0, whole.length⟩
  | _ => none

/-- The value of a number in units of a place. -/
def Term.scaled (term : Term) (places : Nat) : Int :=
  term.units * Nat.pow 10 (places - term.places)

/-- A number of units of a place, with at least so many characters, filled with zeros. -/
def decimalText (units : Int) (places width : Nat) : ByteText :=
  let digits := Numeral.digits units.natAbs
  let digits := List.replicate (places + 1 - digits.length) '0' ++ digits
  let whole := digits.take (digits.length - places)
  let fraction := digits.drop (digits.length - places)
  let sign := if units < 0 then ['-'] else []
  let total := sign.length + digits.length + if places = 0 then 0 else 1
  sign ++ List.replicate (width - total) '0' ++ whole ++
    if places = 0 then [] else '.' :: fraction

/-- Prints a row of numbers. -/
def printRow (text : Int → ByteText) (separator : ByteText) (step last : Int) :
    (fuel : Nat) → (isFirst : Bool) → (value : Int) → Work Unit
  | 0, _, _ => return ()
  | fuel + 1, isFirst, value => do
    if (0 < step && last < value) || (step < 0 && value < last) then
      unless isFirst do put ['\n']
    else
      put ((if isFirst then [] else separator) ++ text value)
      printRow text separator step last fuel false (value + step)

/-- How many of the arguments of a row are options: those before the first number. -/
def optionsBefore : (fuel : Nat) → List ByteText → Nat
  | fuel + 1, word :: rest =>
    match word with
    | '-' :: c :: letters =>
      if c.isDigit || c = '.' then 0
      else if c = '-' && letters.isEmpty then 1
      else
        let last := (c :: letters).getLast?
        let takesNext := if c = '-' then
            word = "--separator".toList || word = "--format".toList
          else letters.length < 2 && (last = some 's' || last = some 'f')
        if takesNext then 2 + optionsBefore fuel rest.tail else 1 + optionsBefore fuel rest
    | _ => 0
  | _, _ => 0

/-- Prints numbers from one to another. -/
def seq : Main := program fun arguments => do
  let count := optionsBefore (arguments.length + 1) arguments
  let asked ← askedFor (OptionTable.of "f:s:w" [("format", .argument, 'f'),
    ("separator", .argument, 's'), ("equal-width", .nothing, 'w')] true) (arguments.take count)
  let words := asked.operands ++ arguments.drop count
  let term (word : ByteText) : Work Term := do
    match Term.ofWord? word with
    | some term => return term
    | none => misuse 1 ("invalid floating point argument: ".toList ++ quoted word)
  let (start, step, last) ← match words with
    | [] => missingOperand
    | [last] => pure (['1'], ['1'], last)
    | [start, last] => pure (start, ['1'], last)
    | [start, step, last] => pure (start, step, last)
    | _ :: _ :: _ :: extra :: _ => misuse 1 ("extra operand ".toList ++ quoted extra)
  let startTerm ← term start
  let stepTerm ← term step
  let lastTerm ← term last
  if stepTerm.units = 0 then misuse 1 ("invalid Zero increment value: ".toList ++ quoted step)
  let places := max startTerm.places stepTerm.places
  let all := max places lastTerm.places
  let dot := if places = 0 then 0 else places + 1
  let width := if asked.has 'w' then
      max (startTerm.width + dot) (lastTerm.width + dot) else 0
  let text (units : Int) : ByteText :=
    decimalText (units.tdiv (Nat.pow 10 (all - places))) places width
  let text := match asked.argument? 'f' with
    | none => text
    | some format => fun units =>
      (Shell.Printing.format format [decimalText units all 0]).output
  printRow text ((asked.argument? 's').getD ['\n']) (stepTerm.scaled all) (lastTerm.scaled all)
    limit true (startTerm.scaled all)

end CopyOracle.Tool
