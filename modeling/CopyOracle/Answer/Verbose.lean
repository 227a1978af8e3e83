import CopyOracle.Answer.Basic

/-!
# The verbose dialect

A labelled report has three parts, found by their labels in English or Polish wherever they
stand: the line with the cost, the list of copies, and the matrix of the extended graph.

    Extension cost: 2
    Mappings:
      Copy 1: 0->1, 1->2
    Extended graph:
    0 1 0

The list of copies ends where the matrix begins, if that comes later, and otherwise at the end.
Copies are numbered from one. A number that is not listed below the highest leaves an unassigned
copy, and a number above the copies asked for is kept at the end, so that either is found wrong
when the answer is checked. A matrix row may carry its number in square brackets.
-/
namespace CopyOracle.Verbose

/-- The labels of the cost. -/
def costLabels : List Text := ["Extension cost:".toList, "Koszt rozszerzenia:".toList]

/-- The labels of the list of copies. -/
def mappingLabels : List Text := ["Mappings:".toList, "Mapowania:".toList]

/-- The labels of the matrix. -/
def extendedLabels : List Text := ["Extended graph".toList, "Rozszerzony graf".toList]

/-- The short labels of the matrix, which count when no full label occurs. -/
def shortLabels : List Text := ["G'2".toList, "G'_2".toList]

/-- The words that start the line of a copy, in small letters. -/
def copyLabels : List Text := ["copy".toList, "kopia".toList]

/-- Whether one of the labels occurs in the text. -/
def containsAny (text : Text) (labels : List Text) : Bool := labels.any text.contains

/-- What follows the first label of the list that occurs. -/
def afterLabel? (text : Text) (labels : List Text) : Option Text :=
  labels.findSome? fun label => text.after? label

/-- The cost: the digits that follow the first cost label. -/
def readCost (lines : List Line) : Except AnswerError UInt64 :=
  let labelled := lines.findSome? fun line =>
    (afterLabel? line.content costLabels).map fun rest => (line.number, rest.trimStart)
  match labelled with
  | none => .error (.missingPart .verbose .extensionCost)
  | some (number, rest) =>
    match rest.takeWhile Char.isDigit with
    | [] => .error (.invalidInteger number (.ofList rest))
    | digits => AnswerError.readWord number digits

/-- Where the label of the matrix stands: the first full label, or else the first short one that
is on no cost line. -/
def extendedHeader? (lines : List Line) : Option Nat :=
  (lines.findIdx? fun line => containsAny line.content extendedLabels).or
    (lines.findIdx? fun line =>
      containsAny line.content shortLabels && !containsAny line.content costLabels)

/-- The number and the assignments on the line of a copy. -/
def copyLine? (content : Text) : Option (Text × Text) := do
  let label ← copyLabels.find? fun label => label.isPrefixOf content.lower
  let (number, assignments) ← Text.cut? (content.drop label.length) [':']
  let digits := number.trim
  if !digits.isEmpty && digits.all Char.isDigit then some (digits, assignments) else none

/-- The tokens of the assignments of a copy: the pieces between commas and white space. -/
def assignmentTokens (assignments : Text) : List Text :=
  assignments.splitOnP fun c => c == ',' || Text.isBlank c

/-- The mapping with the assignment of a token made; a token without an arrow makes none. -/
def assign (order line copy : Nat) (mapping : Mapping) (token : Text) :
    Except AnswerError Mapping :=
  match token.cut? ['-', '>'] with
  | none => .ok mapping
  | some (left, right) => do
    let vertex ← AnswerError.readSize line left
    let target ← AnswerError.readSize line right
    match mapping.set? vertex target with
    | some assigned => .ok assigned
    | none => .error (.sourceOutOfRange line copy vertex order)

/-- The copies listed so far, ascending by number, with one more. -/
def insertCopy (copy : Nat) (mapping : Mapping) : List (Nat × Mapping) → List (Nat × Mapping)
  | [] => [(copy, mapping)]
  | (other, listed) :: rest =>
    if copy < other then (copy, mapping) :: (other, listed) :: rest
    else (other, listed) :: insertCopy copy mapping rest

/-- The copies listed so far with that of a line; a line of another shape lists none. -/
def listCopy (sizes : Sizes) (listed : List (Nat × Mapping)) (line : Line) :
    Except AnswerError (List (Nat × Mapping)) :=
  match copyLine? line.content with
  | none => .ok listed
  | some (number, assignments) => do
    let copy ← AnswerError.readSize line.number number
    if copy = 0 then .error (.copyOutOfRange line.number copy sizes.copies)
    else if listed.any fun earlier => earlier.1 == copy then
      .error (.duplicateCopy line.number copy)
    else
      let mapping ← (assignmentTokens assignments).foldlM
        (assign sizes.pattern line.number copy) (.unassigned sizes.pattern)
      .ok (insertCopy copy mapping listed)

/-- The copies by number: those up to the number asked for at their places, a place without a
copy unassigned, and the copies above it after them in order. The places are as many as the highest
number listed or the number asked for, whichever is smaller. There is room for any number of them
here; a program cannot allocate them when both numbers are huge. -/
def arrange (sizes : Sizes) (listed : List (Nat × Mapping)) : List Mapping :=
  let highest := (listed.getLast?.map Prod.fst).getD 0
  let places := min highest sizes.copies
  ((List.range places).map fun place =>
    (listed.lookup (place + 1)).getD (.unassigned sizes.pattern)) ++
  (listed.filter fun copy => places < copy.1).map Prod.snd

/-- The lines of the list of copies: those after its label, up to that of the matrix if it comes
later. -/
def mappingLines? (lines : List Line) : Option (List Line) :=
  (lines.findIdx? fun line => containsAny line.content mappingLabels).map fun header =>
    match (extendedHeader? lines).filter (header < ·) with
    | some last => (lines.take last).drop (header + 1)
    | none => lines.drop (header + 1)

/-- The listed copies, arranged. -/
def readMappings (sizes : Sizes) (lines : List Line) : Except AnswerError (List Mapping) :=
  match mappingLines? lines with
  | none => .error (.missingPart .verbose .mappings)
  | some listing => (listing.foldlM (listCopy sizes) []).map (arrange sizes)

/-- The row without its number in square brackets. -/
def stripRowLabel (content : Text) : Text :=
  match content with
  | '[' :: rest =>
    match Text.cut? rest [']'] with
    | some (_, row) => row.trimStart
    | none => content
  | _ => content

/-- Whether a text starts like a row of numbers. -/
def startsLikeRow : Text → Bool
  | [] => false
  | c :: _ => c.isDigit || c == '-' || c == '+'

/-- Whether a line between the rows is passed over: a blank one, or one of the list of copies. -/
def isPassedOver (content : Text) : Bool :=
  content.isEmpty || (copyLine? content).isSome || containsAny content mappingLabels

/-- The numbers of a row. -/
def readEntries (line : Nat) (row : Text) : Except AnswerError (List UInt32) :=
  row.words.mapM fun token =>
    match Numeral.readWord32? token with
    | some entry => .ok entry
    | none => .error (.invalidInteger line (.ofList token))

/-- The next `count` rows with the numbers of their lines; fewer when a line comes first that
does not start like a row. -/
def readRows : (count : Nat) → List Line → Except AnswerError (List (Nat × List UInt32))
  | 0, _ => .ok []
  | _, [] => .ok []
  | count + 1, line :: later =>
    if isPassedOver line.content then readRows (count + 1) later
    else
      let row := stripRowLabel line.content
      if startsLikeRow row then do
        let entries ← readEntries line.number row
        let rows ← readRows count later
        .ok ((line.number, entries) :: rows)
      else .ok []

/-- The graph of the rows; a row of a wrong length is reported with its line. -/
def graphOfRows (rows : List (Nat × List UInt32)) : Except AnswerError Graph :=
  match Graph.ofRows (rows.map Prod.snd) with
  | .ok graph => .ok graph
  | .error (.notSquare row expected actual) =>
    .error (.rowLength ((rows[row]?.map Prod.fst).getD 0) row expected actual)
  | .error other => .error (.invalidMatrix other)

/-- The extended graph on the lines after its label. -/
def readExtended (order : Nat) (lines : List Line) : Except AnswerError Graph := do
  let rows ← readRows order lines
  if rows.length < order then .error (.missingRows order rows.length) else graphOfRows rows

/-- The answer on the lines of a report. The parts are read in the order cost, copies, matrix,
whatever the order in which they stand. -/
def ofLines (sizes : Sizes) (lines : List Line) : Except AnswerError Answer := do
  let cost ← readCost lines
  let copies ← readMappings sizes lines
  match extendedHeader? lines with
  | none => .error (.missingPart .verbose .extendedGraph)
  | some header => do
    let extended ← readExtended sizes.target (lines.drop (header + 1))
    .ok ⟨extended, some copies, cost⟩

/-- The answer that a report holds, for a case of the given sizes. -/
def read (sizes : Sizes) (text : Text) : Except AnswerError Answer :=
  ofLines sizes text.numberedLines

end CopyOracle.Verbose
