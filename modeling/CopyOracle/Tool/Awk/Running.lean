import CopyOracle.Tool.Awk.Reader
import CopyOracle.Tool.Awk.Table
import CopyOracle.Tool.Children
import CopyOracle.Tool.Streams

/-!
# Running programs for records

The state of a program holds its variables and tables, the record with its fields, and the streams
that are open. Fields are taken out of the record when one is asked for, and the record is put
together again after one was changed.
-/
namespace CopyOracle.Tool.Awk

open Host

/-- What a name of a function stands for. -/
inductive Slot where
  /-- A value. -/
  | plain (value : Value)
  /-- A table. -/
  | table (index : Nat)
  /-- Nothing yet, or a table if it is used as one. -/
  | undecided (index : Nat)
deriving Inhabited

/-- A stream that is written. -/
structure Output where
  /-- Its path or command. -/
  name : ByteText
  /-- Its descriptor. -/
  descriptor : Nat
  /-- The child that reads it, if it is a command. -/
  child : Option Nat
  /-- What is held back in pieces, the last one first. -/
  pieces : List ByteText := []
  /-- How much is held back. -/
  held : Nat := 0

/-- A stream that is read. -/
structure Input where
  /-- Its path or command. -/
  name : ByteText
  /-- What is read of it. -/
  source : Source
  /-- The child that writes it, if it is a command. -/
  child : Option Nat

/-- The state of a program. -/
structure State where
  /-- The variables. -/
  globals : Std.HashMap String Value := {}
  /-- The tables. -/
  tables : Array Table := #[]
  /-- The tables of names. -/
  tableOf : Std.HashMap String Nat := {}
  /-- What the names of the function that runs stand for. -/
  frame : List (String × Slot) := []
  /-- The record. -/
  record : ByteText := []
  /-- The fields, if they were taken out of the record. -/
  fields : Option (Array Value) := none
  /-- Whether the record does not follow from its fields. -/
  isStale : Bool := false
  /-- The regular expressions of texts. -/
  finders : Std.HashMap ByteText Regex.Finder := {}
  /-- For each rule whether it is within its range. -/
  within : Array Bool := #[]
  /-- The number of the next argument. -/
  argument : Nat := 1
  /-- The input that is read. -/
  source : Option Source := none
  /-- Whether some input was opened. -/
  hasInput : Bool := false
  /-- The streams that are written. -/
  outputs : List Output := []
  /-- The streams that are read. -/
  inputs : List Input := []
  /-- What numbers at random follow from. -/
  seed : Nat := 1
  /-- What they followed from before. -/
  lastSeed : Float := 0.0
  /-- The status with which the program ends. -/
  status : Nat := 0
  /-- How many turns loops took. -/
  turns : Nat := 0

/-- Why the statements after one are not done. -/
inductive Leave where
  /-- The loop is over. -/
  | leaveLoop
  /-- The loop goes on with its next turn. -/
  | nextTurn
  /-- The next record comes. -/
  | next
  /-- The next file comes. -/
  | nextFile
  /-- The input is over. -/
  | exit
  /-- The function gives a value. -/
  | giveBack (value : Value)

/-- Running a part of a program. -/
abbrev Run := ExceptT Leave (StateT State Work)

/-- What a part of a program comes to. -/
def attempt {α : Type} (part : Run α) : Run (Except Leave α) := ExceptT.lift part.run

/-- Something that a tool does. -/
def work {α : Type} (part : Work α) : Run α := ExceptT.lift (StateT.lift part)

/-- The answer of the system. -/
def ask (asked : Call) : Run asked.Answer := work (call asked)

/-- The value of a variable of the whole program. -/
def globalValue (name : String) : Run Value := return ((← get).globals.get? name).getD .unset

/-- Gives a value to a variable of the whole program. -/
def setGlobal (name : String) (value : Value) : Run Unit :=
  modify fun state => { state with globals := state.globals.insert name value }

/-- The format for numbers that become texts. -/
def format : Run ByteText := return (← globalValue "CONVFMT").toText "%.6g".toList

/-- The text of a value. -/
def textOf (value : Value) : Run ByteText := do
  match value with
  | .text text | .numeric text _ => return text
  | .unset => return []
  | .number number =>
    match integer? number with
    | some whole => return integerText whole
    | none => return value.toText (← format)

/-- The text of a variable of the whole program. -/
def globalText (name : String) : Run ByteText := do textOf (← globalValue name)

/-- The stream with all that was held back written. -/
def Output.flushed (output : Output) : Run Output := do
  unless output.pieces.isEmpty do
    let _ ← ask (.write output.descriptor output.pieces.reverse.flatten)
  return { output with pieces := [], held := 0 }

/-- Writes all that is held back. -/
def flushAll : Run Unit := do
  work flush
  let outputs ← (← get).outputs.mapM Output.flushed
  modify fun state => { state with outputs }

/-- Ends the program because of a fault that shows only now. -/
def failNow {α : Type} (wording : ByteText) : Run α := do
  let file ← globalText "FILENAME"
  let count ← globalText "FNR"
  let total ← globalText "NR"
  flushAll
  work (fail 2 ("run time error: ".toList ++ wording ++ "\n\tFILENAME=\"".toList ++ file ++
    "\" FNR=".toList ++ count ++ " NR=".toList ++ total))

/-- The regular expression of a text. -/
def finderOf (source : ByteText) : Run Regex.Finder := do
  match (← get).finders.get? source with
  | some finder => return finder
  | none =>
    match Regex.read written source with
    | .ok regex =>
      let finder := Regex.finder regex
      modify fun state => { state with finders := state.finders.insert source finder }
      return finder
    | .error fault =>
      failNow ("regular expression compile failed (".toList ++ (patternWording fault).toList ++
        ")\n".toList ++ source)

/-- A text taken apart where an expression fits. -/
def cutAt (finder : Regex.Finder) (text : Array Char) : (fuel : Nat) → (start position : Nat) →
    List ByteText
  | 0, _, _ => []
  | fuel + 1, start, position =>
    match finder.search text position with
    | none => [(text.extract start text.size).toList]
    | some found =>
      if found.stop = found.start then
        if text.size ≤ found.start then [(text.extract start text.size).toList]
        else cutAt finder text fuel start (found.start + 1)
      else (text.extract start found.start).toList :: cutAt finder text fuel found.stop found.stop

/-- A text taken apart by a separator. -/
def cutBy (separator text : ByteText) : Run (List ByteText) := do
  if text.isEmpty then return []
  match separator with
  | [' '] => return (text.splitOnP isGap).filter fun word => !word.isEmpty
  | [] => return text.map fun c => [c]
  | [c] => return text.splitOn c
  | source =>
    let characters := text.toArray
    return cutAt (← finderOf source) characters (characters.size + 2) 0 0

/-- The fields of a record. -/
def fieldsOf (record : ByteText) : Run (Array Value) := do
  let separator ← globalText "FS"
  let isParagraph := (← globalText "RS").isEmpty
  let pieces ← if isParagraph && separator ≠ [' '] then
      pure (← (linesOf record).mapM (cutBy separator)).flatten
    else cutBy separator record
  return (pieces.map Value.ofInput).toArray

/-- Gives the record a text. -/
def setRecord (record : ByteText) : Run Unit :=
  modify fun state => { state with record, fields := none, isStale := false }

/-- The fields. -/
def getFields : Run (Array Value) := do
  let state ← get
  match state.fields with
  | some fields => return fields
  | none =>
    let fields ← fieldsOf state.record
    modify fun state => { state with fields := some fields }
    return fields

/-- The record, put together again if a field was changed. -/
def getRecord : Run ByteText := do
  let state ← get
  if state.isStale then
    let separator ← globalText "OFS"
    let texts ← (state.fields.getD #[]).toList.mapM textOf
    let record := separator.intercalate texts
    modify fun state => { state with record, isStale := false }
    return record
  else return state.record

/-- A field. -/
def getField (number : Nat) : Run Value := do
  if number = 0 then return .ofInput (← getRecord)
  else return ((← getFields)[number - 1]?).getD .unset

/-- Gives a field a value. -/
def setField (number : Nat) (value : Value) : Run Unit := do
  if number = 0 then setRecord (← textOf value)
  else
    let fields ← getFields
    let padded := if fields.size < number then
        fields ++ Array.replicate (number - fields.size) Value.unset else fields
    modify fun state =>
      { state with fields := some (padded.set! (number - 1) value), isStale := true }

/-- Changes the number of fields. -/
def setFieldCount (count : Nat) : Run Unit := do
  let fields ← getFields
  let sized := fields.extract 0 count ++ Array.replicate (count - fields.size) Value.unset
  modify fun state => { state with fields := some sized, isStale := true }

/-- The value of a name. -/
def valueOf (name : String) : Run Value := do
  match (← get).frame.lookup name with
  | some (.plain value) => return value
  | some _ => return .unset
  | none =>
    if name = "NF" then return .number (Float.ofNat (← getFields).size) else globalValue name

/-- The names of a function with another meaning for one of them. -/
def withSlot (name : String) (slot : Slot) : List (String × Slot) → List (String × Slot)
  | [] => []
  | (other, standing) :: rest =>
    if other = name then (name, slot) :: rest else (other, standing) :: withSlot name slot rest

/-- The size that a number stands for. -/
def sizeOf (x : Float) : Nat := if x < 0.0 then 0 else x.toUInt64.toNat

/-- Gives a name a value. -/
def setValue (name : String) (value : Value) : Run Unit := do
  let state ← get
  if (state.frame.lookup name).isSome then
    set { state with frame := withSlot name (.plain value) state.frame }
  else if name = "NF" then setFieldCount (sizeOf value.toFloat)
  else
    if name = "FS" then
      let _ ← getFields
    setGlobal name value

/-- A table with nothing in it. -/
def freshTable : Run Nat := do
  let state ← get
  set { state with tables := state.tables.push {} }
  return state.tables.size

/-- The table of a name, which is used as one from now on. -/
def tableIndex (name : String) : Run Nat := do
  let state ← get
  let use (index : Nat) : Run Nat := do
    modify fun state =>
      { state with tables := state.tables.modify index fun table => { table with isUsed := true } }
    return index
  match state.frame.lookup name with
  | some (.table index) => return index
  | some (.undecided index) =>
    set { state with frame := withSlot name (.table index) state.frame }
    use index
  | some (.plain _) =>
    let index ← freshTable
    modify fun state => { state with frame := withSlot name (.table index) state.frame }
    use index
  | none =>
    match state.tableOf.get? name with
    | some index => return index
    | none =>
      let index ← freshTable
      modify fun state => { state with tableOf := state.tableOf.insert name index }
      use index

/-- The subscript that values stand for. -/
def subscriptOf (values : List Value) : Run Subscript := do
  match values with
  | [.number number] =>
    match integer? number with
    | some whole => return .whole whole
    | none => return .text (← textOf (.number number))
  | [value] => return .text (← textOf value)
  | values => return .text ((← globalText "SUBSEP").intercalate (← values.mapM textOf))

/-- The value of a subscript of a table, which holds it afterwards. -/
def elementOf (index : Nat) (subscript : Subscript) : Run Value := do
  let table := ((← get).tables[index]?).getD {}
  match table.get? subscript with
  | some value =>
    if let .text _ := subscript then
      modify fun state =>
        { state with tables := state.tables.modify index fun table => table.put subscript value }
    return value
  | none =>
    modify fun state =>
      { state with tables := state.tables.modify index fun table => table.put subscript .unset }
    return .unset

/-- Something that holds a value. -/
inductive Holder where
  /-- A variable. -/
  | variable (name : String)
  /-- A field. -/
  | field (number : Nat)
  /-- An element of a table. -/
  | element (index : Nat) (subscript : Subscript)

/-- The value that something holds. -/
def Holder.get : Holder → Run Value
  | .variable name => valueOf name
  | .field number => getField number
  | .element index subscript => elementOf index subscript

/-- Gives something a value. -/
def Holder.set (holder : Holder) (value : Value) : Run Unit :=
  match holder with
  | .variable name => setValue name value
  | .field number => setField number value
  | .element index subscript =>
    modify fun state =>
      { state with tables := state.tables.modify index fun table => table.put subscript value }

/-- The number of a field that a value stands for. -/
def fieldNumber (value : Value) : Run Nat := do
  let x := value.toFloat
  if x < 0.0 then
    failNow ("negative field index $".toList ++ integerText (-((-x).toUInt64.toNat : Int)))
  else return x.toUInt64.toNat

/-- Takes the next record out of a text that holds all that is left. -/
def recordIn (separator text : ByteText) : Run (Option ByteText × ByteText) := do
  match separator with
  | [] =>
    let text := text.dropWhile (· = '\n')
    if text.isEmpty then return (none, [])
    let lines := text.splitOn '\n'
    let record := lines.takeWhile fun line => !line.isEmpty
    let rest := ['\n'].intercalate (lines.drop (record.length + 1))
    return (some (['\n'].intercalate record), rest)
  | [c] =>
    if text.isEmpty then return (none, [])
    let record := text.takeWhile (· ≠ c)
    return (some record, text.drop (record.length + 1))
  | source =>
    if text.isEmpty then return (none, [])
    let characters := text.toArray
    match (← finderOf source).search characters with
    | none => return (some text, [])
    | some found =>
      if found.stop = found.start then return (some text, [])
      return (some (characters.extract 0 found.start).toList,
        (characters.extract found.stop characters.size).toList)

/-- The next record of a stream. -/
def recordFrom (name : ByteText) (source : Source) : Run (Option ByteText × Source) := do
  let separator ← globalText "RS"
  if separator = ['\n'] then
    let (found, source) ← work (nextLine name source)
    return (found.map Prod.fst, source)
  else
    let text ← if source.isOver then pure source.ahead
      else do pure (source.ahead ++ (← work (all name source.descriptor)))
    let (record, rest) ← recordIn separator text
    return (record, { source with ahead := rest, isOver := true })

/-- The name and the value of an argument that gives a variable a value. -/
def assignment? (word : ByteText) : Option (String × ByteText) :=
  let name := word.takeWhile fun c => c.isAlphanum || c = '_'
  match name, word.drop name.length with
  | c :: _, '=' :: value =>
    if Token.beginsName c then some (String.ofList name, Token.resolve (value.length + 1) value)
    else none
  | _, _ => none

/-- Opens a file as the input. -/
def openInput (path : ByteText) : Run Unit := do
  match ← work (openOperand path) with
  | .error error =>
    work (fail 2 ("cannot open \"".toList ++ path ++ "\" (".toList ++ error.reason.toList ++ [')']))
  | .ok descriptor =>
    if (← ask (.inspect descriptor)) = some .directory then
      work (fail 2 "read error (Is a directory)".toList)
    setGlobal "FILENAME" (.text path)
    setGlobal "FNR" (.number 0.0)
    modify fun state => { state with source := some { descriptor }, hasInput := true }

/-- Opens the next input among the arguments; says whether there is one. -/
def openNext : (fuel : Nat) → Run Bool
  | 0 => return false
  | fuel + 1 => do
    let state ← get
    let count := sizeOf (← globalValue "ARGC").toFloat
    if count ≤ state.argument then
      if state.hasInput then return false
      else
        openInput ['-']
        return true
    else
      let index ← tableIndex "ARGV"
      let table := ((← get).tables[index]?).getD {}
      let word ← textOf ((table.get? (.whole state.argument)).getD .unset)
      modify fun state => { state with argument := state.argument + 1 }
      if word.isEmpty then openNext fuel
      else match assignment? word with
      | some (name, value) =>
        setValue name (.ofInput value)
        openNext fuel
      | none =>
        openInput word
        return true

/-- The next record of the input. -/
def nextRecord : (fuel : Nat) → Run (Option ByteText)
  | 0 => return none
  | fuel + 1 => do
    match (← get).source with
    | none => if ← openNext limit then nextRecord fuel else return none
    | some source =>
      match ← recordFrom (← globalText "FILENAME") source with
      | (some record, source) =>
        modify fun state => { state with source := some source }
        return some record
      | (none, source) =>
        work (closeOperand source.descriptor)
        modify fun state => { state with source := none }
        nextRecord fuel

/-- Counts one more record. -/
def countRecord (names : List String) : Run Unit :=
  names.forM fun name => do
    setGlobal name (.number ((← globalValue name).toFloat + 1.0))

/-- The variables of the surroundings for programs that are started. -/
def surroundings : Run (List ByteText) := return (← work get).environment

/-- Ends the streams that lead to or from commands, apart from its own, in a child. -/
def leaveDescriptors (descriptors : List Nat) : Program Unit :=
  descriptors.forM fun descriptor => do
    let _ ← Program.ask (.close descriptor)

/-- Opens a stream to be written. -/
def openOutput (kind : OutputKind) (name : ByteText) : Run Unit := do
  match kind with
  | .pipe =>
    flushAll
    let (reading, writing) ← ask .pipe
    let environment ← surroundings
    let child ← work (start do
      let _ ← Program.ask (.duplicate reading 0)
      leaveDescriptors [reading, writing]
      becomeShell "/bin/sh" name environment)
    let _ ← ask (.close reading)
    let output : Output := { name, descriptor := writing, child := some child }
    modify fun state => { state with outputs := output :: state.outputs }
  | _ =>
    match ← ask (.openFile name (if kind = .append then .append else .write)) with
    | .ok descriptor =>
      let output : Output := { name, descriptor, child := none }
      modify fun state => { state with outputs := output :: state.outputs }
    | .error error =>
      work (fail 2 ("cannot open \"".toList ++ name ++ "\" for output (".toList ++
        error.reason.toList ++ [')']))

/-- Prints a text where it is to go. -/
def printTo (target : Option (OutputKind × ByteText)) (text : ByteText) : Run Unit := do
  match target with
  | none => work (put text)
  | some (kind, name) =>
    if kind ≠ .pipe && (name = "/dev/stdout".toList || name = ['-']) then work (put text)
    else if kind ≠ .pipe && name = "/dev/stderr".toList then
      let _ ← ask (.write 2 text)
    else
      unless (← get).outputs.any fun output => output.name = name do openOutput kind name
      let outputs ← (← get).outputs.mapM fun output => do
        if output.name ≠ name then return output
        let output := { output with
          pieces := text :: output.pieces, held := output.held + text.length }
        if heldAtMost ≤ output.held then output.flushed else return output
      modify fun state => { state with outputs }

/-- The stream of a name that is read, opened if it was not; none if it cannot be opened. -/
def inputOf (isCommand : Bool) (name : ByteText) : Run (Option Input) := do
  match (← get).inputs.find? fun input => input.name = name with
  | some input => return some input
  | none =>
    if isCommand then
      flushAll
      let (reading, writing) ← ask .pipe
      let environment ← surroundings
      let child ← work (start do
        let _ ← Program.ask (.duplicate writing 1)
        leaveDescriptors [reading, writing]
        becomeShell "/bin/sh" name environment)
      let _ ← ask (.close writing)
      return some ⟨name, { descriptor := reading }, some child⟩
    else match ← work (openOperand name) with
    | .ok descriptor => return some ⟨name, { descriptor }, none⟩
    | .error _ => return none

/-- The next record of a stream of a name, and whether the stream could be opened. -/
def recordOf (isCommand : Bool) (name : ByteText) : Run (Option ByteText × Bool) := do
  match ← inputOf isCommand name with
  | none => return (none, false)
  | some input =>
    let (record, source) ← recordFrom name input.source
    modify fun state =>
      { state with
        inputs := { input with source } :: state.inputs.filter fun other => other.name ≠ name }
    return (record, true)

/-- The status of a command that ended. -/
def statusOf : Ending → Nat
  | .exited status => status
  | .killed signal => 256 + signal

/-- Ends a stream that is written. -/
def closeOutput (output : Output) : Run Nat := do
  let output ← output.flushed
  let _ ← ask (.close output.descriptor)
  match output.child with
  | none => return 0
  | some child => return statusOf (← work (awaitChild child limit))

/-- Ends the streams of a name. -/
def closeStream (name : ByteText) : Run Float := do
  let state ← get
  match state.outputs.find? fun output => output.name = name,
      state.inputs.find? fun input => input.name = name with
  | some output, _ =>
    work flush
    set { state with outputs := state.outputs.filter fun other => other.name ≠ name }
    return Float.ofNat (← closeOutput output)
  | none, some input =>
    set { state with inputs := state.inputs.filter fun other => other.name ≠ name }
    let _ ← ask (.close input.source.descriptor)
    match input.child with
    | none => return 0.0
    | some child => return Float.ofNat (statusOf (← work (awaitChild child limit)))
  | none, none => return -1.0

/-- The pieces of a replacement for a text that was found. -/
def replacementFor (found : ByteText) : (fuel : Nat) → ByteText → ByteText
  | 0, _ | _, [] => []
  | fuel + 1, '\\' :: '&' :: rest => '&' :: replacementFor found fuel rest
  | fuel + 1, '\\' :: '\\' :: '&' :: rest => '\\' :: found ++ replacementFor found fuel rest
  | fuel + 1, '&' :: rest => found ++ replacementFor found fuel rest
  | fuel + 1, c :: rest => c :: replacementFor found fuel rest

/-- A text with finds replaced from a place on, in pieces with the last one first, and how many
were. An empty find right after another one does not count. -/
def replaced (finder : Regex.Finder) (replacement : ByteText) (isGlobal : Bool)
    (text : Array Char) : (fuel : Nat) → (start : Nat) → (stopped : Option Nat) → (count : Nat) →
    List ByteText → List ByteText × Nat
  | 0, _, _, count, pieces => (pieces, count)
  | fuel + 1, start, stopped, count, pieces =>
    let finish (_ : Unit) := ((text.extract start text.size).toList :: pieces, count)
    if text.size < start then finish ()
    else match finder.search text start with
    | none => finish ()
    | some found =>
      let before := (text.extract start found.start).toList
      let next := (text.extract found.stop (found.stop + 1)).toList
      if found.stop = found.start && stopped = some found.start then
        replaced finder replacement isGlobal text fuel (found.stop + 1) none count
          (next :: before :: pieces)
      else
        let fitting := (text.extract found.start found.stop).toList
        let piece := replacementFor fitting (replacement.length + 1) replacement
        if !isGlobal then
          ((text.extract found.stop text.size).toList :: piece :: before :: pieces, count + 1)
        else if found.stop = found.start then
          replaced finder replacement isGlobal text fuel (found.stop + 1) none (count + 1)
            (next :: piece :: before :: pieces)
        else
          replaced finder replacement isGlobal text fuel found.stop (some found.stop) (count + 1)
            (piece :: before :: pieces)

/-- A double without its fraction. -/
def cut (x : Float) : Float := if x < 0.0 then x.ceil else x.floor

/-- A part of a text, from a place on and of a length. A start before the text makes the part
longer by as much. -/
def part (text : ByteText) (start : Float) (length : Option Float) : ByteText :=
  let start := cut start
  match length with
  | none => text.drop (sizeOf (start - 1.0))
  | some length =>
    let length := cut length
    let length := if start < 0.0 then length - start else length
    (text.drop (sizeOf (start - 1.0))).take (sizeOf (if 1.0e9 < length then 1.0e9 else length))

/-- Counts one more turn of a loop. -/
def countTurn : Run Unit := do
  let state ← get
  set { state with turns := state.turns + 1 }
  if state.turns % 16 = 0 then ask .work

/-- The expression that something is to fit, where a text stands for one as well. -/
def literal? : Expr → Option Regex.Finder
  | .pattern finder => some finder
  | _ => none

mutual

/-- The value of an expression. -/
def evaluate (code : Code) : (fuel : Nat) → Expr → Run Value
  | 0, _ => failNow "function call nesting too deep".toList
  | fuel + 1, expr => do
    match expr with
    | .number number => return .number number
    | .text text => return .text text
    | .pattern finder => return .ofBool (finder.search (← getRecord).toArray).isSome
    | .name name => valueOf name
    | .field number => getField (← fieldNumber (← evaluate code fuel number))
    | .element table subscripts =>
      elementOf (← tableIndex table) (← subscriptOf (← evaluateAll code fuel subscripts))
    | .tuple items =>
      return .text ((← globalText "SUBSEP").intercalate
        (← (← evaluateAll code fuel items).mapM textOf))
    | .assign target given =>
      let place ← holder code fuel target
      let value ← evaluate code fuel given
      place.set value
      return value
    | .update operation target given =>
      let place ← holder code fuel target
      let change := (← evaluate code fuel given).toFloat
      let value := Value.number (operation.apply (← place.get).toFloat change)
      place.set value
      return value
    | .step isUp isBefore target =>
      let place ← holder code fuel target
      let before := (← place.get).toFloat
      let after := if isUp then before + 1.0 else before - 1.0
      place.set (.number after)
      return .number (if isBefore then after else before)
    | .choice condition first second =>
      if (← evaluate code fuel condition).isTrue then evaluate code fuel first
      else evaluate code fuel second
    | .both first second =>
      if (← evaluate code fuel first).isTrue then
        return .ofBool (← evaluate code fuel second).isTrue
      else return .ofBool false
    | .either first second =>
      if (← evaluate code fuel first).isTrue then return .ofBool true
      else return .ofBool (← evaluate code fuel second).isTrue
    | .not body => return .ofBool !(← evaluate code fuel body).isTrue
    | .negative body => return .number (-(← evaluate code fuel body).toFloat)
    | .positive body => return .number (← evaluate code fuel body).toFloat
    | .fits isNegated text pattern =>
      let text ← textOf (← evaluate code fuel text)
      let finder ← match literal? pattern with
        | some finder => pure finder
        | none => do finderOf (← textOf (← evaluate code fuel pattern))
      return .ofBool ((finder.search text.toArray).isSome != isNegated)
    | .contains subscripts table =>
      let subscript ← subscriptOf (← evaluateAll code fuel subscripts)
      let index ← tableIndex table
      return .ofBool ((((← get).tables[index]?).getD {}).get? subscript).isSome
    | .compare comparison first second =>
      let left ← evaluate code fuel first
      let right ← evaluate code fuel second
      return .ofBool (comparison.decide (← format) left right)
    | .join first second =>
      let left ← textOf (← evaluate code fuel first)
      return .text (left ++ (← textOf (← evaluate code fuel second)))
    | .operate operation first second =>
      let left := (← evaluate code fuel first).toFloat
      return .number (operation.apply left (← evaluate code fuel second).toFloat)
    | .call name arguments => callFunction code fuel name arguments
    | .builtin builtin arguments => callBuiltin code fuel builtin arguments
    | .readRecord target =>
      match ← nextRecord limit with
      | none => return .number 0.0
      | some record =>
        countRecord ["NR", "FNR"]
        readInto code fuel target record
    | .readFile path target =>
      let path ← textOf (← evaluate code fuel path)
      match ← recordOf false path with
      | (_, false) => return .number (-1.0)
      | (none, true) => return .number 0.0
      | (some record, true) => readInto code fuel target record
    | .readCommand command target =>
      let command ← textOf (← evaluate code fuel command)
      match ← recordOf true command with
      | (some record, _) => readInto code fuel target record
      | (none, _) => return .number 0.0

/-- Gives a record that was read to what it was read for. -/
def readInto (code : Code) : (fuel : Nat) → Option Expr → ByteText → Run Value
  | 0, _, _ => return .number 0.0
  | fuel + 1, target, record => do
    match target with
    | some target => (← holder code fuel target).set (.ofInput record)
    | none => setRecord record
    return .number 1.0

/-- The values of expressions. -/
def evaluateAll (code : Code) : (fuel : Nat) → List Expr → Run (List Value)
  | 0, _ | _, [] => return []
  | fuel + 1, first :: rest => do
    let value ← evaluate code fuel first
    return value :: (← evaluateAll code fuel rest)

/-- What an expression names that holds a value. -/
def holder (code : Code) : (fuel : Nat) → Expr → Run Holder
  | 0, _ => return .variable ""
  | fuel + 1, expr => do
    match expr with
    | .field number => return .field (← fieldNumber (← evaluate code fuel number))
    | .element table subscripts =>
      let index ← tableIndex table
      let subscript ← subscriptOf (← evaluateAll code fuel subscripts)
      let _ ← elementOf index subscript
      return .element index subscript
    | .name name => return .variable name
    | _ => return .variable ""

/-- What an argument of a function stands for. -/
def slotOf (code : Code) : (fuel : Nat) → Expr → Run Slot
  | 0, _ => return .plain .unset
  | fuel + 1, expr => do
    match expr with
    | .name name =>
      let state ← get
      match state.frame.lookup name with
      | some (.plain .unset) => return .undecided (← freshTable)
      | some slot => return slot
      | none =>
        match state.tableOf.get? name with
        | some index => return .table index
        | none =>
          match ← valueOf name with
          | .unset => return .undecided (← freshTable)
          | value => return .plain value
    | other => return .plain (← evaluate code fuel other)

/-- What the arguments of a function stand for. -/
def slotsOf (code : Code) : (fuel : Nat) → List Expr → Run (List Slot)
  | 0, _ | _, [] => return []
  | fuel + 1, first :: rest => do
    let slot ← slotOf code fuel first
    return slot :: (← slotsOf code fuel rest)

/-- Calls a function of the program. A name that the function used as a table is one afterwards. -/
def callFunction (code : Code) : (fuel : Nat) → (name : String) → List Expr → Run Value
  | 0, _, _ => failNow "function call nesting too deep".toList
  | fuel + 1, name, arguments => do
    match code.functions.lookup name with
    | none => return .unset
    | some function =>
      let slots ← slotsOf code fuel arguments
      let saved := (← get).frame
      let missing := function.parameters.length - slots.length
      let filled := slots ++ List.replicate missing (Slot.plain .unset)
      countTurn
      modify fun state => { state with frame := function.parameters.zip filled }
      let result ← attempt (perform code fuel function.body)
      modify fun state => { state with frame := saved }
      for (argument, slot) in arguments.zip slots do
        match argument, slot with
        | .name name, .undecided index =>
          let state ← get
          if (state.tables[index]?).any Table.isUsed then
            if (saved.lookup name).isSome then
              set { state with frame := withSlot name (.table index) state.frame }
            else set { state with tableOf := state.tableOf.insert name index }
        | _, _ => pure ()
      match result with
      | .ok _ => return .unset
      | .error (.giveBack value) => return value
      | .error other => throw other

/-- Calls a function of the language. -/
def callBuiltin (code : Code) : (fuel : Nat) → Builtin → List Expr → Run Value
  | 0, _, _ => return .unset
  | fuel + 1, builtin, arguments => do
    let text (index : Nat) : Run ByteText := do
      match arguments[index]? with
      | some argument => textOf (← evaluate code fuel argument)
      | none => return []
    let number (index : Nat) : Run Float := do
      match arguments[index]? with
      | some argument => return (← evaluate code fuel argument).toFloat
      | none => return 0.0
    let pattern (index : Nat) : Run Regex.Finder := do
      match (arguments[index]?).bind literal? with
      | some finder => return finder
      | none => finderOf (← text index)
    match builtin with
    | .length =>
      match arguments with
      | [] => return .number (Float.ofNat (← getRecord).length)
      | [.name name] =>
        let state ← get
        let index := match state.frame.lookup name with
          | some (.table index) => some index
          | some _ => none
          | none => state.tableOf.get? name
        match index with
        | some index =>
          return .number (Float.ofNat (((state.tables[index]?).getD {}).values.size))
        | none => return .number (Float.ofNat (← text 0).length)
      | _ => return .number (Float.ofNat (← text 0).length)
    | .substr =>
      let whole ← text 0
      let start ← number 1
      let length ← if arguments.length < 3 then pure none else some <$> number 2
      return .text (part whole start length)
    | .index =>
      let whole ← text 0
      let sought ← text 1
      let place := (List.range (whole.length + 1)).find? fun index =>
        sought.isPrefixOf (whole.drop index)
      return .number (match place with
        | some place => if whole.isEmpty then 0.0 else Float.ofNat (place + 1)
        | none => 0.0)
    | .split =>
      let whole ← text 0
      let pieces ← match (arguments[2]? : Option Expr) with
        | none => do cutBy (← globalText "FS") whole
        | some (Expr.pattern finder) =>
          let characters := whole.toArray
          if characters.isEmpty then pure []
          else pure (cutAt finder characters (characters.size + 2) 0 0)
        | some _ => do cutBy (← text 2) whole
      let name := match (arguments[1]? : Option Expr) with
        | some (.name name) => name
        | _ => ""
      let index ← tableIndex name
      let filled := (pieces.zipIdx 1).foldl (fun (table : Table) (piece, place) =>
        table.put (.whole place) (.ofInput piece)) { isUsed := true }
      modify fun state => { state with tables := state.tables.set! index filled }
      return .number (Float.ofNat pieces.length)
    | .sub | .gsub =>
      let finder ← pattern 0
      let replacement ← text 1
      let place ← match (arguments[2]? : Option Expr) with
        | some target => holder code fuel target
        | none => pure (.field 0)
      let whole := (← match (arguments[2]? : Option Expr) with
        | some target => do
          if target.isTarget then textOf (← place.get) else text 2
        | none => getRecord)
      let characters := whole.toArray
      let (pieces, count) := replaced finder replacement (builtin = .gsub) characters
        (2 * characters.size + 3) 0 none 0 []
      if 0 < count then place.set (.text pieces.reverse.flatten)
      return .number (Float.ofNat count)
    | .find =>
      let whole ← text 0
      let finder ← pattern 1
      let (start, length) : Float × Float := match finder.search whole.toArray with
        | some found => (Float.ofNat (found.start + 1), Float.ofNat (found.stop - found.start))
        | none => (0.0, -1.0)
      setGlobal "RSTART" (.number start)
      setGlobal "RLENGTH" (.number length)
      return .number start
    | .sprintf => return .text (← writeValues code fuel "sprintf" arguments)
    | .sin => return .number (← number 0).sin
    | .cos => return .number (← number 0).cos
    | .atan2 =>
      let y ← number 0
      return .number (Float.atan2 y (← number 1))
    | .exp => return .number (← number 0).exp
    | .log => return .number (← number 0).log
    | .sqrt => return .number (← number 0).sqrt
    | .int => return .number (cut (← number 0))
    | .rand =>
      let state ← get
      let seed := (state.seed * 6364136223846793005 + 1442695040888963407) % UInt64.size
      set { state with seed }
      return .number (Float.ofNat (seed / 2048) / Float.ofNat (UInt64.size / 2048))
    | .srand =>
      let state ← get
      let seed ← if arguments.isEmpty then pure 1.0 else number 0
      modify fun state => { state with seed := sizeOf seed, lastSeed := seed }
      return .number state.lastSeed
    | .tolower => return .text ((← text 0).map Char.toLower)
    | .toupper => return .text ((← text 0).map Char.toUpper)
    | .system =>
      let command ← text 0
      let environment ← surroundings
      flushAll
      let ending ← work (runChild (becomeShell "sh" command environment))
      return .number (Float.ofNat (statusOf ending))
    | .close => return .number (← closeStream (← text 0))
    | .fflush =>
      let name ← text 0
      let isThere := (← get).outputs.any fun output => output.name = name
      flushAll
      return .number (if arguments.isEmpty || isThere || name = "/dev/stdout".toList then 0.0
        else -1.0)

/-- Values written by a format. -/
def writeValues (code : Code) : (fuel : Nat) → (name : String) → List Expr → Run ByteText
  | 0, _, _ => return []
  | fuel + 1, name, arguments => do
    match ← evaluateAll code fuel arguments with
    | [] => return []
    | first :: values =>
      let layout := (← textOf first).takeWhile fun c => c.toNat ≠ 0
      match writeFormat (← format) (layout.length + 1) layout { values } with
      | .ok writing => return writing.pieces.reverse.flatten
      | .error (writing, fault) =>
        if name = "printf" then work (put writing.pieces.reverse.flatten)
        let place := name.toList ++ "(\"".toList ++ layout ++ "\")".toList
        failNow (match fault with
          | .missing => "not enough arguments passed to ".toList ++ place
          | .improper count =>
            "improper conversion(number ".toList ++ Numeral.digits count ++ ") in ".toList ++ place)

/-- Where output goes. -/
def targetOf (code : Code) : (fuel : Nat) → Option (OutputKind × Expr) →
    Run (Option (OutputKind × ByteText))
  | 0, _ | _, none => return none
  | fuel + 1, some (kind, name) => do
    return some (kind, ← textOf (← evaluate code fuel name))

/-- Takes turns of a loop as long as a condition holds. -/
def takeTurns (code : Code) : (fuel : Nat) → (condition : Expr) → (step body : Statement) →
    (isFirst : Bool) → Run Unit
  | 0, _, _, _, _ => return ()
  | fuel + 1, condition, step, body, isFirst => do
    countTurn
    let holds ← if isFirst then pure true else do pure (← evaluate code fuel condition).isTrue
    if holds then
      match ← attempt (perform code fuel body) with
      | .ok _ | .error .nextTurn =>
        perform code fuel step
        takeTurns code fuel condition step body false
      | .error .leaveLoop => return ()
      | .error other => throw other

/-- Takes a turn of a loop for each subscript. -/
def takeEach (code : Code) : (fuel : Nat) → (name : String) → (body : Statement) →
    List ByteText → Run Unit
  | 0, _, _, _ | _, _, _, [] => return ()
  | fuel + 1, name, body, key :: rest => do
    countTurn
    setValue name (.ofInput key)
    match ← attempt (perform code fuel body) with
    | .ok _ | .error .nextTurn => takeEach code fuel name body rest
    | .error .leaveLoop => return ()
    | .error other => throw other

/-- Does a statement. -/
def perform (code : Code) : (fuel : Nat) → Statement → Run Unit
  | 0, _ => return ()
  | fuel + 1, statement => do
    match statement with
    | .expression body =>
      let _ ← evaluate code fuel body
    | .print items target =>
      let text ← match items with
        | [] => getRecord
        | items => do
          let layout := (← globalValue "OFMT").toText "%.6g".toList
          let values ← evaluateAll code fuel items
          pure ((← globalText "OFS").intercalate (values.map (Value.toText layout)))
      let ending ← globalText "ORS"
      printTo (← targetOf code fuel target) (text ++ ending)
    | .printFormat items target =>
      let text ← writeValues code fuel "printf" items
      printTo (← targetOf code fuel target) text
    | .block body => performAll code fuel body
    | .choose condition first second =>
      if (← evaluate code fuel condition).isTrue then perform code fuel first
      else perform code fuel second
    | .loop condition body => takeTurns code fuel condition (.block []) body false
    | .loopOnce body condition => takeTurns code fuel condition (.block []) body true
    | .loopFrom start condition step body =>
      perform code fuel start
      takeTurns code fuel condition step body false
    | .forEach name table body =>
      let index ← tableIndex table
      modify fun state => { state with tables := state.tables.modify index Table.settle }
      takeEach code fuel name body (((← get).tables[index]?).getD {}).keys
    | .leaveLoop => throw .leaveLoop
    | .nextTurn => throw .nextTurn
    | .next => throw .next
    | .nextFile => throw .nextFile
    | .exit status =>
      if let some status := status then
        let x := (← evaluate code fuel status).toFloat
        let whole : Int := if x < 0.0 then -((-x).toUInt64.toNat : Int) else x.toUInt64.toNat
        modify fun state => { state with status := (whole % 256).toNat }
      throw .exit
    | .giveBack value =>
      match value with
      | none => throw (.giveBack .unset)
      | some value => throw (.giveBack (← evaluate code fuel value))
    | .delete table subscripts =>
      let index ← tableIndex table
      let subscript ← subscriptOf (← evaluateAll code fuel subscripts)
      modify fun state =>
        { state with tables := state.tables.modify index fun table => table.erase subscript }
    | .deleteAll table =>
      let index ← tableIndex table
      modify fun state => { state with tables := state.tables.set! index { isUsed := true } }

/-- Does statements one after the other. -/
def performAll (code : Code) : (fuel : Nat) → List Statement → Run Unit
  | 0, _ | _, [] => return ()
  | fuel + 1, first :: rest => do
    perform code fuel first
    performAll code fuel rest

end

/-- Whether a rule is done for the record. -/
def isMet (code : Code) (index : Nat) (condition : Condition) : Run Bool := do
  match condition with
  | .begin | .finish => return false
  | .always => return true
  | .when condition => return (← evaluate code limit condition).isTrue
  | .between first last =>
    let isWithin := ((← get).within[index]?).getD false
    if isWithin || (← evaluate code limit first).isTrue then
      let isLast := (← evaluate code limit last).isTrue
      modify fun state => { state with within := state.within.set! index !isLast }
      return true
    else return false

/-- Does the rules for the record. -/
def performRules (code : Code) : List (Rule × Nat) → Run Unit
  | [] => return ()
  | (rule, index) :: rest => do
    if ← isMet code index rule.condition then perform code limit rule.body
    performRules code rest

/-- Does the rules for one record after the other. -/
def performRecords (code : Code) (rules : List (Rule × Nat)) : (fuel : Nat) → Run Unit
  | 0 => return ()
  | fuel + 1 => do
    match ← nextRecord limit with
    | none => return ()
    | some record =>
      setRecord record
      countRecord ["NR", "FNR"]
      countTurn
      match ← attempt (performRules code rules) with
      | .ok _ | .error .next => performRecords code rules fuel
      | .error .nextFile =>
        if let some source := (← get).source then work (closeOperand source.descriptor)
        modify fun state => { state with source := none }
        performRecords code rules fuel
      | .error other => throw other

/-- Whether a rule is one for the beginning. -/
def Rule.isBegin (rule : Rule) : Bool :=
  match rule.condition with
  | .begin => true
  | _ => false

/-- Whether a rule is one for the end. -/
def Rule.isFinish (rule : Rule) : Bool :=
  match rule.condition with
  | .finish => true
  | _ => false

/-- Does rules whatever the record. -/
def performAlways (code : Code) (rules : List Rule) : Run Unit :=
  rules.forM fun rule => perform code limit rule.body

/-- Runs a program and gives its status. -/
def run (code : Code) : Run Nat := do
  let rules := code.rules.filter fun rule => !rule.isBegin && !rule.isFinish
  let last := code.rules.filter Rule.isFinish
  modify fun state => { state with within := Array.replicate rules.length false }
  let outcome ← attempt do
    performAlways code (code.rules.filter Rule.isBegin)
    unless rules.isEmpty && last.isEmpty do performRecords code rules.zipIdx limit
  let outcome ← match outcome with
    | .ok _ | .error .exit => attempt (performAlways code last)
    | other => pure other
  match outcome with
  | _ =>
    for output in (← get).outputs.reverse do
      let _ ← closeOutput output
    return (← get).status

end CopyOracle.Tool.Awk
