import CopyOracle.Regex.Basic
import CopyOracle.Tool.Options

/-!
# Translating bytes

A list of bytes is written with ranges, classes and repetitions. The bytes of a first list are
replaced by those of a second one at the same places, are left out, or are kept once where they
stand several times in a row.
-/
namespace CopyOracle.Tool.Translation

open Host

/-- A part of a list of bytes. -/
inductive Part where
  /-- Bytes in order. -/
  | bytes (codes : List Nat)
  /-- The bytes of a class. -/
  | named (name : String) (codes : List Nat)
  /-- A byte again and again, so often or as often as is needed. -/
  | repeated (code : Nat) (times : Option Nat)

/-- Why a list cannot be read. -/
inductive Fault where
  /-- A range goes down. -/
  | range (low high : Nat)
  /-- There is no class of a name. -/
  | unknownClass (name : ByteText)
  /-- A place in the order of bytes is given by no byte, or by several. -/
  | equivalence (text : ByteText)
  /-- A repetition is no number. -/
  | times (text : ByteText)

/-- A byte as faults show it. -/
def shown (code : Nat) : ByteText :=
  if 32 ≤ code && code < 127 then [Char.ofNat code]
  else '\\' :: (Char.ofNat (48 + code / 64 % 8)) :: (Char.ofNat (48 + code / 8 % 8)) ::
    [Char.ofNat (48 + code % 8)]

/-- What is wrong with a list. -/
def Fault.message : Fault → ByteText
  | .range low high =>
    "range-endpoints of '".toList ++ shown low ++ '-' :: shown high ++
      "' are in reverse collating sequence order".toList
  | .unknownClass name => "invalid character class ".toList ++ quoted name
  | .equivalence text =>
    text ++ ": equivalence class operand must be a single character".toList
  | .times text =>
    "invalid repeat count ".toList ++ quoted text ++ " in [c*n] construct".toList

/-- The bytes of a list with their backslashes resolved, and for each whether it had one. -/
def unescaped : (fuel : Nat) → ByteText → List (Nat × Bool)
  | 0, _ | _, [] => []
  | fuel + 1, '\\' :: rest =>
    let digits := (rest.take 3).takeWhile fun c => '0' ≤ c && c ≤ '7'
    let digits := if 255 < Nat.ofDigitChars 8 digits 0 then digits.take 2 else digits
    if !digits.isEmpty then
      (Nat.ofDigitChars 8 digits 0, true) :: unescaped fuel (rest.drop digits.length)
    else match rest with
    | [] => [(92, false)]
    | c :: later =>
      let code := match c with
        | 'a' => 7
        | 'b' => 8
        | 'f' => 12
        | 'n' => 10
        | 'r' => 13
        | 't' => 9
        | 'v' => 11
        | c => c.toNat
      (code, true) :: unescaped fuel later
  | fuel + 1, c :: rest => (c.toNat, false) :: unescaped fuel rest

/-- A character without a backslash. -/
def bare (c : Char) : Nat × Bool := (c.toNat, false)

/-- The characters up to a sign and a bracket, and what follows them. -/
def upTo? (sign : Char) : List (Nat × Bool) → Option (List Nat × List (Nat × Bool))
  | [] | [_] => none
  | first :: second :: rest =>
    if first = bare sign && second = bare ']' then some ([], rest)
    else (upTo? sign (second :: rest)).map fun (codes, rest) => (first.1 :: codes, rest)

/-- The codes of a class. -/
def codesOf (set : CharSet) : List Nat :=
  (List.range 256).filter fun code => set.contains (Char.ofNat code)

/-- A repetition after its byte and its star: how often, and what follows it. -/
def times? (rest : List (Nat × Bool)) :
    Option (Except Fault (Option Nat) × List (Nat × Bool)) :=
  let inside := rest.takeWhile (· ≠ bare ']')
  match rest.drop inside.length with
  | [] => none
  | _ :: later =>
    let digits := inside.map fun (code, _) => Char.ofNat code
    let base := if digits.head? = some '0' then 8 else 10
    if digits.all Char.isDigit && !(base = 8 && digits.any fun c => c ∈ ['8', '9']) then
      let count := Nat.ofDigitChars base digits 0
      some (.ok (if count = 0 then none else some count), later)
    else some (.error (.times digits), later)

/-- The parts of a list. -/
def parts : (fuel : Nat) → List (Nat × Bool) → Except Fault (List Part)
  | 0, _ | _, [] => .ok []
  | fuel + 1, first :: rest => do
    let plain : Except Fault (List Part) := do
      match rest with
      | second :: high :: later =>
        if second = bare '-' then
          if high.1 < first.1 then throw (.range first.1 high.1)
          let codes := (List.range (high.1 + 1 - first.1)).map (first.1 + ·)
          return .bytes codes :: (← parts fuel later)
        else return .bytes [first.1] :: (← parts fuel rest)
      | _ => return .bytes [first.1] :: (← parts fuel rest)
    if first = bare '[' then
      match rest with
      | second :: inside =>
        if second = bare ':' then
          match upTo? ':' inside with
          | some (codes, later) =>
            let name := codes.map Char.ofNat
            match CharSet.named? name with
            | some set =>
              return .named (String.ofList name) (codesOf set) :: (← parts fuel later)
            | none => throw (.unknownClass name)
          | none => plain
        else if second = bare '=' then
          match upTo? '=' inside with
          | some ([code], later) => return .bytes [code] :: (← parts fuel later)
          | some (codes, _) => throw (.equivalence (codes.map Char.ofNat))
          | none => plain
        else match inside with
        | star :: inside =>
          if star = bare '*' then
            match times? inside with
            | some (.ok times, later) => return .repeated second.1 times :: (← parts fuel later)
            | some (.error fault, _) => throw fault
            | none => plain
          else plain
        | [] => plain
      | [] => plain
    else plain

/-- The bytes of parts, where a repetition without a number makes the list so long. -/
def expanded (size : Nat) (parts : List Part) : List Nat :=
  let fixed := parts.foldl (fun count part => count + match part with
    | .bytes codes | .named _ codes => codes.length
    | .repeated _ times => times.getD 0) 0
  parts.flatMap fun part => match part with
    | .bytes codes | .named _ codes => codes
    | .repeated code times => List.replicate (min (times.getD (size - fixed)) size) code

/-- The bytes that are not in a list. -/
def others (codes : List Nat) : List Nat :=
  (List.range 256).filter fun code => !codes.contains code

/-- A table with what becomes of each byte. -/
def tableOf (first second : List Nat) : Array Char :=
  let filled := second ++ List.replicate (first.length - second.length) (second.getLast?.getD 0)
  (first.zip filled).foldl (fun table (source, target) => table.set! source (Char.ofNat target))
    ((Array.range 256).map Char.ofNat)

/-- What is done to bytes. -/
structure Plan where
  /-- What becomes of each byte. -/
  table : Array Char
  /-- The bytes that are left out. -/
  left : Array Bool
  /-- The bytes that are kept once in a row. -/
  squeezed : Array Bool

/-- Which bytes are in a list. -/
def flagsOf (codes : List Nat) : Array Bool :=
  codes.foldl (fun flags code => flags.set! code true) (Array.replicate 256 false)

/-- A text translated after some byte, and the last byte of it. -/
def translate (plan : Plan) (previous : Option Char) (text : ByteText) :
    ByteText × Option Char :=
  let (reversed, last) := text.foldl (fun (reversed, previous) c =>
    if plan.left[c.toNat]?.getD false then (reversed, previous)
    else
      let c := plan.table[c.toNat]?.getD c
      if some c = previous && plan.squeezed[c.toNat]?.getD false then (reversed, previous)
      else (c :: reversed, some c)) (([] : ByteText), previous)
  (reversed.reverse, last)

/-- Translates the input as it comes. -/
def run (plan : Plan) : (fuel : Nat) → Option Char → Work Unit
  | 0, _ => return ()
  | fuel + 1, previous => do
    match ← more "read error".toList 0 with
    | [] => return ()
    | text =>
      let (translated, last) := translate plan previous text
      put translated
      run plan fuel last

/-- Complains about a missing or a surplus list, says why, and ends the tool. -/
def refuse {α : Type} (wording : ByteText) (reason : Option String) : Work α := do
  complain wording
  if let some reason := reason then
    let _ ← call (.write 2 (reason.toList ++ ['\n']))
  referToHelp 1

end CopyOracle.Tool.Translation

namespace CopyOracle.Tool

open Host Translation

/-- Translates, leaves out or squeezes bytes. -/
def tr : Main := program fun arguments => do
  let asked ← askedFor (OptionTable.of "cCdst" [("complement", .nothing, 'c'),
    ("delete", .nothing, 'd'), ("squeeze-repeats", .nothing, 's'),
    ("truncate-set1", .nothing, 't')] true) arguments
  let (deletes, squeezes) := (asked.has 'd', asked.has 's')
  let least := if deletes = squeezes then 2 else 1
  let most := if deletes && !squeezes then 1 else 2
  match asked.operands with
  | [] => missingOperand
  | [only] =>
    if least = 2 then
      refuse ("missing operand after ".toList ++ quoted only) (some (if squeezes
        then "Two strings must be given when both deleting and squeezing repeats."
        else "Two strings must be given when translating."))
  | _ =>
    if let some surplus := asked.operands[most]? then
      refuse ("extra operand ".toList ++ quoted surplus) (if asked.operands.length = 2 then
        some "Only one string may be given when deleting without squeezing repeats." else none)
  let read (word : ByteText) : Work (List Part) := do
    match parts (word.length + 1) (unescaped (word.length + 1) word) with
    | .ok parts => return parts
    | .error fault => fail 1 fault.message
  for word in asked.operands do
    if (word.reverse.takeWhile (· = '\\')).length % 2 = 1 then
      complain "warning: an unescaped backslash at end of string is not portable".toList
  let isOthers := asked.has 'c' || asked.has 'C'
  let firstParts ← read (asked.operands.headD [])
  if firstParts.any fun part => match part with
      | .repeated _ none => true
      | _ => false then
    fail 1 "the [c*] repeat construct may not appear in string1".toList
  let listed := expanded 65536 firstParts
  let first := if isOthers then others listed else listed
  let translates := asked.operands.length = 2 && !deletes
  let secondParts ← match asked.operands[1]? with
    | some word => read word
    | none => pure []
  if translates then
    let names := secondParts.filterMap fun part => match part with
      | .named name _ => some name
      | _ => none
    if names.any fun name => name ≠ "upper" && name ≠ "lower" then
      fail 1 ("when translating, the only character classes that may appear in\n".toList ++
        "string2 are 'upper' and 'lower'".toList)
  let second := expanded first.length secondParts
  if translates && second.isEmpty && !first.isEmpty && !asked.has 't' then
    fail 1 "when not truncating set1, string2 must be non-empty".toList
  let first := if translates && asked.has 't' then first.take second.length else first
  let plan : Plan :=
    { table := if translates then tableOf first second else (Array.range 256).map Char.ofNat
      left := flagsOf (if deletes then first else [])
      squeezed := flagsOf (if !squeezes then [] else if asked.operands.length = 2 then second
        else first) }
  run plan limit none

end CopyOracle.Tool
