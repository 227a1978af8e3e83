import CopyOracle.Tool.Files

/-!
# Asking the system

What the system is and what time it is there, and a few single requests to it.
-/
namespace CopyOracle.Tool

open Host

/-- Tells what terminal the input is; it is none. -/
def tty : Main := program fun arguments => do
  let asked ← askedFor (OptionTable.of "s" [("quiet", .nothing, 's'), ("silent", .nothing, 's')])
    arguments 2
  match asked.operands with
  | extra :: _ => misuse 2 ("extra operand ".toList ++ quoted extra)
  | [] => pure ()
  unless asked.has 's' do putLine "not a tty".toList
  modify fun desk => { desk with status := 1 }

/-- Prints how many processors there are. -/
def nproc : Main := program fun arguments => do
  let _ ← askedFor (OptionTable.of "" [("all", .nothing, 'a'), ("ignore", .argument, 'i')]) arguments
  putLine ['1']

/-- Prints the name of the machine. -/
def hostname : Main := program fun _ => putLine "localhost".toList

/-- Prints the kind of the processor. -/
def arch : Main := program fun _ => putLine "x86_64".toList

/-- Prints the groups of the user. -/
def groups : Main := program fun _ => putLine "root".toList

/-- Waits until all files are kept. -/
def sync : Main := program fun arguments => do
  let asked ← askedFor (OptionTable.of "df") arguments
  for path in asked.operands do
    match ← entryAt path with
    | .ok _ => pure ()
    | .error error =>
      fault 1 ("error opening ".toList ++ quoted path ++ ": ".toList ++ error.reason.toList)

/-- Takes away a file. -/
def unlink : Main := program fun arguments => do
  let asked ← askedFor (OptionTable.of "") arguments
  match asked.operands with
  | [] => missingOperand
  | [path] =>
    match ← call (.change fun files => files.removeFile (ByteText.asString path)) with
    | .ok _ => return ()
    | .error error =>
      fail 1 ("cannot unlink ".toList ++ quoted path ++ ": ".toList ++ error.reason.toList)
  | _ :: extra :: _ => misuse 1 ("extra operand ".toList ++ quoted extra)

/-- A moment, by the calendar. -/
structure Moment where
  /-- The year. -/
  year : Nat
  /-- The month, from one on. -/
  month : Nat
  /-- The day of the month, from one on. -/
  day : Nat
  /-- The day of the year, from one on. -/
  yearDay : Nat
  /-- The day of the week, from Sunday on. -/
  weekDay : Nat
  /-- The second of the day. -/
  second : Nat

namespace Moment

/-- How many days a year has. -/
def yearLength (year : Nat) : Nat :=
  if year % 4 = 0 && (year % 100 ≠ 0 || year % 400 = 0) then 366 else 365

/-- How many days the months of a year have. -/
def monthLengths (year : Nat) : List Nat :=
  [31, yearLength year - 337, 31, 30, 31, 30, 31, 31, 30, 31, 30, 31]

/-- The year in which a day is, counted from the start of a year, and the day in it. -/
def yearOf : (fuel : Nat) → (year day : Nat) → Nat × Nat
  | 0, year, day => (year, day)
  | fuel + 1, year, day =>
    if day < yearLength year then (year, day) else yearOf fuel (year + 1) (day - yearLength year)

/-- The month in which a day of a year is, and the day in it. -/
def monthOf : (month : Nat) → List Nat → (day : Nat) → Nat × Nat
  | month, [], day => (month, day)
  | month, length :: rest, day =>
    if day < length then (month, day) else monthOf (month + 1) rest (day - length)

/-- The moment some seconds after the beginning of the year 1970. -/
def ofSeconds (seconds : Nat) : Moment :=
  let days := seconds / 86400
  let (year, yearDay) := yearOf (days / 365 + 1) 1970 days
  let (month, day) := monthOf 1 (monthLengths year) yearDay
  { year, month, day := day + 1, yearDay := yearDay + 1, weekDay := (days + 4) % 7
    second := seconds % 86400 }

/-- The names of the days of the week. -/
def dayNames : List String :=
  ["Sunday", "Monday", "Tuesday", "Wednesday", "Thursday", "Friday", "Saturday"]

/-- The names of the months. -/
def monthNames : List String :=
  ["January", "February", "March", "April", "May", "June", "July", "August", "September",
    "October", "November", "December"]

/-- A number with so many places at least, filled up with a character. -/
def padded (fill : Char) (places number : Nat) : ByteText :=
  let digits := Numeral.digits number
  List.replicate (places - digits.length) fill ++ digits

/-- What a letter of a format stands for. -/
def part (moment : Moment) (seconds nanoseconds : Nat) (letter : Char) : ByteText :=
  let hour := moment.second / 3600
  let two (number : Nat) : ByteText := padded '0' 2 number
  let clock : ByteText :=
    two hour ++ ':' :: two (moment.second / 60 % 60) ++ ':' :: two (moment.second % 60)
  let dayName := (dayNames[moment.weekDay]?.getD "").toList
  let monthName := (monthNames[moment.month - 1]?.getD "").toList
  let halfDay := if hour % 12 = 0 then 12 else hour % 12
  match letter with
  | '%' => ['%']
  | 'n' => ['\n']
  | 't' => ['\t']
  | 'Y' | 'G' => Numeral.digits moment.year
  | 'y' | 'g' => two (moment.year % 100)
  | 'C' => two (moment.year / 100)
  | 'm' => two moment.month
  | 'd' => two moment.day
  | 'e' => padded ' ' 2 moment.day
  | 'H' => two hour
  | 'k' => padded ' ' 2 hour
  | 'I' => two halfDay
  | 'l' => padded ' ' 2 halfDay
  | 'M' => two (moment.second / 60 % 60)
  | 'S' => two (moment.second % 60)
  | 'N' => padded '0' 9 nanoseconds
  | 's' => Numeral.digits seconds
  | 'j' => padded '0' 3 moment.yearDay
  | 'u' => Numeral.digits (if moment.weekDay = 0 then 7 else moment.weekDay)
  | 'w' => Numeral.digits moment.weekDay
  | 'a' => dayName.take 3
  | 'A' => dayName
  | 'b' | 'h' => monthName.take 3
  | 'B' => monthName
  | 'p' => (if hour < 12 then "AM" else "PM").toList
  | 'P' => (if hour < 12 then "am" else "pm").toList
  | 'F' => Numeral.digits moment.year ++ '-' :: two moment.month ++ '-' :: two moment.day
  | 'T' | 'X' => clock
  | 'R' => two hour ++ ':' :: two (moment.second / 60 % 60)
  | 'r' => two halfDay ++ (clock.drop 2) ++ (if hour < 12 then " AM" else " PM").toList
  | 'D' | 'x' => two moment.month ++ '/' :: two moment.day ++ '/' :: two (moment.year % 100)
  | 'c' => dayName.take 3 ++ ' ' :: monthName.take 3 ++ ' ' :: padded ' ' 2 moment.day ++
      ' ' :: clock ++ ' ' :: Numeral.digits moment.year
  | 'Z' => "UTC".toList
  | 'z' => "+0000".toList
  | 'q' => Numeral.digits ((moment.month + 2) / 3)
  | other => ['%', other]

/-- A moment in a format. A dash after the sign takes away what fills up numbers, and a number cuts
those that count parts of a second. -/
def formatted (moment : Moment) (seconds nanoseconds : Nat) : (fuel : Nat) → ByteText → ByteText
  | 0, _ | _, [] => []
  | fuel + 1, '%' :: '-' :: letter :: rest =>
    let text := moment.part seconds nanoseconds letter
    let short := (text.take (text.length - 1)).takeWhile fun c => c = '0' || c = ' '
    text.drop short.length ++ moment.formatted seconds nanoseconds fuel rest
  | fuel + 1, '%' :: letter :: rest =>
    match letter.isDigit, rest with
    | true, 'N' :: rest =>
      (padded '0' 9 nanoseconds).take (letter.toNat - '0'.toNat) ++
        moment.formatted seconds nanoseconds fuel rest
    | _, rest => moment.part seconds nanoseconds letter ++
        moment.formatted seconds nanoseconds fuel rest
  | fuel + 1, c :: rest => c :: moment.formatted seconds nanoseconds fuel rest

end Moment

/-- The second at which a machine starts. -/
def startSecond : Nat := 1735689600

/-- The second that a word names: after a sign the seconds themselves, or the word for now. -/
def secondsOf? (now : Nat) (word : ByteText) : Option Nat :=
  match word with
  | '@' :: digits => Numeral.value? digits
  | ['n', 'o', 'w'] => some now
  | [] => some (now / 86400 * 86400)
  | _ => none

/-- Prints the time. -/
def date : Main := program fun arguments => do
  let asked ← askedFor (OptionTable.of "d:uRI::r:" [("date", .argument, 'd'),
    ("utc", .nothing, 'u'), ("universal", .nothing, 'u'), ("rfc-email", .nothing, 'R'),
    ("iso-8601", .joined, 'I'), ("reference", .argument, 'r')]) arguments
  let clock ← call .clock
  let now := startSecond + clock / 1000000000
  let (seconds, nanoseconds) ← match asked.argument? 'd' with
    | none => pure (now, clock % 1000000000)
    | some word =>
      match secondsOf? now word with
      | some seconds => pure (seconds, 0)
      | none => fail 1 ("invalid date ".toList ++ quoted word)
  let format ← match asked.operands with
    | [] =>
      pure (if asked.has 'R' then "%a, %d %b %Y %H:%M:%S %z"
        else if asked.has 'I' then "%Y-%m-%d" else "%a %b %e %H:%M:%S %Z %Y").toList
    | ['+' :: format] => pure format
    | ['+' :: _, extra] => misuse 1 ("extra operand ".toList ++ quoted extra)
    | word :: _ => fail 1 ("invalid date ".toList ++ quoted word)
  putLine ((Moment.ofSeconds seconds).formatted seconds nanoseconds (format.length + 1) format)

end CopyOracle.Tool
