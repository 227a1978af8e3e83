import CopyOracle.Regex.Automaton
import CopyOracle.Text.Bytes

/-!
# Programs for records

A program is a list of rules. Input is taken apart into records, and records into fields; for each
record the rules are done whose condition it meets.
-/
namespace CopyOracle.Tool.Awk

/-- An operation on two numbers. -/
inductive Operation where
  /-- The sum. -/
  | add
  /-- The difference. -/
  | subtract
  /-- The product. -/
  | multiply
  /-- The quotient. -/
  | divide
  /-- The remainder. -/
  | remainder
  /-- The power. -/
  | power
deriving DecidableEq, Repr

/-- A comparison of two values. -/
inductive Comparison where
  /-- Less. -/
  | less
  /-- Less or equal. -/
  | atMost
  /-- Equal. -/
  | equal
  /-- Not equal. -/
  | notEqual
  /-- Greater. -/
  | greater
  /-- Greater or equal. -/
  | atLeast
deriving DecidableEq, Repr

/-- A function of the language. -/
inductive Builtin where
  /-- How long a text is, or how much a table holds. -/
  | length
  /-- A part of a text. -/
  | substr
  /-- Where a text stands in another. -/
  | index
  /-- A text taken apart. -/
  | split
  /-- The first find replaced. -/
  | sub
  /-- All finds replaced. -/
  | gsub
  /-- Where an expression fits. -/
  | find
  /-- Values written by a format. -/
  | sprintf
  /-- The sine. -/
  | sin
  /-- The cosine. -/
  | cos
  /-- The angle of a point. -/
  | atan2
  /-- The exponential. -/
  | exp
  /-- The natural logarithm. -/
  | log
  /-- The square root. -/
  | sqrt
  /-- The whole part. -/
  | int
  /-- A number at random. -/
  | rand
  /-- A beginning for numbers at random. -/
  | srand
  /-- Small letters. -/
  | tolower
  /-- Capitals. -/
  | toupper
  /-- A command that is run. -/
  | system
  /-- The end of a stream. -/
  | close
  /-- What is held back is written. -/
  | fflush
deriving DecidableEq, Repr

namespace Builtin

/-- The functions with their names, and how many arguments they take at least and at most. -/
def all : List (String × Builtin × Nat × Nat) :=
  [("length", length, 0, 1), ("substr", substr, 2, 3), ("index", index, 2, 2),
    ("split", split, 2, 3), ("sub", sub, 2, 3), ("gsub", gsub, 2, 3), ("match", find, 2, 2),
    ("sprintf", sprintf, 1, 1000), ("sin", sin, 1, 1), ("cos", cos, 1, 1), ("atan2", atan2, 2, 2),
    ("exp", exp, 1, 1), ("log", log, 1, 1), ("sqrt", sqrt, 1, 1), ("int", int, 1, 1),
    ("rand", rand, 0, 0), ("srand", srand, 0, 1), ("tolower", tolower, 1, 1),
    ("toupper", toupper, 1, 1), ("system", system, 1, 1), ("close", close, 1, 1),
    ("fflush", fflush, 0, 1)]

end Builtin

/-- An expression. -/
inductive Expr where
  /-- A number. -/
  | number (value : Float)
  /-- A text. -/
  | text (text : ByteText)
  /-- A regular expression, which by itself asks whether the record fits. -/
  | pattern (finder : Regex.Finder)
  /-- A variable. -/
  | name (name : String)
  /-- A field of the record; the field zero is the whole. -/
  | field (number : Expr)
  /-- An element of a table. -/
  | element (table : String) (subscripts : List Expr)
  /-- Expressions in parentheses. -/
  | tuple (items : List Expr)
  /-- A value is given to something. -/
  | assign (target value : Expr)
  /-- A value is changed by an operation. -/
  | update (operation : Operation) (target value : Expr)
  /-- A value is changed by one; the value before or after that counts. -/
  | step (isUp isBefore : Bool) (target : Expr)
  /-- One of two, by a condition. -/
  | choice (condition first second : Expr)
  /-- Both. -/
  | both (first second : Expr)
  /-- One of two at least. -/
  | either (first second : Expr)
  /-- The contrary. -/
  | not (body : Expr)
  /-- The negative number. -/
  | negative (body : Expr)
  /-- The number of a value. -/
  | positive (body : Expr)
  /-- Whether a text fits. -/
  | fits (isNegated : Bool) (text pattern : Expr)
  /-- Whether a table holds an element. -/
  | contains (subscripts : List Expr) (table : String)
  /-- Whether two values compare so. -/
  | compare (comparison : Comparison) (first second : Expr)
  /-- Two texts, one after the other. -/
  | join (first second : Expr)
  /-- An operation on two numbers. -/
  | operate (operation : Operation) (first second : Expr)
  /-- A function of the program. -/
  | call (function : String) (arguments : List Expr)
  /-- A function of the language. -/
  | builtin (function : Builtin) (arguments : List Expr)
  /-- The next record. -/
  | readRecord (target : Option Expr)
  /-- The next record of a file. -/
  | readFile (path : Expr) (target : Option Expr)
  /-- The next record of what a command prints. -/
  | readCommand (command : Expr) (target : Option Expr)

/-- Where output goes. -/
inductive OutputKind where
  /-- To a file. -/
  | write
  /-- To the end of a file. -/
  | append
  /-- To a command. -/
  | pipe
deriving DecidableEq, Repr

/-- A statement. -/
inductive Statement where
  /-- An expression for what it does. -/
  | expression (body : Expr)
  /-- Values are printed. -/
  | print (items : List Expr) (target : Option (OutputKind × Expr))
  /-- Values are printed by a format. -/
  | printFormat (items : List Expr) (target : Option (OutputKind × Expr))
  /-- Statements one after the other. -/
  | block (body : List Statement)
  /-- One of two, by a condition. -/
  | choose (condition : Expr) (first second : Statement)
  /-- Again and again as long as a condition holds. -/
  | loop (condition : Expr) (body : Statement)
  /-- Once, and again as long as a condition holds. -/
  | loopOnce (body : Statement) (condition : Expr)
  /-- A beginning, and then again and again with a step. -/
  | loopFrom (start : Statement) (condition : Expr) (step body : Statement)
  /-- Once for each subscript of a table. -/
  | forEach (name table : String) (body : Statement)
  /-- Out of the innermost loop. -/
  | leaveLoop
  /-- On with the innermost loop. -/
  | nextTurn
  /-- On with the next record. -/
  | next
  /-- On with the next file. -/
  | nextFile
  /-- On with the end of the program. -/
  | exit (status : Option Expr)
  /-- Back from a function. -/
  | giveBack (value : Option Expr)
  /-- An element is taken out of a table. -/
  | delete (table : String) (subscripts : List Expr)
  /-- All elements are taken out of a table. -/
  | deleteAll (table : String)

/-- When a rule is done. -/
inductive Condition where
  /-- Before all input. -/
  | begin
  /-- After all input. -/
  | finish
  /-- For each record. -/
  | always
  /-- For each record that meets a condition. -/
  | when (condition : Expr)
  /-- From a record on that meets a condition to one that meets another. -/
  | between (first last : Expr)

/-- A rule. -/
structure Rule where
  /-- When it is done. -/
  condition : Condition
  /-- What is done. -/
  body : Statement

/-- A function of a program. -/
structure Function where
  /-- The names of its arguments. -/
  parameters : List String
  /-- What it does. -/
  body : Statement

/-- A program. -/
structure Code where
  /-- The rules. -/
  rules : List Rule := []
  /-- The functions. -/
  functions : List (String × Function) := []

end CopyOracle.Tool.Awk
