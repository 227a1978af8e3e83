import Std.Data.HashMap
import CopyOracle.Tool.Awk.Value

/-!
# Tables of programs for records

A table holds values by subscripts. Its subscripts come in the order of the rows in which they are
kept: a row is found by a number that depends on the bytes of the subscript, and within a row the
subscript that was used last comes first. Whole numbers are put into rows only when texts are used
as well, or when the subscripts are asked for.
-/
namespace CopyOracle.Tool.Awk

/-- A subscript. -/
inductive Subscript where
  /-- A whole number. -/
  | whole (value : Int)
  /-- A text. -/
  | text (text : ByteText)

/-- The text of a subscript. -/
def Subscript.toText : Subscript → ByteText
  | .whole value => integerText value
  | .text written => written

/-- A table. -/
structure Table where
  /-- The values. -/
  values : Std.HashMap ByteText Value := {}
  /-- The subscripts in their rows. -/
  rows : Array (List ByteText) := Array.replicate 64 []
  /-- The whole numbers that are in no row, the last one first. -/
  loose : List Int := []
  /-- Whether subscripts are put into rows at once. -/
  hasRows : Bool := false
  /-- Whether the table was used as one. -/
  isUsed : Bool := false
deriving Inhabited

namespace Table

/-- How many subscripts a row holds on average at most. -/
def rowLength : Nat := 12

/-- A number that depends on all bytes of a text. -/
def mixed (key : ByteText) : UInt32 :=
  key.foldl (fun hash c => (hash ^^^ UInt32.ofNat c.toNat) * 16777619) 2166136261

/-- The row of a subscript among so many. -/
def rowOf (count : Nat) (key : ByteText) : Nat := (mixed key).toNat % count

/-- The rows with one more subscript in front of its row. -/
def pushRow (rows : Array (List ByteText)) (key : ByteText) : Array (List ByteText) :=
  rows.modify (rowOf rows.size key) (key :: ·)

/-- The table with all subscripts in rows. -/
def settle (table : Table) : Table :=
  if table.loose.isEmpty then { table with hasRows := true }
  else
    let size : Int := table.rows.size
    let ordered := table.loose.mergeSort fun left right => left.emod size ≤ right.emod size
    let rows := ordered.foldl (fun rows value => pushRow rows (integerText value)) table.rows
    { table with rows, loose := [], hasRows := true }

/-- The table with more rows if it holds too much for those it has. -/
def grow (table : Table) : Table :=
  if table.rows.size * rowLength < table.values.size then
    let fresh : Array (List ByteText) := Array.replicate (2 * table.rows.size) []
    let keys := table.rows.toList.flatten.reverse
    { table with rows := keys.foldl pushRow fresh }
  else table

/-- The value of a subscript, if the table holds it. -/
def get? (table : Table) (subscript : Subscript) : Option Value :=
  table.values.get? subscript.toText

/-- The table with a value for a subscript. -/
def put (table : Table) (subscript : Subscript) (value : Value) : Table :=
  let key := subscript.toText
  let isThere := table.values.contains key
  match subscript with
  | .whole number =>
    let table := { table with values := table.values.insert key value }
    if isThere then table
    else if table.hasRows then grow { table with rows := pushRow table.rows key }
    else { table with loose := number :: table.loose }
  | .text _ =>
    let table := table.settle
    let rows := if isThere then
        table.rows.modify (rowOf table.rows.size key) fun row => key :: row.erase key
      else pushRow table.rows key
    grow { table with rows, values := table.values.insert key value }

/-- The table without a subscript. -/
def erase (table : Table) (subscript : Subscript) : Table :=
  let key := subscript.toText
  { table with
    values := table.values.erase key
    rows := table.rows.modify (rowOf table.rows.size key) fun row => row.erase key
    loose := table.loose.filter fun value => integerText value ≠ key }

/-- The subscripts in the order of their rows. -/
def keys (table : Table) : List ByteText := table.settle.rows.toList.flatten

end Table

end CopyOracle.Tool.Awk
