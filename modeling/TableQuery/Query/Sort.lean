import TableQuery.Row
import TableQuery.Sql.Statement

/-!
# Sorting and projection

Rows are sorted by several keys, the first one deciding unless it is level; a descending key
reverses its own order only, so empty cells change ends with it. Level rows keep their order. A
projection looks up its columns one by one and names them as they are written.
-/

namespace TableQuery

/-- The order that one sort key gives. -/
def OrderKey.compare (key : OrderKey) (nullsFirst : Bool) (a b : Value) : Ordering :=
  match key.direction with
  | .ascending => a.sortCompare nullsFirst b
  | .descending => (a.sortCompare nullsFirst b).swap

/-- The order that a list of sort keys gives to the values of their fields. -/
def compareKeys (nullsFirst : Bool) : List OrderKey → List Value → List Value → Ordering
  | key :: keys, a :: as, b :: bs =>
    (key.compare nullsFirst a b).then (compareKeys nullsFirst keys as bs)
  | _, _, _ => .eq

/-- The rows in the order of their keys. -/
def sortRows (orderBy : List OrderKey) (nullsFirst : Bool) (rows : List Row) :
    Except ExecutionError (List Row) := do
  let keys ← rows.mapM fun row => row.lookupAll (orderBy.map OrderKey.field)
  let sorted := (keys.zip rows).mergeSort fun a b =>
    compareKeys nullsFirst orderBy a.1 b.1 != .gt
  return sorted.map Prod.snd

/-- The row of the given columns, in their order and under the names they are written with. -/
def Row.project (columns : List String) (row : Row) : Except ExecutionError Row := do
  let values ← row.lookupAll columns
  return .ofList (columns.zip values)

/-- The columns that a select list asks for; none when it asks for all. -/
def projectedColumns? (fields : List SelectItem) : Option (List String) :=
  if fields.contains .star then none else some (fields.map SelectItem.name)

/-- The rows of the given columns; all columns when none are given. -/
def projectRows (columns : Option (List String)) (rows : List Row) :
    Except ExecutionError (List Row) :=
  match columns with
  | none => .ok rows
  | some columns => rows.mapM (Row.project columns)

end TableQuery
