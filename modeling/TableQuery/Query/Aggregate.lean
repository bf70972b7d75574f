import TableQuery.Query.Index
import TableQuery.Sql.Statement

/-!
# Grouping and aggregates

Rows with the same composite key form a group; groups come in the order of their first rows, and
without group fields all rows form one group, even when there are none. An aggregate leaves out
empty cells, except that COUNT counts rows. A sum stays an integer while every value reads as one
and no partial sum leaves 64 bits; otherwise it is taken in floating point.
-/

namespace TableQuery

/-- The groups of a list of rows, in the order of their first rows. -/
def groupRows (groupBy : List String) (rows : List Row) :
    Except ExecutionError (List (List Row)) := do
  if groupBy.isEmpty then return [rows]
  let keys ← rows.mapM fun row => Value.groupKeys <$> row.lookupAll groupBy
  let index := Index.ofList (keys.zip rows)
  return (Index.keepNew id ∅ keys).1.map fun key => index.getD key []

namespace AggregateCall

/-- The numbers that the values read as. -/
def numbers (call : AggregateCall) (values : List Value) : Except ExecutionError (List Binary64) :=
  values.mapM fun value =>
    match value.asBinary64? with
    | some x => .ok x
    | none => .error (.typeMismatch call.toText "number" ("'" ++ value.toText ++ "'"))

/-- The sum of integers from left to right; none as soon as a partial sum leaves 64 bits. -/
def checkedSum (integers : List Int64) : Option Int64 :=
  integers.foldlM (fun total i =>
    let next := total.toInt + i.toInt
    if Literal.fitsInt64 next then some (Int64.ofInt next) else none) 0

/-- The sum of the values, as an integer if possible. -/
def sum (call : AggregateCall) (values : List Value) : Except ExecutionError Value :=
  if values.isEmpty then .ok .null
  else
    match (values.mapM Value.asInt64?).bind checkedSum with
    | some total => .ok (.int64 total)
    | none => do return .float64 (Binary64.sum (← call.numbers values))

/-- The mean of some numbers. -/
def mean (numbers : List Binary64) : Value :=
  if numbers.isEmpty then .null
  else .float64 (Binary64.sum numbers / Binary64.ofInt numbers.length)

/-- The first value that beats all before it; `wanted` says which way a value beats another. -/
def extremum (wanted : Ordering) (values : List Value) : Value :=
  let best := values.foldl (fun best value =>
    match best with
    | none => some value
    | some current => if value.compare? current = some wanted then some value else some current)
    none
  best.getD .null

/-- The middle of some numbers in their total order, or the mean of the two in the middle. -/
def median (numbers : List Binary64) : Value :=
  let sorted := numbers.mergeSort fun x y => x.totalCompare y != .gt
  let middle := sorted.length / 2
  match sorted[middle]? with
  | none => .null
  | some upper =>
    if sorted.length % 2 = 1 then .float64 upper
    else
      match sorted[middle - 1]? with
      | none => .null
      | some lower => .float64 ((lower + upper) / Binary64.ofInt 2)

/-- The value of an aggregate over a group. -/
def value (call : AggregateCall) (group : List Row) : Except ExecutionError Value :=
  match call.argument with
  | .star =>
    if call.function = .count then .ok (.int64 (Int64.ofNat group.length))
    else .error (.typeMismatch call.toText "column" "*")
  | .column name => do
    let values := (← group.mapM fun row => row.lookup name).filter fun value => !value.isNull
    match call.function with
    | .count => return .int64 (Int64.ofNat group.length)
    | .sum => call.sum values
    | .avg => return mean (← call.numbers values)
    | .min => return extremum .lt values
    | .max => return extremum .gt values
    | .median => return median (← call.numbers values)

end AggregateCall

/-- The cell that an entry of the select list gives for a group: an aggregate's value, or the first
row's value of a group field. Other entries give none. -/
def SelectItem.groupCell? (groupBy : List String) (group : List Row) (item : SelectItem) :
    Except ExecutionError (Option (String × Value)) :=
  match item, group.head? with
  | .aggregate call, _ => do return some (call.toText, ← call.value group)
  | .column name, some first => do
    if groupBy.contains name then return some (name, ← first.lookup name) else return none
  | _, _ => .ok none

/-- The row of a group. -/
def groupRow (groupBy : List String) (fields : List SelectItem) (group : List Row) :
    Except ExecutionError Row := do
  let cells ← fields.mapM fun item => item.groupCell? groupBy group
  return .ofList (cells.filterMap id)

/-- One row for each group. -/
def aggregateRows (groupBy : List String) (fields : List SelectItem) (rows : List Row) :
    Except ExecutionError (List Row) := do
  (← groupRows groupBy rows).mapM (groupRow groupBy fields)

end TableQuery
