import TableQuery.Query.Index
import TableQuery.Sql.Statement

/-!
# Joins

One side of a join drives: the left one, or the right one of a right join. Each driving row is
merged with the rows of the other side that have the same key, in their order; a row without
partners is dropped by an inner join and filled with empty cells by the others. The columns of a
merged row carry their table's name, the left table first.
-/

namespace TableQuery

/-- One side of a join: the name its columns are qualified with, its declared columns, and the
column of its key. -/
structure JoinSide where
  table : String
  columns : List String
  key : String

namespace JoinSide

/-- The name of a column in a merged row. -/
def qualify (side : JoinSide) (column : String) : String := side.table ++ "." ++ column

/-- The key of a row; a missing key column is reported with the table's name. -/
def keyOf (side : JoinSide) (row : Row) : Except ExecutionError (Option String) :=
  match row.lookup side.key with
  | .ok value => .ok value.joinKey?
  | .error (.missingField _) => .error (.missingField (side.qualify side.key))
  | .error other => .error other

/-- The cells that a row gives to a merged row; without a row, an empty cell for every column. -/
def cells (side : JoinSide) : Option Row → List (String × Value)
  | some row => row.cells.map fun cell => (side.qualify cell.1, cell.2)
  | none => side.columns.map fun column => (side.qualify column, .null)

end JoinSide

namespace JoinKind

/-- Whether the left side drives. -/
def drivesLeft : JoinKind → Bool
  | right => false
  | _ => true

/-- Whether driving rows without partners are kept. -/
def keepsUnmatched : JoinKind → Bool
  | inner => false
  | _ => true

end JoinKind

namespace Join

/-- The row merged from a driving row and a row of the other side, if there is one. -/
def merge (kind : JoinKind) (left right : JoinSide) (driving : Row) (partner : Option Row) : Row :=
  if kind.drivesLeft then .ofList (left.cells (some driving) ++ right.cells partner)
  else .ofList (left.cells partner ++ right.cells (some driving))

/-- The merged rows of one driving row, given the rows with its key. -/
def mergeAll (kind : JoinKind) (left right : JoinSide) (driving : Row) :
    Option (List Row) → List Row
  | some partners => partners.map fun partner => merge kind left right driving (some partner)
  | none => if kind.keepsUnmatched then [merge kind left right driving none] else []

/-- The rows of the join. The keys of the side that does not drive are looked up first. -/
def rows (kind : JoinKind) (left : JoinSide) (leftRows : List Row) (right : JoinSide)
    (rightRows : List Row) : Except ExecutionError (List Row) := do
  let (driving, drivingRows, other, otherRows) :=
    if kind.drivesLeft then (left, leftRows, right, rightRows)
    else (right, rightRows, left, leftRows)
  let otherKeys ← otherRows.mapM other.keyOf
  let keyed := (otherKeys.zip otherRows).filterMap fun (key, row) => key.map (·, row)
  let index := Index.ofList keyed
  let drivingKeys ← drivingRows.mapM driving.keyOf
  return (drivingKeys.zip drivingRows).flatMap fun (key, row) =>
    mergeAll kind left right row (key.bind (index[·]?))

/-- The join of two tables under the given names and keys. -/
def tables (kind : JoinKind) (leftName : String) (left : Table) (leftKey : String)
    (rightName : String) (right : Table) (rightKey : String) : Except ExecutionError Table := do
  let leftSide : JoinSide := ⟨leftName, left.columns, leftKey⟩
  let rightSide : JoinSide := ⟨rightName, right.columns, rightKey⟩
  let merged ← rows kind leftSide left.rows rightSide right.rows
  return ⟨left.columns.map leftSide.qualify ++ right.columns.map rightSide.qualify, merged⟩

end Join

/-- The join of two tables as a clause says, under the names that its keys use. -/
def JoinClause.tables (clause : JoinClause) (left right : Table) : Except ExecutionError Table :=
  Join.tables clause.kind clause.leftKey.table left clause.leftKey.column
    clause.rightKey.table right clause.rightKey.column

end TableQuery
