import TableQuery.Error
import TableQuery.Named
import TableQuery.Value

/-!
# Rows and tables

A row is an ordered list of named cells in which no name occurs twice. Writing to a name that is
there replaces its value in place, and a new name goes to the end. A field reference is resolved by
`lookup`: the exact name first; then a reference with a point falls back to what follows its first
point, and one without a point to the only cell whose name ends in it after a last point.
-/

namespace TableQuery

/-- One record: cells with pairwise distinct names. -/
structure Row where
  cells : List (String × Value)
  nodup : (Named.names cells).Nodup
  deriving DecidableEq

namespace Row

/-- The row without cells. -/
def empty : Row := ⟨[], List.nodup_nil⟩

/-- The default row has no cells. -/
instance : Inhabited Row := ⟨empty⟩

/-- The names of the cells, in order. -/
def columns (row : Row) : List String := Named.names row.cells

/-- The values of the cells, in order. -/
def values (row : Row) : List Value := row.cells.map Prod.snd

/-- The value of the cell with exactly this name. -/
def get? (row : Row) (column : String) : Option Value := row.cells.lookup column

/-- Whether there is a cell with exactly this name. -/
def contains (row : Row) (column : String) : Bool := (row.get? column).isSome

/-- Sets the cell of this name. -/
def insert (row : Row) (column : String) (value : Value) : Row :=
  ⟨Named.set column value row.cells, Named.nodup_set column value row.nodup⟩

/-- The row that a list of cells builds when they are inserted one after the other. -/
def ofList (cells : List (String × Value)) : Row :=
  cells.foldl (fun row cell => row.insert cell.1 cell.2) empty

/-- Cells under new and distinct names go to the end in their order. -/
theorem cells_foldl_insert (row : Row) (cells : List (String × Value))
    (h : (Named.names (row.cells ++ cells)).Nodup) :
    (cells.foldl (fun row cell => row.insert cell.1 cell.2) row).cells = row.cells ++ cells := by
  induction cells generalizing row with
  | nil => simp
  | cons cell cells ih =>
    have hnew : cell.1 ∉ Named.names row.cells := by
      simp only [Named.names, List.map_append, List.map_cons, List.nodup_append] at h ⊢
      exact fun hmem => h.2.2 _ hmem _ List.mem_cons_self rfl
    have hcells : (row.insert cell.1 cell.2).cells = row.cells ++ [cell] :=
      Named.set_of_not_mem cell.2 hnew
    rw [List.foldl_cons, ih, hcells, List.append_assoc, List.singleton_append]
    rwa [hcells, List.append_assoc, List.singleton_append]

/-- Cells under distinct names make up their row as they are. -/
theorem cells_ofList {cells : List (String × Value)} (h : (Named.names cells).Nodup) :
    (ofList cells).cells = cells :=
  cells_foldl_insert empty cells h

/-- What follows the first point of a name, if it has one. -/
def afterFirstPoint? (name : List Char) : Option (List Char) :=
  match name.dropWhile (· != '.') with
  | [] => none
  | _ :: rest => some rest

/-- What follows the last point of a name, if it has one. -/
def afterLastPoint? (name : List Char) : Option (List Char) :=
  if name.contains '.' then some (name.reverse.takeWhile (· != '.')).reverse else none

/-- The cells whose names end in this field after a last point. -/
def candidates (row : Row) (field : String) : List (String × Value) :=
  row.cells.filter fun cell => afterLastPoint? cell.1.toList == some field.toList

/-- The value that a field reference stands for. -/
def lookup (row : Row) (field : String) : Except ExecutionError Value :=
  match row.get? field with
  | some value => .ok value
  | none =>
    match afterFirstPoint? field.toList with
    | some column =>
      match row.get? (String.ofList column) with
      | some value => .ok value
      | none => .error (.missingField field)
    | none =>
      match row.candidates field with
      | [] => .error (.missingField field)
      | [cell] => .ok cell.2
      | first :: second :: _ => .error (.ambiguousField field first.1 second.1)

/-- The values that a list of field references stands for. -/
def lookupAll (row : Row) (fields : List String) : Except ExecutionError (List Value) :=
  fields.mapM row.lookup

/-- The composite key of all values of a row. -/
def groupKey (row : Row) : String := Value.groupKeys row.values

end Row

/-- A table at one moment: its columns in order, and its rows. -/
structure Table where
  columns : List String
  rows : List Row
  deriving DecidableEq, Inhabited

namespace Table

/-- The table of a list of rows; the first row fixes the columns. -/
def ofRows (rows : List Row) : Table := ⟨(rows.head?.map Row.columns).getD [], rows⟩

/-- The number of rows. -/
def size (table : Table) : Nat := table.rows.length

/-- The table with one more row at its end. -/
def push (table : Table) (row : Row) : Table := { table with rows := table.rows ++ [row] }

end Table

end TableQuery
