import TableQuery.Columnar.Date
import TableQuery.Row

/-!
# Columnar batches

A batch holds the same cells as a table by columns, each of one type. Integers of up to 32 bits
without a sign and all signed ones become 64-bit integers, both floating-point types become
floating-point values, texts stay texts, and every other type is shown as text. The way back picks
for each column the narrowest of integer, floating point and text that holds all its values.
-/

namespace TableQuery

/-- The type of a column. -/
inductive ColumnType where
  | int8
  | int16
  | int32
  | int64
  | uint8
  | uint16
  | uint32
  | uint64
  | float32
  | float64
  | text
  | largeText
  | boolean
  | date
  | null
  deriving DecidableEq

namespace ColumnType

/-- What a cell of a column holds. -/
@[reducible] def Cell : ColumnType → Type
  | int8 => Int8
  | int16 => Int16
  | int32 => Int32
  | int64 => Int64
  | uint8 => UInt8
  | uint16 => UInt16
  | uint32 => UInt32
  | uint64 => UInt64
  | float32 => Binary64
  | float64 => Binary64
  | text => String
  | largeText => String
  | boolean => Bool
  | date => Int32
  | null => Unit

/-- The text of a day; one outside the calendar is shown as an error. -/
def dateText (days : Int) : String :=
  let date := Date.ofDays days
  if date.isSupported then date.toText
  else "ERROR: Cast error: Failed to convert " ++ Literal.writeInt days ++ " to temporal for Date32"

/-- The value of a cell. -/
def value : (type : ColumnType) → type.Cell → Value
  | int8, i => .int64 (Int64.ofInt (Int8.toInt i))
  | int16, i => .int64 (Int64.ofInt (Int16.toInt i))
  | int32, i => .int64 (Int64.ofInt (Int32.toInt i))
  | int64, i => .int64 i
  | uint8, n => .int64 (Int64.ofNat (UInt8.toNat n))
  | uint16, n => .int64 (Int64.ofNat (UInt16.toNat n))
  | uint32, n => .int64 (Int64.ofNat (UInt32.toNat n))
  | uint64, n => .text (Literal.writeInt (UInt64.toNat n))
  | float32, x => .float64 x
  | float64, x => .float64 x
  | text, s => .text s
  | largeText, s => .text s
  | boolean, b => .text (if b then "true" else "false")
  | date, days => .text (dateText (Int32.toInt days))
  | null, _ => .text ""

end ColumnType

/-- A named column of one type; a missing cell is empty. -/
structure Column where
  name : String
  type : ColumnType
  cells : List (Option type.Cell)

namespace Column

/-- The values of a column. -/
def values (column : Column) : List Value :=
  column.cells.map fun cell => (cell.map column.type.value).getD .null

/-- The number of empty cells. -/
def nullCount (column : Column) : Nat := column.cells.countP Option.isNone

/-- A column of values, of the narrowest type that holds them all. -/
def ofValues (name : String) (values : List Value) : Column :=
  if values.any Value.isText then
    ⟨name, .text, values.map fun value => if value.isNull then none else some value.toText⟩
  else if values.any Value.isFloat then
    ⟨name, .float64, values.map Value.asBinary64?⟩
  else ⟨name, .int64, values.map Value.asInt64?⟩

end Column

/-- Columns of the same number of cells, at least one column. -/
structure Batch where
  columns : List Column
  size : Nat
  uniform : ∀ column ∈ columns, column.cells.length = size
  nonempty : columns ≠ []

namespace Batch

/-- The batch of some columns, which must have the same length and be at least one. -/
def ofColumns (columns : List Column) : Result Batch :=
  let size := (columns.head?.map fun column => column.cells.length).getD 0
  if h : (∀ column ∈ columns, column.cells.length = size) ∧ columns ≠ [] then
    .ok ⟨columns, size, h.1, h.2⟩
  else .error (.store .malformed)

/-- The rows across some columns of values. -/
def transpose : Nat → List (List Value) → List (List Value)
  | 0, _ => []
  | size + 1, columns =>
    columns.map (fun column => column.headD .null) :: transpose size (columns.map List.tail)

/-- The rows of a batch. -/
def rows (batch : Batch) : List Row :=
  let names := batch.columns.map Column.name
  (transpose batch.size (batch.columns.map Column.values)).map fun values =>
    .ofList (names.zip values)

/-- A batch of rows by the given columns; a cell that a row does not have is empty. -/
def ofRows (columns : List String) (rows : List Row) : Result Batch :=
  ofColumns (columns.map fun name =>
    .ofValues name (rows.map fun row => (row.get? name).getD .null))

end Batch

namespace Table

/-- The table of some batches; the first one names the columns. -/
def ofBatches (batches : List Batch) : Table where
  columns := (batches.head?.map fun batch => batch.columns.map Column.name).getD []
  rows := batches.flatMap Batch.rows

/-- The table as one batch. -/
def toBatch (table : Table) : Result Batch := Batch.ofRows table.columns table.rows

end Table

end TableQuery
