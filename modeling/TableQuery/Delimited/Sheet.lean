import TableQuery.Delimited.Format
import TableQuery.Delimited.Kind
import TableQuery.Query.Filter

/-!
# Sheets

A sheet is the content of a file of delimited text: a header and records of cells as they are
written, an empty cell being none. Values are told from the cells only when a table is asked for, so
a cell that no statement touches keeps its spelling.
-/

namespace TableQuery

/-- A header, and records of cells as written. -/
structure Sheet where
  columns : List String
  records : List (List (Option String))
  deriving DecidableEq, Inhabited

namespace Sheet

/-- Whether a byte is ASCII white space. -/
def isBlankByte (b : UInt8) : Bool :=
  b == 0x20 || b == 0x09 || b == 0x0a || b == 0x0c || b == 0x0d

/-- The bytes of a text. -/
def bytesOf (text : String) : List UInt8 := text.toUTF8.data.toList

/-- The text that bytes spell, if they spell one. -/
def textOf? (bytes : List UInt8) : Option String := String.fromUTF8? ⟨bytes.toArray⟩

/-- A cell as written; an empty text is no cell. -/
def cell (text : String) : Option String := if text.isEmpty then none else some text

/-- The sheet of some bytes; white space alone has no columns, nor has a byte-order mark alone. Else
there must be a header, records as wide as it, and fields that spell texts. -/
def ofBytes (delimiter : UInt8) (bytes : List UInt8) : Result Sheet :=
  if bytes.all isBlankByte then .ok ⟨[], []⟩
  else
    match (Delimited.records delimiter bytes).mapM (·.mapM textOf?) with
    | none => .error (.store .malformed)
    | some [] =>
      if bytes = Delimited.byteOrderMark then .ok ⟨[], []⟩ else .error (.store .malformed)
    | some (columns :: records) =>
      if records.all fun record => record.length == columns.length then
        .ok ⟨columns, records.map (·.map cell)⟩
      else .error (.store .malformed)

/-- The bytes of a sheet; without columns there are none. -/
def toBytes (delimiter : UInt8) (sheet : Sheet) : List UInt8 :=
  if sheet.columns.isEmpty then []
  else
    Delimited.write delimiter
      (sheet.columns.map bytesOf ::
        sheet.records.map fun record => record.map fun cell => bytesOf (cell.getD ""))

/-- The cells of each column. -/
def cellsByColumn : List String → List (List (Option String)) → List (List (Option String))
  | [], _ => []
  | _ :: columns, records =>
    records.map (fun record => (record.head?).getD none) ::
      cellsByColumn columns (records.map List.tail)

/-- The kind of each column. -/
def kinds (sheet : Sheet) : List Delimited.Kind :=
  (cellsByColumn sheet.columns sheet.records).map Delimited.Kind.ofCells

/-- The row of a record, given the kind of each column. -/
def row (sheet : Sheet) (kinds : List Delimited.Kind) (record : List (Option String)) : Row :=
  .ofList (sheet.columns.zip ((kinds.zip record).map fun (kind, cell) => kind.value cell))

/-- The sheet as a table. -/
def toTable (sheet : Sheet) : Table :=
  let kinds := sheet.kinds
  ⟨sheet.columns, sheet.records.map (sheet.row kinds)⟩

/-- The sheet with one more record: for each column the first text given for it. -/
def insert (sheet : Sheet) (columns values : List String) : Sheet :=
  let given := columns.zip values
  let record := sheet.columns.map fun column => (given.lookup column).bind cell
  { sheet with records := sheet.records ++ [record] }

/-- The sheet without the records that a filter accepts, and their number. -/
def delete (sheet : Sheet) (filter : Filter) : Except ExecutionError (Nat × Sheet) := do
  let kinds := sheet.kinds
  let accepted ← sheet.records.mapM fun record => filter.accepts (sheet.row kinds record)
  let kept := (accepted.zip sheet.records).filterMap fun (accepted, record) =>
    if accepted then none else some record
  return (sheet.records.length - kept.length, { sheet with records := kept })

end Sheet

end TableQuery
