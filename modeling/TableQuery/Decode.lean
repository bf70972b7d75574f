import TableQuery.Row

/-!
# Typed cells and rows

Cells are decoded into types of the caller: integers, floating-point numbers, texts, truth values,
optional ones, or the value as it is. A row decoder names the columns that it reads and decodes them
in order; the first failure wins.
-/

namespace TableQuery

/-- Decodes a value; the field is named in errors. -/
abbrev CellDecoder (α : Type) := String → Value → Except ExecutionError α

namespace CellDecoder

/-- The error about a value that does not fit a type. -/
def mismatch {α : Type} (expected field : String) (value : Value) : Except ExecutionError α :=
  let actual :=
    match value with
    | .null => "NULL"
    | other => other.kindName ++ " '" ++ other.toText ++ "'"
  .error (.typeMismatch field expected actual)

/-- An integer, a whole number brought into range, or a text that spells an integer. -/
def int64 : CellDecoder Int64 := fun field value =>
  match value with
  | .int64 i => .ok i
  | .float64 x => if x.isWhole then .ok x.toInt64 else mismatch "i64" field value
  | .text _ =>
    match value.asInt64? with
    | some i => .ok i
    | none => mismatch "i64" field value
  | .null => mismatch "i64" field value

/-- An integer of 32 bits. -/
def int32 : CellDecoder Int32 := fun field value => do
  let i := (← int64 field value).toInt
  if Int32.minValue.toInt ≤ i ∧ i ≤ Int32.maxValue.toInt then return Int32.ofInt i
  else mismatch "i32" field value

/-- What reads as a number. -/
def binary64 : CellDecoder Binary64 := fun field value =>
  match value.asBinary64? with
  | some x => .ok x
  | none => mismatch "f64" field value

/-- The text of any value that is there. -/
def text : CellDecoder String := fun field value =>
  if value.isNull then mismatch "String" field value else .ok value.toText

/-- Zero or one, or a word for a truth value in any ASCII case. -/
def bool : CellDecoder Bool := fun field value =>
  match value with
  | .int64 i =>
    if i = 0 then .ok false else if i = 1 then .ok true else mismatch "bool" field value
  | .text s =>
    let word := s.map Char.toLower
    if word = "true" then .ok true
    else if word = "false" then .ok false
    else mismatch "bool" field value
  | _ => mismatch "bool" field value

/-- The value as it is. -/
def value : CellDecoder Value := fun _ value => .ok value

/-- Nothing for an empty cell, else what another decoder gives. -/
def optional {α : Type} (decoder : CellDecoder α) : CellDecoder (Option α) := fun field value =>
  if value.isNull then .ok none else some <$> decoder field value

end CellDecoder

/-- Decodes a row: the columns that it reads, and how. -/
structure RowDecoder (α : Type) where
  columns : List String
  decode : Row → Except ExecutionError α

namespace RowDecoder

/-- Decodes one column. -/
def column {α : Type} (name : String) (decoder : CellDecoder α) : RowDecoder α where
  columns := [name]
  decode row := do decoder name (← row.lookup name)

/-- Reads no column. -/
def pure {α : Type} (x : α) : RowDecoder α := ⟨[], fun _ => .ok x⟩

/-- Decodes a function and then its argument. -/
def seq {α β : Type} (f : RowDecoder (α → β)) (x : Unit → RowDecoder α) : RowDecoder β where
  columns := f.columns ++ (x ()).columns
  decode row := do
    let g ← f.decode row
    let y ← (x ()).decode row
    return g y

/-- Decoders are read one after the other. -/
instance : Applicative RowDecoder := { pure := pure, seq := seq }

/-- The row as it is. -/
def row : RowDecoder Row := ⟨[], .ok⟩

/-- Decodes a list of rows. -/
def decodeAll {α : Type} (decoder : RowDecoder α) (rows : List Row) :
    Except ExecutionError (List α) :=
  rows.mapM decoder.decode

end RowDecoder

end TableQuery
