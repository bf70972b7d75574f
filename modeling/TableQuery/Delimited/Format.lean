/-!
# Delimited text

The bytes of records and back. Fields end at a delimiter and records at a line end; a field that
starts with a quote may hold both, with a quote written twice. Empty lines are no records, so a
record whose only field is empty is written as two quotes.
-/

namespace TableQuery

namespace Delimited

/-- The bytes of a field, and the fields of a record. -/
abbrev Field := List UInt8

/-- The byte `"`. -/
def quote : UInt8 := 0x22

/-- The byte that ends a line when written. -/
def newline : UInt8 := 0x0a

/-- The byte that may come before it. -/
def carriageReturn : UInt8 := 0x0d

/-- Whether a byte ends a record. -/
def isLineEnd (b : UInt8) : Bool := b == newline || b == carriageReturn

/-- The bytes that mark UTF-8 at the start of a file. -/
def byteOrderMark : List UInt8 := [0xef, 0xbb, 0xbf]

/-! ## Reading -/

/-- Where in a record the reader stands. -/
inductive Place where
  | recordStart
  | fieldStart
  | plain
  | inQuotes
  | afterQuote
  deriving DecidableEq

/-- What a byte does: it is passed over or copied to the field, on the way to a place, or it ends
the field or the record. -/
inductive Move where
  | skip (place : Place)
  | copy (place : Place)
  | endField
  | endRecord
  deriving DecidableEq

/-- What a byte does at a place. A quote opens a quoted part only at the start of a field, and what
follows a closing quote is read on as it is. -/
def move (delimiter : UInt8) (place : Place) (b : UInt8) : Move :=
  let plain :=
    if b == delimiter then .endField else if isLineEnd b then .endRecord else .copy .plain
  let first := if b == quote then .skip .inQuotes else plain
  match place with
  | .recordStart => if isLineEnd b then .skip .recordStart else first
  | .fieldStart => first
  | .plain => plain
  | .inQuotes => if b == quote then .skip .afterQuote else .copy .inQuotes
  | .afterQuote => if b == quote then .copy .inQuotes else plain

/-- The records of the bytes that are left; `record` and `field` hold what is read of the current
ones, last first. An unfinished record at the end counts, also inside quotes. -/
def recordsFrom (delimiter : UInt8) :
    Place → List Field → Field → List UInt8 → List (List Field)
  | .recordStart, _, _, [] => []
  | _, record, field, [] => [(field.reverse :: record).reverse]
  | place, record, field, b :: rest =>
    match move delimiter place b with
    | .skip place => recordsFrom delimiter place record field rest
    | .copy place => recordsFrom delimiter place record (b :: field) rest
    | .endField => recordsFrom delimiter .fieldStart (field.reverse :: record) [] rest
    | .endRecord =>
      (field.reverse :: record).reverse :: recordsFrom delimiter .recordStart [] [] rest

/-- The records of a file, without a byte-order mark in front. -/
def records (delimiter : UInt8) (bytes : List UInt8) : List (List Field) :=
  let body := if byteOrderMark.isPrefixOf bytes then bytes.drop byteOrderMark.length else bytes
  recordsFrom delimiter .recordStart [] [] body

/-! ## Writing -/

/-- Whether a field has to be quoted. -/
def needsQuotes (delimiter : UInt8) (field : Field) : Bool :=
  field.any fun b => b == delimiter || b == quote || isLineEnd b

/-- A field between quotes, its own quotes doubled. -/
def quoted (field : Field) : List UInt8 :=
  quote :: (field.flatMap (fun b => if b == quote then [quote, quote] else [b]) ++ [quote])

/-- A written field. -/
def writeField (delimiter : UInt8) (field : Field) : List UInt8 :=
  if needsQuotes delimiter field then quoted field else field

/-- A written record with its line end. -/
def writeRecord (delimiter : UInt8) (record : List Field) : List UInt8 :=
  let line :=
    if record = [[]] then quoted []
    else List.intercalate [delimiter] (record.map (writeField delimiter))
  line ++ [newline]

/-- A written file. -/
def write (delimiter : UInt8) (records : List (List Field)) : List UInt8 :=
  records.flatMap (writeRecord delimiter)

end Delimited

end TableQuery
