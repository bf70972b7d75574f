import TableQuery.Text.Letter
import TableQuery.Value

/-!
# Kinds of columns

A column of cells as written is read as integers if all its cells look like integers, as
floating-point numbers if all look like numbers and at least one is no integer, and as text
otherwise. Empty cells do not count. Digits of any script look like digits, though only ASCII ones
can be read.
-/

namespace TableQuery

namespace Delimited

/-- What a cell looks like. -/
inductive Look where
  | integer
  | float
  | other
  deriving DecidableEq

namespace Look

/-- Whether a text is a run of at least one digit. -/
def isDigits (text : List Char) : Bool := !text.isEmpty && text.all Text.isDecimalDigit

/-- A text without one minus sign at its start. -/
def unsigned : List Char → List Char
  | '-' :: rest => rest
  | text => text

/-- Whether a text is an exponent: its mark, an optional sign, digits. -/
def isExponent : List Char → Bool
  | mark :: rest => (mark == 'e' || mark == 'E') && isDigits (Literal.splitSign rest).2
  | [] => false

/-- Whether a text without its sign looks like a number that is no integer: digits with a point
among or beside them, or digits and an exponent. -/
def isFloatBody (text : List Char) : Bool :=
  let whole := text.takeWhile Text.isDecimalDigit
  match text.dropWhile Text.isDecimalDigit with
  | '.' :: rest =>
    let fraction := rest.takeWhile Text.isDecimalDigit
    let tail := rest.dropWhile Text.isDecimalDigit
    !(whole.isEmpty && fraction.isEmpty) && (tail.isEmpty || isExponent tail)
  | tail => !whole.isEmpty && isExponent tail

/-- Integers this long, in bytes, count only if they fit 64 bits. -/
def longInteger : Nat := 19

/-- What a cell looks like. -/
def of (cell : String) : Look :=
  let text := cell.toList
  let body := unsigned text
  if isDigits body then
    if longInteger ≤ cell.utf8ByteSize && (Literal.readInt64? text).isNone then .other
    else .integer
  else if isFloatBody body then .float
  else if ["NaN", "nan", "inf", "-inf"].contains cell then .float
  else .other

end Look

/-- How the cells of a column are read. -/
inductive Kind where
  | int64
  | float64
  | text
  deriving DecidableEq

namespace Kind

/-- The kind of a column. -/
def ofCells (cells : List (Option String)) : Kind :=
  let looks := (cells.filterMap id).map Look.of
  if looks.contains .other || looks.isEmpty then .text
  else if looks.contains .float then .float64
  else .int64

/-- The value of a cell in a column of this kind. -/
def value (kind : Kind) : Option String → Value
  | none => .null
  | some cell =>
    match kind with
    | int64 =>
      match Literal.readInt64? cell.toList with
      | some i => .int64 i
      | none => .infer cell
    | float64 =>
      match Literal.readBinary64? cell.toList with
      | some x => .float64 x
      | none => .infer cell
    | text => .text cell

end Kind

end Delimited

end TableQuery
