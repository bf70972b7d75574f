import TableQuery.Number.Literal
import TableQuery.Text.Blank

/-!
# Values

A cell holds nothing, a 64-bit integer, a floating-point number or a text. Texts that spell a
number are read as that number wherever two values meet: in comparisons, in sorting and in the keys
that joins match on. Grouping is stricter and keeps the four kinds apart.
-/

namespace TableQuery

/-- The content of a cell. -/
inductive Value where
  | null
  | int64 (i : Int64)
  | float64 (x : Binary64)
  | text (s : String)
  deriving DecidableEq, Inhabited

namespace Value

/-- The value that a written cell stands for: nothing when blank, else an integer, else a finite
number, else the text as it is. -/
def infer (cell : String) : Value :=
  let trimmed := Text.trimChars cell.toList
  if trimmed.isEmpty then .null
  else
    match Literal.readInt64? trimmed with
    | some i => .int64 i
    | none =>
      match Literal.readBinary64? trimmed with
      | some x => if x.isFinite then .float64 x else .text cell
      | none => .text cell

/-- Whether the cell holds nothing. -/
def isNull : Value → Bool
  | null => true
  | _ => false

/-- Whether the cell holds a text. -/
def isText : Value → Bool
  | text _ => true
  | _ => false

/-- Whether the cell holds a floating-point number. -/
def isFloat : Value → Bool
  | float64 _ => true
  | _ => false

/-- The integer that a value reads as: an integer, or a text that spells one. -/
def asInt64? : Value → Option Int64
  | int64 i => some i
  | text s => Literal.readInt64? (Text.trimChars s.toList)
  | _ => none

/-- The number that a value reads as; a text must spell a finite one. -/
def asBinary64? : Value → Option Binary64
  | null => none
  | int64 i => some (.ofInt i.toInt)
  | float64 x => some x
  | text s => (Literal.readBinary64? (Text.trimChars s.toList)).filter Binary64.isFinite

/-- The name of a value's kind. -/
def kindName : Value → String
  | null => "null"
  | int64 _ => "integer"
  | float64 _ => "float"
  | text _ => "text"

/-- The text of a value. -/
def toText : Value → String
  | null => "NULL"
  | int64 i => Literal.writeInt i.toInt
  | float64 x => x.toText
  | text s => s

/-- Whether two values are of one kind and equal: no number equals a not-a-number, and the two
zeros are equal. -/
def same : Value → Value → Bool
  | null, null => true
  | int64 a, int64 b => a == b
  | float64 a, float64 b => a.same b
  | text a, text b => a == b
  | _, _ => false

/-! ## Order -/

/-- The order of two present values: as integers when both read as integers, as numbers when both
read as numbers, as texts otherwise. A not-a-number is level with every number. -/
def compare? (a b : Value) : Option Ordering :=
  if a.isNull || b.isNull then none
  else
    match a.asInt64?, b.asInt64? with
    | some i, some j => some (compare i.toInt j.toInt)
    | _, _ =>
      match a.asBinary64?, b.asBinary64? with
      | some x, some y => some ((x.compare? y).getD .eq)
      | _, _ => some (compare a.toText b.toText)

/-- The order of two cells, with empty ones before or after all others. -/
def sortCompare (nullsFirst : Bool) (a b : Value) : Ordering :=
  match a.isNull, b.isNull with
  | true, true => .eq
  | true, false => if nullsFirst then .lt else .gt
  | false, true => if nullsFirst then .gt else .lt
  | false, false => (a.compare? b).getD .eq

/-! ## Keys -/

/-- The key that joins match on: numbers in one spelling, texts as they are. An empty cell has no
key. -/
def joinKey? (v : Value) : Option String :=
  if v.isNull then none
  else
    match v.asInt64? with
    | some i => some (Literal.writeInt i.toInt)
    | none =>
      match v.asBinary64? with
      | some x =>
        if x.isWhole && x.isInt64Range then some (Literal.writeInt x.truncate) else some x.toText
      | none => some v.toText

/-- Ends a value inside a composite key. -/
def keySeparator : Char := '\x1f'

/-- Stands for an empty cell inside a composite key. -/
def nullMarker : Char := '\x00'

/-- A value inside a composite key: a letter for its kind, its text, and the separator. -/
def groupKey : Value → String
  | null => String.ofList [nullMarker, keySeparator]
  | int64 i => ("i" ++ Literal.writeInt i.toInt).push keySeparator
  | float64 x => ("f" ++ x.toText).push keySeparator
  | text s => ("s" ++ s).push keySeparator

/-- The composite key of a list of values. -/
def groupKeys (values : List Value) : String := String.join (values.map groupKey)

end Value

end TableQuery
