import TableQuery.Number.Literal
import TableQuery.Sql.Statement
import TableQuery.Sql.Token

/-!
# Statements as tokens

`Statement.write` spells a statement: keywords and aggregate functions as plain words, names as
words in double quotes, texts in single quotes, and parentheses in a condition only where its tree
needs them. `Style` holds what may be written in more than one way. `Statement.WellFormed` collects
what the grammar asks of a statement, so that it can be spelled at all.
-/

namespace TableQuery

namespace Sql

/-- Choices that leave the meaning as it is: words that may be left out, the order of the two keys
of a join, and a semicolon at the end. -/
structure Style where
  inner : Bool
  outer : Bool
  ascending : Bool
  swapKeys : Bool
  semicolon : Bool

/-- The end of a statement. -/
def Style.ending (style : Style) : List Token := if style.semicolon then [.symbol ";"] else []

/-! ## Tokens -/

/-- A word without quotes: a keyword or the name of a function. -/
def plainWord (text : String) : Token := .word text none

/-- A name as a word in double quotes. -/
def quotedName (name : String) : Token := .word name (some '"')

/-- The point between a table and a column. -/
def point : Token := .symbol "."

/-- The comma between items. -/
def comma : Token := .symbol ","

section

variable {α : Type}

/-- Items with commas between them. -/
def writeList (write : α → List Token) (items : List α) : List Token :=
  [comma].intercalate (items.map write)

/-- Further operands, each behind a keyword. -/
def writeOperands (name : String) (write : α → List Token) (operands : List α) : List Token :=
  operands.flatMap fun a => plainWord name :: write a

/-- An optional clause: its keyword and its body. -/
def writeClause (name : String) (write : α → List Token) : Option α → List Token
  | none => []
  | some body => plainWord name :: write body

end

/-- A word that is there or left out. -/
def writeOptional (name : String) (present : Bool) : List Token :=
  if present then [plainWord name] else []

/-- Tokens, in parentheses if they have to be. -/
def parenthesize (needed : Bool) (tokens : List Token) : List Token :=
  if needed then [.symbol "("] ++ tokens ++ [.symbol ")"] else tokens

/-- An integer, with a minus sign of its own in front of the digits. -/
def writeInteger (i : Int64) : List Token :=
  let digits : Token := .number (Literal.writeInt i.toInt.natAbs) false
  if i.toInt < 0 then [.symbol "-", digits] else [digits]

/-- A literal. There is no way to write a floating-point number that always reads back. -/
def writeLiteral : Value → List Token
  | .null => [plainWord "NULL"]
  | .int64 i => writeInteger i
  | .float64 _ => []
  | .text text => [.quoted text]

end Sql

open Sql

/-! ## Conditions -/

/-- The token of an operator. -/
def ComparisonOperator.write : ComparisonOperator → Token
  | eq => .symbol "="
  | ne => .symbol "<>"
  | gt => .symbol ">"
  | lt => .symbol "<"
  | ge => .symbol ">="
  | le => .symbol "<="
  | like => plainWord "LIKE"

/-- A comparison as tokens. -/
def Comparison.write (comparison : Comparison) : List Token :=
  [quotedName comparison.field, comparison.operator.write] ++ writeLiteral comparison.value

namespace Condition

/-- Whether a condition is a disjunction. -/
def isOr : Condition → Bool
  | or _ _ => true
  | _ => false

/-- Whether a condition is a comparison. -/
def isCompare : Condition → Bool
  | compare _ => true
  | _ => false

/-- A condition as tokens. Below AND a disjunction needs parentheses, and so does a right operand
with the connective it stands below. -/
def write : Condition → List Token
  | compare comparison => comparison.write
  | and left right =>
    parenthesize left.isOr left.write ++
      plainWord "AND" :: parenthesize (!right.isCompare) right.write
  | or left right => left.write ++ plainWord "OR" :: parenthesize right.isOr right.write

/-- Whether all literals can be written: there is no floating-point number among them. -/
def WellFormed (condition : Condition) : Prop :=
  ∀ comparison ∈ condition.comparisons, ∀ x, comparison.value ≠ .float64 x

end Condition

/-! ## Queries -/

/-- An argument of an aggregate as a token. -/
def AggregateArgument.write : AggregateArgument → Token
  | star => .symbol "*"
  | column name => quotedName name

namespace SelectItem

/-- An entry of a select list as tokens. -/
def write : SelectItem → List Token
  | star => [.symbol "*"]
  | column name => [quotedName name]
  | aggregate call =>
    [plainWord call.function.name, .symbol "(", call.argument.write, .symbol ")"]

/-- Whether an entry may stand beside others: the star may not, and only COUNT counts rows. -/
def WellFormed : SelectItem → Prop
  | star => False
  | column _ => True
  | aggregate call => call.argument = .star → call.function = .count

end SelectItem

/-- A sort key as tokens. -/
def OrderKey.write (style : Style) (key : OrderKey) : List Token :=
  match key.direction with
  | .ascending => quotedName key.field :: writeOptional "ASC" style.ascending
  | .descending => [quotedName key.field, plainWord "DESC"]

/-- A column and its table as tokens. -/
def ColumnRef.write (ref : ColumnRef) : List Token :=
  [quotedName ref.table, point, quotedName ref.column]

/-- The words in front of JOIN. -/
def JoinKind.write (style : Style) : JoinKind → List Token
  | inner => writeOptional "INNER" style.inner
  | left => plainWord "LEFT" :: writeOptional "OUTER" style.outer
  | right => plainWord "RIGHT" :: writeOptional "OUTER" style.outer

namespace JoinClause

/-- A join as tokens. -/
def write (style : Style) (clause : JoinClause) : List Token :=
  let (first, second) :=
    if style.swapKeys then (clause.rightKey, clause.leftKey) else (clause.leftKey, clause.rightKey)
  clause.kind.write style ++ [plainWord "JOIN", quotedName clause.table, plainWord "ON"] ++
    first.write ++ .symbol "=" :: second.write

/-- Whether a join is one of two tables, and its keys name one table each. -/
structure WellFormed (table : String) (clause : JoinClause) : Prop where
  distinct : Text.sameIgnoringAsciiCase clause.table table = false
  leftKey : Text.sameIgnoringAsciiCase clause.leftKey.table table = true
  rightKey : Text.sameIgnoringAsciiCase clause.rightKey.table clause.table = true

end JoinClause

namespace SelectStatement

/-- A query as tokens, without its end. -/
def write (style : Style) (statement : SelectStatement) : List Token :=
  plainWord "SELECT" :: writeOptional "DISTINCT" statement.distinct ++
    writeList SelectItem.write statement.fields ++
    [plainWord "FROM", quotedName statement.table] ++
    (statement.join.map (JoinClause.write style)).getD [] ++
    writeClause "WHERE" Condition.write statement.condition ++
    writeClause "GROUP" (fun names => plainWord "BY" :: writeList (fun name => [quotedName name])
      names) statement.groupBy ++
    writeClause "ORDER" (fun keys => plainWord "BY" :: writeList (OrderKey.write style) keys)
      statement.orderBy ++
    writeClause "LIMIT" writeInteger statement.limit

/-- What the grammar asks of a query. -/
structure WellFormed (statement : SelectStatement) : Prop where
  fields : statement.fields = [.star] ∨
    statement.fields ≠ [] ∧ ∀ item ∈ statement.fields, item.WellFormed
  join : ∀ clause ∈ statement.join, clause.WellFormed statement.table
  condition : ∀ condition ∈ statement.condition, condition.WellFormed
  groupBy : statement.groupBy ≠ some []
  implicitGroup : statement.implicitGroup = (statement.groupBy.isNone && statement.hasAggregate)
  orderBy : statement.orderBy ≠ some []
  limit : ∀ count ∈ statement.limit, Int64.minValue < count

end SelectStatement

/-! ## Statements -/

namespace InsertStatement

/-- An insertion as tokens, without its end. -/
def write (statement : InsertStatement) : List Token :=
  [plainWord "INSERT", plainWord "INTO", quotedName statement.table, .symbol "("] ++
    writeList (fun name => [quotedName name]) statement.columns ++
    [.symbol ")", plainWord "VALUES", .symbol "("] ++
    writeList (fun text => [.quoted text]) statement.values ++ [.symbol ")"]

/-- What the grammar asks of an insertion. -/
structure WellFormed (statement : InsertStatement) : Prop where
  columns : statement.columns ≠ []
  values : statement.columns.length = statement.values.length

end InsertStatement

namespace DeleteStatement

/-- A deletion as tokens, without its end. -/
def write (statement : DeleteStatement) : List Token :=
  [plainWord "DELETE", plainWord "FROM", quotedName statement.table] ++
    writeClause "WHERE" Condition.write statement.condition

/-- What the grammar asks of a deletion. -/
def WellFormed (statement : DeleteStatement) : Prop :=
  ∀ condition ∈ statement.condition, condition.WellFormed

end DeleteStatement

namespace Statement

/-- A statement as tokens. -/
def write (style : Style) (statement : Statement) : List Token :=
  (match statement with
    | select statement => statement.write style
    | insert statement => statement.write
    | delete statement => statement.write) ++ style.ending

/-- What the grammar asks of a statement. -/
def WellFormed : Statement → Prop
  | select statement => statement.WellFormed
  | insert statement => statement.WellFormed
  | delete statement => statement.WellFormed

end Statement

end TableQuery
