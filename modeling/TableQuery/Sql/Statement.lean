import TableQuery.Value
import TableQuery.Text.Case

/-!
# Statements

The three kinds of statement and their clauses. A select list is the star alone or a list of
columns and aggregates; conditions are trees of comparisons; a join names its two keys with the
table of each.
-/

namespace TableQuery

/-- A function of a group of rows. -/
inductive AggregateFunction where
  | count
  | sum
  | avg
  | min
  | max
  | median
  deriving DecidableEq

namespace AggregateFunction

/-- All aggregate functions. -/
def all : List AggregateFunction := [count, sum, avg, min, max, median]

/-- The name of a function as it is printed. -/
def name : AggregateFunction → String
  | count => "COUNT"
  | sum => "SUM"
  | avg => "AVG"
  | min => "MIN"
  | max => "MAX"
  | median => "MEDIAN"

/-- The function of this name in any ASCII case. -/
def ofName? (text : String) : Option AggregateFunction :=
  all.find? fun function => function.name == Text.asciiUpper text

end AggregateFunction

/-- What an aggregate is taken of: whole rows, or one column. -/
inductive AggregateArgument where
  | star
  | column (name : String)
  deriving DecidableEq

/-- The text of an argument. -/
def AggregateArgument.toText : AggregateArgument → String
  | star => "*"
  | column name => name

/-- An aggregate function applied to its argument. -/
structure AggregateCall where
  function : AggregateFunction
  argument : AggregateArgument
  deriving DecidableEq

/-- The text of an aggregate, which also names its column. -/
def AggregateCall.toText (call : AggregateCall) : String :=
  call.function.name ++ "(" ++ call.argument.toText ++ ")"

/-- An entry of a select list. -/
inductive SelectItem where
  | star
  | column (name : String)
  | aggregate (call : AggregateCall)
  deriving DecidableEq

namespace SelectItem

/-- Whether the entry is an aggregate. -/
def isAggregate : SelectItem → Bool
  | aggregate _ => true
  | _ => false

/-- The name of the entry's column in the result. -/
def name : SelectItem → String
  | star => "*"
  | column name => name
  | aggregate call => call.toText

end SelectItem

/-- The operator of a comparison. -/
inductive ComparisonOperator where
  | eq
  | ne
  | gt
  | lt
  | ge
  | le
  | like
  deriving DecidableEq

/-- A field compared with a literal. -/
structure Comparison where
  field : String
  operator : ComparisonOperator
  value : Value
  deriving DecidableEq

/-- A tree of comparisons. -/
inductive Condition where
  | compare (comparison : Comparison)
  | and (left right : Condition)
  | or (left right : Condition)
  deriving DecidableEq

/-- The comparisons of a condition in the order written. -/
def Condition.comparisons : Condition → List Comparison
  | compare comparison => [comparison]
  | and left right => left.comparisons ++ right.comparisons
  | or left right => left.comparisons ++ right.comparisons

/-- Which rows without a partner a join keeps. -/
inductive JoinKind where
  | inner
  | left
  | right
  deriving DecidableEq

/-- A column and its table. -/
structure ColumnRef where
  table : String
  column : String
  deriving DecidableEq

/-- A column of a table as it is named in a joined row. -/
def ColumnRef.toText (ref : ColumnRef) : String := ref.table ++ "." ++ ref.column

/-- A join of the selected table, on the left, with a second one. -/
structure JoinClause where
  kind : JoinKind
  table : String
  leftKey : ColumnRef
  rightKey : ColumnRef
  deriving DecidableEq

/-- Which way a sort key runs. -/
inductive SortDirection where
  | ascending
  | descending
  deriving DecidableEq

/-- A sort key. -/
structure OrderKey where
  field : String
  direction : SortDirection
  deriving DecidableEq

/-- A query. `implicitGroup` asks for one group of all rows. -/
structure SelectStatement where
  fields : List SelectItem
  table : String
  condition : Option Condition
  join : Option JoinClause
  groupBy : Option (List String)
  implicitGroup : Bool
  orderBy : Option (List OrderKey)
  limit : Option Int64
  distinct : Bool
  deriving DecidableEq

namespace SelectStatement

/-- Whether an aggregate is selected. -/
def hasAggregate (statement : SelectStatement) : Bool :=
  statement.fields.any SelectItem.isAggregate

/-- Whether rows are grouped. -/
def isGrouped (statement : SelectStatement) : Bool :=
  statement.groupBy.isSome || statement.implicitGroup

end SelectStatement

/-- One new row: texts for some columns of a table. -/
structure InsertStatement where
  table : String
  columns : List String
  values : List String
  deriving DecidableEq

/-- Removal of the rows that a condition accepts, or of all rows. -/
structure DeleteStatement where
  table : String
  condition : Option Condition
  deriving DecidableEq

/-- A statement. -/
inductive Statement where
  | select (statement : SelectStatement)
  | insert (statement : InsertStatement)
  | delete (statement : DeleteStatement)
  deriving DecidableEq

end TableQuery
