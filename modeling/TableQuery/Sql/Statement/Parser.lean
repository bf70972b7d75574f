import TableQuery.Number.Literal
import TableQuery.Sql.Parser
import TableQuery.Sql.Statement
import TableQuery.Sql.Token.Lexer

/-!
# From tokens to statements

The grammar of statements.

    SELECT [DISTINCT] item, ... FROM table
      [[INNER | LEFT [OUTER] | RIGHT [OUTER]] JOIN table ON table.column = table.column]
      [WHERE condition] [GROUP BY field, ...] [ORDER BY item [ASC | DESC], ...] [LIMIT integer]
    INSERT INTO table (column, ...) VALUES (literal, ...)
    DELETE FROM table [WHERE condition]

In a condition AND binds tighter than OR, both group from the left, and parentheses nest.
-/

namespace TableQuery.Sql

namespace Parser

/-! ## Literals -/

/-- The value that a number spells, with its sign. -/
def numberValue? (text : String) : Option Value :=
  match Literal.readInt64? text.toList with
  | some i => some (.int64 i)
  | none => (Literal.readBinary64? text.toList).map .float64

/-- The value of a token that is no number, and its text: a quoted text, a name, or NULL. -/
def wordValue? : Token → Option (Value × String)
  | .quoted text => some (.text text, text)
  | .word text (some _) => some (.text text, text)
  | .word text none =>
    if Text.upper text = "NULL" then some (.null, "")
    else (Token.name? (.word text none)).map fun name => (.text name, name)
  | _ => none

/-- A literal: its value, and its text without quotes. -/
def literal : Parser (Value × String) := do
  let negative ← symbol "-"
  match (← ahead).head? with
  | some (.number digits _) =>
    let text := if negative then "-" ++ digits else digits
    match numberValue? text with
    | some value => skip; return (value, text)
    | none => fail "malformed number"
  | next =>
    if negative then fail "expected a number after `-`"
    else
      match next.bind wordValue? with
      | some result => skip; return result
      | none => fail "expected a value"

/-- The number of a LIMIT clause: digits that fit 64 bits, then negated after a minus. -/
def limit : Parser Int64 := do
  let negative ← symbol "-"
  match (← ahead).head? with
  | some (.number digits _) =>
    match Literal.readInt64? digits.toList with
    | some i => skip; return if negative then -i else i
    | none => fail "LIMIT expects an integer"
  | _ => fail "LIMIT expects an integer"

/-! ## Conditions -/

/-- The keywords of operators that are known but not supported. -/
def unsupportedOperators : List String := ["NOT", "ILIKE", "IS", "IN", "BETWEEN"]

/-- The supported operator that a token stands for. -/
def operator? : Token → Option ComparisonOperator
  | .symbol "=" => some .eq
  | .symbol "<>" => some .ne
  | .symbol ">" => some .gt
  | .symbol "<" => some .lt
  | .symbol ">=" => some .ge
  | .symbol "<=" => some .le
  | token => if token.isKeyword "LIKE" then some .like else none

/-- The name of the unsupported operator that tokens start with; NOT takes the next word along. -/
def unsupportedOperator? : List Token → Option String
  | .symbol "==" :: _ => some "=="
  | .symbol "<=>" :: _ => some "<=>"
  | token :: rest =>
    match token.keyword? with
    | some name =>
      if unsupportedOperators.contains name then
        match decide (name = "NOT"), rest with
        | true, .word next _ :: _ => some (name ++ " " ++ Text.upper next)
        | _, _ => some name
      else none
    | none => none
  | [] => none

/-- The operator of a comparison. -/
def operator : Parser ComparisonOperator := do
  let tokens ← ahead
  match tokens.head?.bind operator? with
  | some operator => skip; return operator
  | none =>
    match unsupportedOperator? tokens with
    | some name => throw (.execution (.unsupportedOperator name))
    | none => fail "expected a comparison operator"

/-- A field, an operator and a literal. -/
def comparison : Parser Condition := do
  let field ← fieldRef "field name in condition"
  let operator ← operator
  let (value, _) ← literal
  return .compare ⟨field, operator, value⟩

/-- A comparison, or a condition in parentheses. -/
def group (inner : Parser Condition) : Parser Condition := do
  if ← symbol "(" then
    let condition ← inner
    expectSymbol ")" "expected `)` to close the condition group"
    return condition
  else comparison

/-- Operands between AND and OR. -/
def disjunction (operand : Parser Condition) : Parser Condition :=
  chain "OR" .or (chain "AND" .and operand)

/-- A condition whose parentheses nest at most `depth` deep. -/
def conditionWithin : Nat → Parser Condition
  | 0 => disjunction comparison
  | depth + 1 => disjunction (group (conditionWithin depth))

/-- A condition; its parentheses nest no deeper than there are tokens. -/
def condition : Parser Condition := fun tokens => conditionWithin tokens.length tokens

/-! ## Clauses of a query -/

/-- The argument of an aggregate. The star goes with COUNT only. -/
def aggregateArgument (function : AggregateFunction) : Parser AggregateArgument := do
  if ← symbol "*" then
    if function = .count then return .star
    else fail "`*` is only valid as an argument of COUNT"
  else return .column (← fieldRef "aggregate argument")

/-- An aggregate after its function's name has been seen. -/
def aggregate (name : String) : Parser SelectItem := do
  skip
  match AggregateFunction.ofName? name with
  | none => throw (.invalidSyntax (name ++ "(") ("unknown aggregate function `" ++ name ++ "`"))
  | some function =>
    expectSymbol "(" "expected `(`"
    let argument ← aggregateArgument function
    expectSymbol ")" "expected `)` after aggregate argument"
    return .aggregate ⟨function, argument⟩

/-- A column, or an aggregate when an unquoted word is followed by a parenthesis. -/
def selectItem : Parser SelectItem := do
  match ← ahead with
  | .word name none :: .symbol "(" :: _ => aggregate name
  | _ => return .column (← fieldRef "field name")

/-- The star alone, or a list of columns and aggregates. -/
def selectList : Parser (List SelectItem) := do
  if ← symbol "*" then
    if (← ahead).head? = some (.symbol ",") then fail "`*` cannot be combined with other fields"
    else return [.star]
  else separated selectItem

/-- A sort key. -/
def orderKey : Parser OrderKey := do
  let item ← selectItem
  if ← keyword "DESC" then return ⟨item.name, .descending⟩
  else
    let _ ← keyword "ASC"
    return ⟨item.name, .ascending⟩

/-- A table and a column with a point between. -/
def qualifiedColumn : Parser ColumnRef := do
  let table ← name "qualified join key (table.column)"
  if ← symbol "." then return ⟨table, ← columnName⟩
  else fail "join keys must be qualified as table.column"

/-- The words in front of JOIN. -/
def joinKind : Parser JoinKind := do
  if ← keyword "INNER" then return .inner
  else if ← keyword "LEFT" then
    let _ ← keyword "OUTER"
    return .left
  else if ← keyword "RIGHT" then
    let _ ← keyword "OUTER"
    return .right
  else
    match (← ahead).head?.bind Token.keyword? with
    | some name =>
      if ["FULL", "CROSS"].contains name then throw (.execution (.unsupportedJoin name))
      else return .inner
    | none => return .inner

/-- The keys of a join in the order of its tables, ignoring ASCII case; none when they do not name
one table each. -/
def joinKeys? (table joined : String) (first second : ColumnRef) :
    Option (ColumnRef × ColumnRef) :=
  let names (ref : ColumnRef) (name : String) := Text.sameIgnoringAsciiCase ref.table name
  if names first table && names second joined then some (first, second)
  else if names first joined && names second table then some (second, first)
  else none

/-- A join with the table of the FROM clause. -/
def join (table : String) : Parser JoinClause := do
  let kind ← joinKind
  expectKeyword "JOIN" "expected JOIN"
  let joined ← name "table name after JOIN"
  if Text.sameIgnoringAsciiCase joined table then
    throw (.invalidSyntax joined "self-joins are not supported")
  expectKeyword "ON" "expected ON after the joined table"
  let first ← qualifiedColumn
  expectSymbol "=" "expected `=` in join condition"
  let second ← qualifiedColumn
  match joinKeys? table joined first second with
  | some (leftKey, rightKey) => return ⟨kind, joined, leftKey, rightKey⟩
  | none =>
    throw (.invalidSyntax (first.toText ++ " = " ++ second.toText)
      ("join condition must reference `" ++ table ++ "` and `" ++ joined ++ "`"))

/-- The keywords that a join can start with. -/
def joinStarts : List String := ["INNER", "LEFT", "RIGHT", "FULL", "CROSS", "JOIN"]

/-- A join, if one comes next. -/
def optionalJoin (table : String) : Parser (Option JoinClause) := do
  match (← ahead).head?.bind Token.keyword? with
  | some name => if joinStarts.contains name then return some (← join table) else return none
  | none => return none

/-- Items behind GROUP BY or ORDER BY. -/
def byClause {α : Type} (name : String) (item : Parser α) : Parser (Option (List α)) :=
  clause name do
    expectKeyword "BY" ("expected BY after " ++ name)
    separated item

/-! ## Statements -/

/-- A query. -/
def select : Parser SelectStatement := do
  expectKeyword "SELECT" "expected SELECT"
  let distinct ← keyword "DISTINCT"
  let fields ← selectList
  expectKeyword "FROM" "expected FROM after the field list"
  let table ← name "table name after FROM"
  let join ← optionalJoin table
  let condition ← clause "WHERE" condition
  let groupBy ← byClause "GROUP" (fieldRef "GROUP BY field")
  let orderBy ← byClause "ORDER" orderKey
  let limit ← clause "LIMIT" limit
  finish
  let implicitGroup := groupBy.isNone && fields.any SelectItem.isAggregate
  return { fields, table, condition, join, groupBy, implicitGroup, orderBy, limit, distinct }

/-- An insertion with as many values as columns. -/
def insert : Parser InsertStatement := do
  expectKeyword "INSERT" "expected INSERT"
  expectKeyword "INTO" "expected INTO after INSERT"
  let table ← name "table name after INTO"
  expectSymbol "(" "expected `(` before the column list"
  let columns ← separated (name "column name")
  expectSymbol ")" "expected `)` after the column list"
  expectKeyword "VALUES" "expected VALUES"
  expectSymbol "(" "expected `(` before the value list"
  let literals ← separated literal
  expectSymbol ")" "expected `)` after the value list"
  finish
  let values := literals.map Prod.snd
  if columns.length = values.length then return { table, columns, values }
  else
    throw (.invalidSyntax
      ("(" ++ ", ".intercalate columns ++ ") VALUES (" ++ ", ".intercalate values ++ ")")
      (Literal.writeInt columns.length ++ " columns but " ++
        Literal.writeInt values.length ++ " values"))

/-- A deletion. -/
def delete : Parser DeleteStatement := do
  expectKeyword "DELETE" "expected DELETE"
  expectKeyword "FROM" "expected FROM after DELETE"
  let table ← name "table name after FROM"
  let condition ← clause "WHERE" condition
  finish
  return { table, condition }

/-- A statement, told by its first word. -/
def statement : Parser Statement := do
  match (← ahead).head? with
  | none => throw (.invalidSyntax "" "empty query")
  | some first =>
    if first.isKeyword "SELECT" then return .select (← select)
    else if first.isKeyword "INSERT" then return .insert (← insert)
    else if first.isKeyword "DELETE" then return .delete (← delete)
    else
      match first with
      | .word text _ => throw (.execution (.unsupportedStatement (Text.upper text)))
      | other => throw (.execution (.unsupportedStatement other.display))

/-- What a parser reads from a text. -/
def read {α : Type} (parser : Parser α) (text : String) : Result α := do
  let tokens ← Token.scan text
  let (result, _) ← parser tokens
  return result

end Parser

end TableQuery.Sql

namespace TableQuery

/-- The statement that a text spells. -/
def Statement.parse (text : String) : Result Statement := Sql.Parser.statement.read text

/-- The query that a text spells. -/
def SelectStatement.parse (text : String) : Result SelectStatement := Sql.Parser.select.read text

/-- The insertion that a text spells. -/
def InsertStatement.parse (text : String) : Result InsertStatement := Sql.Parser.insert.read text

/-- The deletion that a text spells. -/
def DeleteStatement.parse (text : String) : Result DeleteStatement := Sql.Parser.delete.read text

end TableQuery
