import TableQuery.Decode
import TableQuery.Json.Value
import TableQuery.Query.Select
import TableQuery.Sql.Statement.Parser
import TableQuery.Store.Basic

/-!
# Engines

An engine runs statements on a store under some settings. A query fetches its tables and runs its
plan; an insertion and a deletion are checked and handed to the store. Each run gives an outcome or
an error, and the store after it.
-/

namespace TableQuery

/-- What a statement does. -/
inductive Outcome where
  | rows (found : List Row)
  | inserted (count : Nat)
  | deleted (count : Nat)
  deriving DecidableEq

namespace Outcome

/-- The number of rows that a change touches. -/
def affected? : Outcome → Option Nat
  | rows _ => none
  | inserted count => some count
  | deleted count => some count

/-- The number of rows that a query gives. -/
def rowCount? : Outcome → Option Nat
  | rows found => some found.length
  | _ => none

/-- The count of a change as JSON, in an object of its own. -/
def countToJson (change : String) (count : Nat) : String :=
  Json.writeObject [(change, Json.writeObject [(change, Literal.writeInt count)])]

/-- An outcome as JSON: an object with the outcome's name. -/
def toJson : Outcome → String
  | rows found => Json.writeObject [("rows", Json.writeArray (found.map Row.toJson))]
  | inserted count => countToJson "inserted" count
  | deleted count => countToJson "deleted" count

end Outcome

/-- Settings and a store. -/
structure Engine (σ : Type) where
  settings : Settings
  store : σ

namespace Engine

variable {σ : Type} [Store σ]

/-- The rows of a query. -/
def select (engine : Engine σ) (statement : SelectStatement) : Result (List Row) := do
  let base ← Store.fetch engine.store statement.table
  let joined ←
    match statement.join with
    | some clause => some <$> Store.fetch engine.store clause.table
    | none => pure none
  statement.rows base joined engine.settings

/-- What an insertion must meet before the store sees it: the table is named, and the columns are as
many as the values and at least one. -/
def checkInsert (statement : InsertStatement) : Result Unit :=
  if statement.table.isEmpty then .error (.invalidSyntax "INSERT" "missing table name")
  else if statement.columns.isEmpty then
    .error (.invalidSyntax statement.table "INSERT requires a column list")
  else if statement.columns.length ≠ statement.values.length then
    .error (.invalidSyntax (", ".intercalate statement.columns)
      (Literal.writeInt statement.columns.length ++ " columns but " ++
        Literal.writeInt statement.values.length ++ " values"))
  else .ok ()

/-- The number of rows that an insertion adds, and the store after it. -/
def insert (engine : Engine σ) (statement : InsertStatement) : Result Nat × σ :=
  match checkInsert statement with
  | .error e => (.error e, engine.store)
  | .ok () => Store.insert engine.store statement.table statement.columns statement.values

/-- The number of rows that a deletion removes, and the store after it. The table must be named. -/
def delete (engine : Engine σ) (statement : DeleteStatement) : Result Nat × σ :=
  if statement.table.isEmpty then
    (.error (.invalidSyntax "DELETE" "missing table name"), engine.store)
  else
    Store.delete engine.store statement.table ⟨statement.condition, engine.settings.filterOptions⟩

/-- The outcome of a statement, and the store after it. -/
def run (engine : Engine σ) : Statement → Result Outcome × σ
  | .select statement => ((engine.select statement).map .rows, engine.store)
  | .insert statement =>
    let (answer, store) := engine.insert statement
    (answer.map .inserted, store)
  | .delete statement =>
    let (answer, store) := engine.delete statement
    (answer.map .deleted, store)

/-- The outcome of the statement that a text spells, and the store after it. -/
def execute (engine : Engine σ) (text : String) : Result Outcome × σ :=
  match Statement.parse text with
  | .error e => (.error e, engine.store)
  | .ok statement => engine.run statement

/-- The rows of the query that a text spells, and the store after it. Another statement is refused
only once it has run. -/
def query (engine : Engine σ) (text : String) : Result (List Row) × σ :=
  match engine.execute text with
  | (.ok (.rows rows), store) => (.ok rows, store)
  | (.ok (.inserted _), store) => (.error (.execution (.unsupportedStatement "INSERT")), store)
  | (.ok (.deleted _), store) => (.error (.execution (.unsupportedStatement "DELETE")), store)
  | (.error e, store) => (.error e, store)

/-- The decoded rows of the query that a text spells, and the store after it. -/
def queryAs {α : Type} (engine : Engine σ) (decoder : RowDecoder α) (text : String) :
    Result (List α) × σ :=
  let (rows, store) := engine.query text
  (rows.bind fun rows => (decoder.decodeAll rows).mapError Error.execution, store)

end Engine

end TableQuery
