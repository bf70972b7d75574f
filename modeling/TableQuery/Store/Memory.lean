import TableQuery.Columnar.Batch
import TableQuery.Store.Basic

/-!
# Tables in memory

A store that holds its tables as values. Registering a table under a name that is taken replaces the
table there.
-/

namespace TableQuery

/-- Tables under distinct names. -/
structure MemoryStore where
  tables : List (String × Table)
  nodup : (Named.names tables).Nodup

namespace MemoryStore

/-- The store without tables. -/
def empty : MemoryStore := ⟨[], List.nodup_nil⟩

/-- The table of this name. -/
def get? (store : MemoryStore) (name : String) : Option Table := store.tables.lookup name

/-- The store with a table under this name. -/
def register (store : MemoryStore) (name : String) (table : Table) : MemoryStore :=
  ⟨Named.set name table store.tables, Named.nodup_set name table store.nodup⟩

/-- The store with a table of these rows under this name. -/
def registerRows (store : MemoryStore) (name : String) (rows : List Row) : MemoryStore :=
  store.register name (.ofRows rows)

/-- The store with the table of some batches under this name. -/
def registerBatches (store : MemoryStore) (name : String) (batches : List Batch) : MemoryStore :=
  store.register name (.ofBatches batches)

/-- The store with an empty table of these columns under this name. -/
def create (store : MemoryStore) (name : String) (columns : List String) : MemoryStore :=
  store.register name ⟨columns, []⟩

/-- The store without the table of this name, and whether there was one. -/
def drop (store : MemoryStore) (name : String) : Bool × MemoryStore :=
  ((store.get? name).isSome, ⟨Named.erase name store.tables, Named.nodup_erase name store.nodup⟩)

/-- The table of this name, which has to be there. -/
def fetch (store : MemoryStore) (name : String) : Result Table :=
  match store.get? name with
  | some table => .ok table
  | none => .error (.store (.tableNotFound name))

/-- The new row of a table: for each of its columns the value of the first text given for it. -/
def newRow (table : Table) (columns values : List String) : Row :=
  let given := columns.zip values
  .ofList (table.columns.map fun column =>
    (column, ((given.lookup column).map Value.infer).getD .null))

/-- Appends a row to a table, and gives the number of new rows and the store after it. -/
def insert (store : MemoryStore) (name : String) (columns values : List String) :
    Result Nat × MemoryStore :=
  match store.fetch name with
  | .error e => (.error e, store)
  | .ok table =>
    match Store.checkColumns name table.columns columns with
    | .error e => (.error e, store)
    | .ok () => (.ok 1, store.register name (table.push (newRow table columns values)))

/-- The rows that a filter does not accept. Every row is judged before any is removed. -/
def reject (filter : Filter) (rows : List Row) : Except ExecutionError (List Row) := do
  let accepted ← rows.mapM filter.accepts
  return (accepted.zip rows).filterMap fun (accepted, row) => if accepted then none else some row

/-- Removes the rows that a filter accepts, and gives their number and the store after it. -/
def delete (store : MemoryStore) (name : String) (filter : Filter) : Result Nat × MemoryStore :=
  match store.fetch name with
  | .error e => (.error e, store)
  | .ok table =>
    match reject filter table.rows with
    | .error e => (.error (.execution e), store)
    | .ok kept =>
      (.ok (table.size - kept.length), store.register name { table with rows := kept })

/-- The names of the tables, sorted. -/
def tableNames (store : MemoryStore) : List String := Store.sortNames (Named.names store.tables)

/-- Tables in memory answer as a store. -/
instance : Store MemoryStore where
  fetch := fetch
  insert := insert
  delete := delete
  tableNames store := .ok store.tableNames

end MemoryStore

end TableQuery
