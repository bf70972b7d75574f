import TableQuery.Query.Filter

/-!
# Stores

What an engine needs of a place that holds tables: to fetch one, to append a row of texts, to remove
the rows that a filter accepts, and to name the tables. A change gives its answer and the store
after it, and it does so when it fails as well.
-/

namespace TableQuery

/-- A place that holds tables. -/
class Store (σ : Type) where
  /-- The table of this name as it is now. -/
  fetch : σ → String → Result Table
  /-- Appends a row, whose texts are given for some columns of the table; the answer is the number
  of new rows. -/
  insert : σ → String → List String → List String → Result Nat × σ
  /-- Removes the rows of a table that a filter accepts; the answer is their number. -/
  delete : σ → String → Filter → Result Nat × σ
  /-- The names of the tables, sorted. -/
  tableNames : σ → Result (List String)

namespace Store

/-- Names in the order of their code points. -/
def sortNames (names : List String) : List String := names.mergeSort fun a b => decide (a ≤ b)

/-- The first of some columns that a table does not have is an error. -/
def checkColumns (table : String) (columns given : List String) : Result Unit :=
  match given.find? fun column => !columns.contains column with
  | some column => .error (.store (.unknownColumn table column))
  | none => .ok ()

end Store

end TableQuery
