import Std.Data.HashMap
import Std.Data.HashSet
import TableQuery.Row

/-!
# Rows by key

Two uses of keys: the rows of each key in their order, and the items whose key has not been met
before. Joins, grouping and the removal of repeated rows are built from them.
-/

namespace TableQuery

namespace Index

/-- The rows of each key, in order. -/
def ofList (keyed : List (String × Row)) : Std.HashMap String (List Row) :=
  keyed.foldr (fun (key, row) index => index.insert key (row :: index.getD key [])) ∅

/-- The items whose key is not among those seen, the first one of each key, and the keys then
seen. -/
def keepNew {α : Type} (key : α → String) (seen : Std.HashSet String) :
    List α → List α × Std.HashSet String
  | [] => ([], seen)
  | item :: rest =>
    if seen.contains (key item) then keepNew key seen rest
    else
      let (kept, seen) := keepNew key (seen.insert (key item)) rest
      (item :: kept, seen)

end Index

/-- The rows whose list of values repeats that of no earlier row. -/
def distinctRows (rows : List Row) : List Row := (Index.keepNew Row.groupKey ∅ rows).1

end TableQuery
