import TableQuery.Delimited.Sheet
import TableQuery.Named
import TableQuery.Store.Basic

/-!
# Tables in files

A store of one file for each table: delimited text with a header, named for the table, in one
directory, which may be missing. A statement reads the file afresh and writes it back only when it
changes something.
-/

namespace TableQuery

/-- A directory of files under distinct names, and the delimiter of their fields. Without the
directory there are no files either. -/
structure DirectoryStore where
  delimiter : UInt8
  present : Bool
  files : List (String × List UInt8)
  nodup : (Named.names files).Nodup
  present_of_ne_nil : files ≠ [] → present = true

namespace DirectoryStore

/-- A store without files. -/
def empty (delimiter : UInt8) (present : Bool) : DirectoryStore :=
  ⟨delimiter, present, [], List.nodup_nil, fun h => absurd rfl h⟩

/-- The store with its directory made if it was missing. -/
def withDirectory (store : DirectoryStore) : DirectoryStore :=
  ⟨store.delimiter, true, store.files, store.nodup, fun _ => rfl⟩

/-- The content of a file. -/
def file? (store : DirectoryStore) (name : String) : Option (List UInt8) :=
  store.files.lookup name

/-- The store with this content in a file of its directory. -/
def setFile (store : DirectoryStore) (name : String) (bytes : List UInt8) : DirectoryStore :=
  ⟨store.delimiter, true, Named.set name bytes store.files,
    Named.nodup_set name bytes store.nodup, fun _ => rfl⟩

/-- The longest file name, in bytes. -/
def maxNameSize : Nat := 255

/-- Whether a name is one plain component of a path. -/
def isPlain (name : String) : Bool :=
  !(["", ".", ".."].contains name) && !name.toList.contains '/'

/-- Whether a file can have this name. -/
def isFileName (name : String) : Bool :=
  isPlain name && decide (name.utf8ByteSize ≤ maxNameSize) && !name.toList.contains '\x00'

/-- The store after writing a file: there must be a directory, and the name must be possible. -/
def putFile (store : DirectoryStore) (name : String) (bytes : List UInt8) :
    Result DirectoryStore :=
  if store.present && isFileName name then .ok (store.setFile name bytes)
  else .error (.store .unreadable)

/-! ## Names -/

/-- What comes after the name of a table in the name of its file. -/
def suffix : String := ".csv"

/-- Whether a table can have this name: it is one plain component of a path, whichever way the
slashes of paths lean. -/
def isTableName (name : String) : Bool := isPlain name && !name.toList.contains '\\'

/-- The name of a table's file. -/
def fileName (table : String) : Result String :=
  if isTableName table then .ok (table ++ suffix) else .error (.store (.invalidTableName table))

/-- The name of the table that a file holds: what comes before the suffix. A name that is only the
suffix, or that starts with its only point, has none. -/
def tableOfFile? (name : String) : Option String :=
  let chars := name.toList
  let ending := suffix.toList
  let stem := chars.take (chars.length - ending.length)
  if ending.isSuffixOf chars && !stem.isEmpty then some (String.ofList stem) else none

/-- The names of the tables, sorted. -/
def tableNames (store : DirectoryStore) : Result (List String) :=
  if store.present then .ok (Store.sortNames ((Named.names store.files).filterMap tableOfFile?))
  else .error (.store .unreadable)

/-! ## Tables -/

/-- The sheet in a table's file, and the name of the file. -/
def sheet (store : DirectoryStore) (table : String) : Result (String × Sheet) := do
  let file ← fileName table
  match store.file? file with
  | some bytes => return (file, ← Sheet.ofBytes store.delimiter bytes)
  | none => throw (.store (.tableNotFound table))

/-- The table of this name. -/
def fetch (store : DirectoryStore) (table : String) : Result Table := do
  let (_, sheet) ← store.sheet table
  return sheet.toTable

/-- The store with a table of these columns and no rows, whatever was there before, or what remains
of the attempt: the directory is made before the file. -/
def create (store : DirectoryStore) (table : String) (columns : List String) :
    Result Unit × DirectoryStore :=
  match fileName table with
  | .error e => (.error e, store)
  | .ok file =>
    let store := store.withDirectory
    match store.putFile file (Sheet.toBytes store.delimiter ⟨columns, []⟩) with
    | .ok store => (.ok (), store)
    | .error e => (.error e, store)

/-- Appends a record to a table's file, and gives the number of new records and the store after
it. -/
def insert (store : DirectoryStore) (table : String) (columns values : List String) :
    Result Nat × DirectoryStore :=
  match store.sheet table with
  | .error e => (.error e, store)
  | .ok (file, sheet) =>
    match Store.checkColumns table sheet.columns columns with
    | .error e => (.error e, store)
    | .ok () =>
      (.ok 1, store.setFile file ((sheet.insert columns values).toBytes store.delimiter))

/-- Removes the records that a filter accepts from a table's file, and gives their number and the
store after it. The file is written only when there are any. -/
def delete (store : DirectoryStore) (table : String) (filter : Filter) :
    Result Nat × DirectoryStore :=
  match store.sheet table with
  | .error e => (.error e, store)
  | .ok (file, sheet) =>
    match sheet.delete filter with
    | .error e => (.error (.execution e), store)
    | .ok (deleted, rest) =>
      if deleted = 0 then (.ok 0, store)
      else (.ok deleted, store.setFile file (rest.toBytes store.delimiter))

/-- A directory answers as a store through its files. -/
instance : Store DirectoryStore where
  fetch := fetch
  insert := insert
  delete := delete
  tableNames := tableNames

end DirectoryStore

end TableQuery
