import Mathlib.Logic.Function.Basic
import TableQuery.Proofs.Query.Filter
import TableQuery.Proofs.Row
import TableQuery.Store.Memory

/-!
# Tables in memory as a map

What a memory store holds is seen through `get?` as a map from names to tables. An insertion and a
deletion either fail and leave the store as it was, or change the rows of one table in the way that
`insert_cases` and `delete_cases` say.
-/

namespace TableQuery

namespace MemoryStore

/-- Registering a table changes what is under its name and nothing else. -/
lemma get?_register (store : MemoryStore) (name : String) (table : Table) :
    (store.register name table).get? = Function.update store.get? name (some table) := by
  funext other
  refine (Named.lookup_set name other table store.tables).trans ?_
  by_cases h : other = name
  · subst h
    simp
  · simp [h, get?]

/-! ## New rows -/

/-- The first text given for a column, by the place of the column among the given ones. -/
def firstText? (columns values : List String) (column : String) : Option String :=
  (columns.idxOf? column).bind fun i => values[i]?

/-- The first text of a column among pairs is the one at the place of the column. -/
lemma lookup_zip (columns values : List String) (column : String) :
    (columns.zip values).lookup column = firstText? columns values column := by
  induction columns generalizing values with
  | nil => rfl
  | cons first columns ih =>
    cases values with
    | nil =>
      rw [List.zip_nil_right, firstText?]
      cases (first :: columns).idxOf? column <;> rfl
    | cons text values =>
      rw [List.zip_cons_cons, Named.lookup_cons, ih, firstText?, firstText?, List.idxOf?_cons]
      by_cases h : first = column
      · simp [h]
      · have h' : ¬ column = first := fun e => h e.symm
        cases columns.idxOf? column <;> simp [h, h']

/-- A new row has the columns of its table in their order, each with the value of the first text
given for it. -/
lemma cells_newRow {table : Table} (h : table.columns.Nodup) (columns values : List String) :
    (newRow table columns values).cells = table.columns.map fun column =>
      (column, ((firstText? columns values column).map Value.infer).getD .null) := by
  unfold newRow
  rw [Row.cells_ofList]
  · simp only [lookup_zip]
  · simpa [Named.names, Function.comp_def] using h

/-- Under a column of its table, which may name it twice, a new row holds the value of the first
text given for it. -/
lemma get?_newRow {table : Table} {column : String} (hcolumn : column ∈ table.columns)
    (columns values : List String) :
    (newRow table columns values).get? column =
      some ((((columns.zip values).lookup column).map Value.infer).getD .null) := by
  refine Row.get?_ofList_eq ?_ ?_
  · rw [Named.names, List.map_map]
    exact List.mem_map.mpr ⟨column, hcolumn, rfl⟩
  · intro cell hcell hname
    obtain ⟨other, -, rfl⟩ := List.mem_map.mp hcell
    obtain rfl : other = column := hname
    rfl

/-! ## Changes -/

/-- The columns that are given are checked against those of the table. -/
lemma checkColumns_cases (table : String) (columns given : List String) :
    (Store.checkColumns table columns given = .ok () ∧ ∀ column ∈ given, column ∈ columns) ∨
    ∃ e, Store.checkColumns table columns given = .error e ∧
      ∃ column ∈ given, column ∉ columns := by
  unfold Store.checkColumns
  cases hfind : given.find? fun column => !columns.contains column with
  | none =>
    refine .inl ⟨rfl, fun column hmem => ?_⟩
    simpa using List.find?_eq_none.mp hfind column hmem
  | some column =>
    exact .inr ⟨_, rfl, column, List.mem_of_find?_eq_some hfind, by
      simpa using List.find?_some hfind⟩

/-- An insertion fails for lack of the table or one of the columns and leaves the store as it was,
or it adds one row to the table. -/
lemma insert_cases (store : MemoryStore) (name : String) (columns values : List String) :
    (∃ e, store.insert name columns values = (.error e, store) ∧
      ∀ table, store.get? name = some table → ∃ column ∈ columns, column ∉ table.columns) ∨
    ∃ table, store.get? name = some table ∧ (∀ column ∈ columns, column ∈ table.columns) ∧
      store.insert name columns values =
        (.ok 1, store.register name (table.push (newRow table columns values))) := by
  unfold insert fetch
  cases hg : store.get? name with
  | none => exact .inl ⟨_, rfl, fun table h => by cases h⟩
  | some table =>
    rcases checkColumns_cases name table.columns columns with ⟨hc, hall⟩ | ⟨e, hc, hmissing⟩
    · exact .inr ⟨table, rfl, hall, by simp only [hc]⟩
    · refine .inl ⟨e, by simp only [hc], fun other h => ?_⟩
      obtain rfl := Option.some.inj h
      exact hmissing

/-- The rows that a filter does not accept are left when all of them can be judged. -/
lemma reject_of_judged {filter : Filter} {rows : List Row}
    (h : ∀ row ∈ rows, ∃ accepted, filter.accepts row = .ok accepted) :
    reject filter rows = .ok (rows.filter fun row => !filter.isAccepted row) := by
  rw [reject, Filter.mapM_accepts h]
  exact congrArg Except.ok (Filter.filterMap_zip_map filter.isAccepted rows)

/-- No rows are told apart when one of them cannot be judged. -/
lemma reject_of_error {filter : Filter} {rows : List Row} {e : ExecutionError}
    (h : rows.mapM filter.accepts = .error e) : reject filter rows = .error e := by
  rw [reject, h]
  rfl

/-- A deletion removes the accepted rows when all rows can be judged. -/
lemma delete_of_judged {store : MemoryStore} {name : String} {filter : Filter} {table : Table}
    (htable : store.get? name = some table)
    (hjudged : ∀ row ∈ table.rows, ∃ accepted, filter.accepts row = .ok accepted) :
    store.delete name filter = (.ok (table.rows.countP filter.isAccepted),
      store.register name
        { table with rows := table.rows.filter fun row => !filter.isAccepted row }) := by
  rw [delete, fetch, htable]
  simp only [reject_of_judged hjudged, Table.size, Filter.length_sub_length_filter]

/-- A deletion changes nothing when a row cannot be judged. -/
lemma delete_of_error {store : MemoryStore} {name : String} {filter : Filter} {table : Table}
    {e : ExecutionError} (htable : store.get? name = some table)
    (hfailed : table.rows.mapM filter.accepts = .error e) :
    store.delete name filter = (.error (.execution e), store) := by
  rw [delete, fetch, htable]
  simp only [reject_of_error hfailed]

/-- A deletion from a table that is missing fails. -/
lemma delete_of_none {store : MemoryStore} {name : String} (filter : Filter)
    (htable : store.get? name = none) :
    store.delete name filter = (.error (.store (.tableNotFound name)), store) := by
  rw [delete, fetch, htable]

/-- A deletion fails for lack of the table or because of a row that cannot be judged and leaves the
store as it was, or it removes the accepted rows of the table. -/
lemma delete_cases (store : MemoryStore) (name : String) (filter : Filter) :
    (∃ e, store.delete name filter = (.error e, store) ∧
      ∀ table, store.get? name = some table →
        ∃ row ∈ table.rows, ∃ cause, filter.accepts row = .error cause) ∨
    ∃ table, store.get? name = some table ∧
      (∀ row ∈ table.rows, ∃ accepted, filter.accepts row = .ok accepted) ∧
      store.delete name filter = (.ok (table.rows.countP filter.isAccepted),
        store.register name
          { table with rows := table.rows.filter fun row => !filter.isAccepted row }) := by
  cases htable : store.get? name with
  | none => exact .inl ⟨_, delete_of_none filter htable, fun table h => by cases h⟩
  | some table =>
    rcases filter.mapM_accepts_cases table.rows with ⟨-, hjudged⟩ | ⟨e, hfailed, row, hrow, herror⟩
    · exact .inr ⟨table, rfl, hjudged, delete_of_judged htable hjudged⟩
    · refine .inl ⟨_, delete_of_error htable hfailed, fun other h => ?_⟩
      obtain rfl := Option.some.inj h
      exact ⟨row, hrow, e, herror⟩

end MemoryStore

end TableQuery
