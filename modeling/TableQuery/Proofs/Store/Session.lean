import TableQuery.Engine
import TableQuery.Proofs.Store.Memory

/-!
# Sessions on tables in memory

A session runs statement texts one after the other on one store. Over tables in memory every
statement has one of the effects listed in `Effect` on the map from names to tables: a failure and a
query change nothing, an insertion adds one row to one table, and a deletion takes the accepted rows
out of one table. Each effect keeps the columns of all tables (`Effect.columns_eq`), so the effects
of a whole session follow each other (`session_effects`).
-/

namespace TableQuery

/-- The answers to a list of statement texts, run one after the other, and the store after them. -/
def Engine.session {σ : Type} [Store σ] (engine : Engine σ) :
    List String → List (Result Outcome) × σ
  | [] => ([], engine.store)
  | text :: texts =>
    let (answer, store) := engine.execute text
    let (answers, last) := session { engine with store } texts
    (answer :: answers, last)

namespace MemoryStore

/-- What makes a statement fail: an insertion that is not well formed or lacks its table or one of
its columns, or a deletion that lacks its table or meets a row that its condition cannot judge.
Queries are not looked into. -/
def Refused (options : FilterOptions) (tables : String → Option Table) : Statement → Prop
  | .select _ => True
  | .insert statement =>
    (∃ e, Engine.checkInsert statement = .error e) ∨
      ∀ table, tables statement.table = some table →
        ∃ column ∈ statement.columns, column ∉ table.columns
  | .delete statement =>
    statement.table.isEmpty ∨
      ∀ table, tables statement.table = some table →
        ∃ row ∈ table.rows, ∃ e, Filter.accepts ⟨statement.condition, options⟩ row = .error e

/-- The effect of one statement text on the map from names to tables: its answer, and the map after
it. -/
inductive Effect (options : FilterOptions) (before : String → Option Table) :
    String → Result Outcome → (String → Option Table) → Prop
  | failed {text : String} (e : Error)
      (hrefused : ∀ statement, Statement.parse text = .ok statement →
        Refused options before statement) :
      Effect options before text (.error e) before
  | selected {text : String} {statement : SelectStatement} (found : List Row)
      (hparse : Statement.parse text = .ok (.select statement)) :
      Effect options before text (.ok (.rows found)) before
  | inserted {text : String} {statement : InsertStatement} {table : Table} {row : Row}
      (hparse : Statement.parse text = .ok (.insert statement))
      (htable : before statement.table = some table)
      (hrow : row.cells = table.columns.map fun column => (column,
        ((firstText? statement.columns statement.values column).map Value.infer).getD .null)) :
      Effect options before text (.ok (.inserted 1))
        (Function.update before statement.table
          (some { table with rows := table.rows ++ [row] }))
  | deleted {text : String} {statement : DeleteStatement} {table : Table} {filter : Filter}
      (hparse : Statement.parse text = .ok (.delete statement))
      (hfilter : filter = ⟨statement.condition, options⟩)
      (htable : before statement.table = some table)
      (hjudged : ∀ row ∈ table.rows, ∃ accepted, filter.accepts row = .ok accepted) :
      Effect options before text (.ok (.deleted (table.rows.countP filter.isAccepted)))
        (Function.update before statement.table
          (some { table with rows := table.rows.filter fun row => !filter.isAccepted row }))

/-- The effects of a list of statement texts, one after the other. -/
inductive Effects (options : FilterOptions) :
    (String → Option Table) → List String → List (Result Outcome) →
      (String → Option Table) → Prop
  | nil (tables : String → Option Table) : Effects options tables [] [] tables
  | cons {before between after : String → Option Table} {text : String} {texts : List String}
      {answer : Result Outcome} {answers : List (Result Outcome)}
      (hhead : Effect options before text answer between)
      (htail : Effects options between texts answers after) :
      Effects options before (text :: texts) (answer :: answers) after

/-- Replacing the rows of a table keeps the columns of all tables. -/
lemma columns_update {tables : String → Option Table} {name : String} {table : Table}
    (htable : tables name = some table) (rows : List Row) (other : String) :
    (Function.update tables name (some { table with rows := rows }) other).map Table.columns =
      (tables other).map Table.columns := by
  by_cases h : other = name
  · subst h
    rw [Function.update_self, htable, Option.map_some, Option.map_some]
  · rw [Function.update_of_ne h]

/-- No statement changes the columns of a table, adds a table or removes one. -/
lemma Effect.columns_eq {options : FilterOptions} {before after : String → Option Table}
    {text : String} {answer : Result Outcome} (h : Effect options before text answer after)
    (name : String) : (after name).map Table.columns = (before name).map Table.columns := by
  cases h with
  | failed e hrefused => rfl
  | selected found hparse => rfl
  | inserted hparse htable hrow => exact columns_update htable _ name
  | deleted hparse hfilter htable hjudged => exact columns_update htable _ name

variable (settings : Settings) (store : MemoryStore)

/-- An insertion is refused and leaves the store as it was, or adds one row to its table. -/
lemma run_insert (statement : InsertStatement) :
    (∃ e, (Engine.mk settings store).run (.insert statement) = (.error e, store) ∧
      Refused settings.filterOptions store.get? (.insert statement)) ∨
    ∃ table, store.get? statement.table = some table ∧
      (Engine.mk settings store).run (.insert statement) =
        (.ok (.inserted 1), store.register statement.table
          (table.push (newRow table statement.columns statement.values))) := by
  simp only [Engine.run, Engine.insert]
  cases hcheck : Engine.checkInsert statement with
  | error e => exact .inl ⟨e, rfl, .inl ⟨e, hcheck⟩⟩
  | ok _ =>
    rcases store.insert_cases statement.table statement.columns statement.values with
      ⟨e, he, hmissing⟩ | ⟨table, htable, -, hinsert⟩
    · exact .inl ⟨e, by simp [Store.insert, he, Except.map], .inr hmissing⟩
    · exact .inr ⟨table, htable, by simp [Store.insert, hinsert, Except.map]⟩

/-- A deletion is refused and leaves the store as it was, or removes the accepted rows of its
table. -/
lemma run_delete (statement : DeleteStatement) :
    (∃ e, (Engine.mk settings store).run (.delete statement) = (.error e, store) ∧
      Refused settings.filterOptions store.get? (.delete statement)) ∨
    ∃ (table : Table) (filter : Filter), store.get? statement.table = some table ∧
      filter = ⟨statement.condition, settings.filterOptions⟩ ∧
      (∀ row ∈ table.rows, ∃ accepted, filter.accepts row = .ok accepted) ∧
      (Engine.mk settings store).run (.delete statement) =
        (.ok (.deleted (table.rows.countP filter.isAccepted)), store.register statement.table
          { table with rows := table.rows.filter fun row => !filter.isAccepted row }) := by
  simp only [Engine.run, Engine.delete]
  split
  · rename_i hempty
    exact .inl ⟨_, rfl, .inl hempty⟩
  · rcases store.delete_cases statement.table ⟨statement.condition, settings.filterOptions⟩ with
      ⟨e, he, hunjudged⟩ | ⟨table, htable, hjudged, hdelete⟩
    · exact .inl ⟨e, by simp [Store.delete, he, Except.map], .inr hunjudged⟩
    · exact .inr ⟨table, _, htable, rfl, hjudged, by simp [Store.delete, hdelete, Except.map]⟩

/-- Every statement over tables with distinct columns has one of the effects. -/
lemma execute_effect
    (hdistinct : ∀ name table, store.get? name = some table → table.columns.Nodup)
    (text : String) :
    Effect settings.filterOptions store.get? text
      ((Engine.mk settings store).execute text).1
      ((Engine.mk settings store).execute text).2.get? := by
  unfold Engine.execute
  cases hparse : Statement.parse text with
  | error e => exact .failed e fun statement h => by rw [hparse] at h; cases h
  | ok statement =>
    -- a text is parsed as one statement only, so the refusal of this one is enough
    have hrefused (h : Refused settings.filterOptions store.get? statement) :
        ∀ other, Statement.parse text = .ok other →
          Refused settings.filterOptions store.get? other := by
      intro other hother
      rw [hparse] at hother
      exact Except.ok.inj hother ▸ h
    cases statement with
    | select statement =>
      simp only [Engine.run]
      cases (Engine.mk settings store).select statement with
      | error e => exact .failed e (hrefused trivial)
      | ok found => exact .selected found hparse
    | insert statement =>
      rcases run_insert settings store statement with ⟨e, hrun, h⟩ | ⟨table, htable, hrun⟩
      · simp only [hrun]
        exact .failed e (hrefused h)
      · have hrow := cells_newRow (hdistinct _ _ htable) statement.columns statement.values
        simp only [hrun, get?_register]
        exact .inserted hparse htable hrow
    | delete statement =>
      rcases run_delete settings store statement with
        ⟨e, hrun, h⟩ | ⟨table, filter, htable, hfilter, hjudged, hrun⟩
      · simp only [hrun]
        exact .failed e (hrefused h)
      · simp only [hrun, get?_register]
        exact .deleted hparse hfilter htable hjudged

/-- A session over tables with distinct columns has one of the effects for each of its statements,
in their order, and leaves the columns of all tables as they were. -/
theorem session_effects (settings : Settings) (store : MemoryStore)
    (hdistinct : ∀ name table, store.get? name = some table → table.columns.Nodup)
    (texts : List String) :
    Effects settings.filterOptions store.get? texts
      ((Engine.mk settings store).session texts).1
      ((Engine.mk settings store).session texts).2.get? ∧
    ∀ name, (((Engine.mk settings store).session texts).2.get? name).map Table.columns =
      (store.get? name).map Table.columns := by
  induction texts generalizing store with
  | nil => exact ⟨.nil _, fun name => rfl⟩
  | cons text texts ih =>
    have heffect := execute_effect settings store hdistinct text
    have hcolumns := heffect.columns_eq
    -- what the first statement leaves has the same columns, so the rest starts from distinct ones
    have hdistinct' : ∀ name table,
        ((Engine.mk settings store).execute text).2.get? name = some table →
          table.columns.Nodup := by
      intro name table htable
      have hsome := hcolumns name
      rw [htable, Option.map_some] at hsome
      obtain ⟨first, hfirst, hsame⟩ := Option.map_eq_some_iff.mp hsome.symm
      rw [← hsame]
      exact hdistinct name first hfirst
    have htail := ih ((Engine.mk settings store).execute text).2 hdistinct'
    exact ⟨.cons heffect htail.1, fun name => (htail.2 name).trans (hcolumns name)⟩

/-- On an empty table a row comes in, a condition on a column that is not there fails, and the row
goes out. -/
theorem session_effects_of_people :
    let store := empty.create "people" ["name", "age"]
    let texts := ["INSERT INTO people (age) VALUES (31)", "DELETE FROM people WHERE x = 1",
      "DELETE FROM people"]
    ((Engine.mk {} store).session texts).1.map Except.toOption =
      [some (.inserted 1), none, some (.deleted 1)] ∧
    Effects (Settings.filterOptions {}) store.get? texts
      ((Engine.mk {} store).session texts).1 ((Engine.mk {} store).session texts).2.get? := by
  have hdistinct : ∀ name table,
      (empty.create "people" ["name", "age"]).get? name = some table → table.columns.Nodup := by
    intro name table htable
    rw [create, get?_register, Function.update_apply] at htable
    split at htable
    · rw [← Option.some.inj htable]
      decide
    · cases htable
  refine ⟨?_, (session_effects {} _ hdistinct _).1⟩
  decide +kernel

end MemoryStore

end TableQuery
