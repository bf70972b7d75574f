import TableQuery.Proofs.Store.Session

/-!
# Queries and the store

A query text is run like any other statement text, and only then refused when it was no query. So a
query leaves the store that running its statement leaves (`query_store`), and it keeps the tables
exactly when the statement touches no row (`query_keeps_tables_iff`). Every failure before the
refusal keeps them: a text that does not parse, a statement that cannot be run, and rows that cannot
be decoded.
-/

namespace TableQuery

namespace Engine

variable {σ α : Type} [Store σ]

/-- The number of rows that running a statement text adds or removes. -/
def touched (engine : Engine σ) (text : String) : Nat :=
  ((engine.execute text).1.toOption.bind Outcome.affected?).getD 0

/-- A query leaves the store that running its text leaves. -/
lemma query_store (engine : Engine σ) (text : String) :
    (engine.query text).2 = (engine.execute text).2 := by
  unfold query
  split
  all_goals rename_i heq
  all_goals rw [heq]

/-- Decoding rows does not touch the store. -/
lemma queryAs_store (engine : Engine σ) (decoder : RowDecoder α) (text : String) :
    (engine.queryAs decoder text).2 = (engine.query text).2 := rfl

/-- A statement that touches rows is refused as a query, by a name that is not that of a query. -/
lemma query_refuses {engine : Engine σ} {text : String} (h : engine.touched text ≠ 0) :
    ∃ kind ∈ ["INSERT", "DELETE"],
      (engine.query text).1 = .error (.execution (.unsupportedStatement kind)) := by
  unfold touched at h
  unfold query
  cases hrun : engine.execute text with
  | mk answer store =>
    rw [hrun] at h
    rcases answer with e | ⟨found⟩ | ⟨count⟩ | ⟨count⟩
    · exact absurd rfl h
    · exact absurd rfl h
    · exact ⟨"INSERT", by decide, rfl⟩
    · exact ⟨"DELETE", by decide, rfl⟩

/-- A refused query has no rows to decode. -/
lemma queryAs_error {engine : Engine σ} (decoder : RowDecoder α) {text : String} {e : Error}
    (h : (engine.query text).1 = .error e) : (engine.queryAs decoder text).1 = .error e := by
  unfold queryAs
  rw [show engine.query text = (.error e, (engine.query text).2) from Prod.ext h rfl]
  rfl

end Engine

namespace MemoryStore

/-- Replacing the rows of a table keeps the map of tables exactly when the rows stay the same. -/
lemma get?_register_rows_eq_iff {store : MemoryStore} {name : String} {table : Table}
    (htable : store.get? name = some table) (rows : List Row) :
    (store.register name { table with rows := rows }).get? = store.get? ↔ rows = table.rows := by
  rw [get?_register, Function.update_eq_self_iff, htable]
  constructor
  · intro h
    exact congrArg Table.rows (Option.some.inj h)
  · rintro rfl
    rfl

/-- Running a statement text keeps the tables exactly when it touches no row. -/
lemma execute_keeps_iff (settings : Settings) (store : MemoryStore) (text : String) :
    ((Engine.mk settings store).execute text).2.get? = store.get? ↔
      (Engine.mk settings store).touched text = 0 := by
  unfold Engine.touched Engine.execute
  cases hparse : Statement.parse text with
  | error e => exact iff_of_true rfl rfl
  | ok statement =>
    cases statement with
    | select statement =>
      refine iff_of_true rfl ?_
      simp only [Engine.run]
      cases (Engine.mk settings store).select statement <;> rfl
    | insert statement =>
      rcases run_insert settings store statement with ⟨e, hrun, -⟩ | ⟨table, htable, hrun⟩
      · simp only [hrun]
        exact iff_of_true trivial rfl
      · simp only [hrun]
        -- the table has one row more, so it is another one
        refine iff_of_false ?_ (by decide)
        intro hsame
        have hrows := (get?_register_rows_eq_iff htable _).mp hsame
        exact absurd (congrArg List.length hrows) (by simp)
    | delete statement =>
      rcases run_delete settings store statement with
        ⟨e, hrun, -⟩ | ⟨table, filter, htable, -, -, hrun⟩
      · simp only [hrun]
        exact iff_of_true trivial rfl
      · simp only [hrun]
        rw [get?_register_rows_eq_iff htable, List.filter_eq_self]
        change _ ↔ table.rows.countP filter.isAccepted = 0
        rw [List.countP_eq_zero]
        simp

/-- A query, with its rows decoded or not, leaves the store that running its text leaves. So it
keeps the tables exactly when its statement touches no row, and a statement that does is refused
while its changes stay. -/
theorem query_keeps_tables_iff {α : Type} (settings : Settings) (store : MemoryStore)
    (decoder : RowDecoder α) (text : String) :
    let engine := Engine.mk settings store
    ((engine.query text).2 = (engine.execute text).2 ∧
      (engine.queryAs decoder text).2 = (engine.execute text).2) ∧
    ((engine.query text).2.get? = store.get? ↔ engine.touched text = 0) ∧
    ((engine.queryAs decoder text).2.get? = store.get? ↔ engine.touched text = 0) ∧
    (engine.touched text ≠ 0 → ∃ kind ∈ ["INSERT", "DELETE"],
      (engine.query text).1 = .error (.execution (.unsupportedStatement kind)) ∧
      (engine.queryAs decoder text).1 = .error (.execution (.unsupportedStatement kind))) := by
  intro engine
  have hquery : (engine.query text).2 = (engine.execute text).2 := engine.query_store text
  have hqueryAs : (engine.queryAs decoder text).2 = (engine.execute text).2 :=
    (engine.queryAs_store decoder text).trans hquery
  have hkeeps := execute_keeps_iff settings store text
  refine ⟨⟨hquery, hqueryAs⟩, ?_, ?_, ?_⟩
  · rw [hquery]
    exact hkeeps
  · rw [hqueryAs]
    exact hkeeps
  · intro htouched
    obtain ⟨kind, hkind, hrefused⟩ := Engine.query_refuses htouched
    exact ⟨kind, hkind, hrefused, Engine.queryAs_error decoder hrefused⟩

/-- A store of two people. -/
def people : MemoryStore :=
  empty.registerRows "people" [.ofList [("id", .int64 1)], .ofList [("id", .int64 2)]]

/-- Removing one of the two people touches one row. -/
lemma touched_people :
    (Engine.mk {} people).touched "DELETE FROM people WHERE id = 1" = 1 := by
  decide +kernel

/-- Of the two people, a deletion asked for as a query removes one. -/
theorem query_keeps_tables_iff_of_people :
    let engine := Engine.mk {} people
    let text := "DELETE FROM people WHERE id = 1"
    engine.touched text = 1 ∧ (engine.query text).2.get? ≠ people.get? ∧
    (engine.query text).2 = (engine.execute text).2 ∧
    ∃ kind ∈ ["INSERT", "DELETE"],
      (engine.queryAs .row text).1 = .error (.execution (.unsupportedStatement kind)) := by
  intro engine text
  have htouched : engine.touched text = 1 := touched_people
  have hne : engine.touched text ≠ 0 := by
    rw [htouched]
    decide
  obtain ⟨⟨hstore, -⟩, hkeeps, -, hrefused⟩ := query_keeps_tables_iff {} people .row text
  obtain ⟨kind, hkind, -, hanswer⟩ := hrefused hne
  exact ⟨htouched, fun hsame => hne (hkeeps.mp hsame), hstore, kind, hkind, hanswer⟩

/-- A query that fails may leave other tables than it found: the deletion that it is refused for has
been carried out. -/
theorem exists_failed_query_changing_tables :
    ¬ ∀ (settings : Settings) (store : MemoryStore) (text : String) (e : Error),
      ((Engine.mk settings store).query text).1 = .error e →
        ((Engine.mk settings store).query text).2.get? = store.get? := by
  intro hkeeps
  have htouched := touched_people
  have hne : (Engine.mk {} people).touched "DELETE FROM people WHERE id = 1" ≠ 0 := by
    rw [htouched]
    decide
  obtain ⟨kind, -, hrefused⟩ := Engine.query_refuses hne
  have hsame := hkeeps {} people _ _ hrefused
  rw [Engine.query_store] at hsame
  exact hne ((execute_keeps_iff {} people _).mp hsame)

end MemoryStore

end TableQuery
