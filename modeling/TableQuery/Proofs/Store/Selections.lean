import TableQuery.Engine
import TableQuery.Proofs.Query.Selection
import TableQuery.Proofs.Store.Memory

/-!
# Deletions and selections

A condition means the same in a deletion and in a selection. Over tables in memory both statements
judge every row of the table with one filter, the selection batch by batch and the deletion all at
once, and the first row that cannot be judged fails either of them with the same error. Otherwise
the deletion removes the rows that the selection finds, and no more of them are found after it
(`delete_removes_selection`).
-/

namespace TableQuery

namespace Engine

variable {σ : Type} [Store σ] (settings : Settings) {store : σ} {name : String}
  (condition : Option Condition)

/-- A selection from a table that can be fetched gives the rows that its condition keeps. -/
lemma run_selection {table : Table} (hfetch : Store.fetch store name = .ok table) :
    (Engine.mk settings store).run (.select (.selection name condition)) =
      ((Result.ofExecution
        (Filter.keep ⟨condition, settings.filterOptions⟩ table.rows)).map .rows, store) := by
  have hselect : (Engine.mk settings store).select (.selection name condition) =
      (SelectStatement.selection name condition).rows table none settings := by
    unfold Engine.select
    exact congrArg (· >>= _) hfetch
  rw [Engine.run, hselect, SelectStatement.rows_selection]

/-- A selection from a table that cannot be fetched fails as fetching it does. -/
lemma run_selection_of_error {e : Error} (hfetch : Store.fetch store name = .error e) :
    (Engine.mk settings store).run (.select (.selection name condition)) = (.error e, store) := by
  have hselect : (Engine.mk settings store).select (.selection name condition) = .error e := by
    unfold Engine.select
    exact congrArg (· >>= _) hfetch
  rw [Engine.run, hselect]
  rfl

/-- A deletion from a named table is left to the store. -/
lemma run_deletion (hname : name ≠ "") :
    (Engine.mk settings store).run (.delete ⟨name, condition⟩) =
      ((Store.delete store name ⟨condition, settings.filterOptions⟩).1.map .deleted,
        (Store.delete store name ⟨condition, settings.filterOptions⟩).2) := by
  have hnamed : ¬ name.isEmpty = true := by
    rw [String.isEmpty_iff]
    exact hname
  rw [Engine.run, Engine.delete, if_neg hnamed]

/-- A deletion that succeeds is one from a named table that succeeds in the store. -/
lemma delete_of_run_deletion {count : Nat} {after : σ}
    (h : (Engine.mk settings store).run (.delete ⟨name, condition⟩) =
      (.ok (.deleted count), after)) :
    name ≠ "" ∧
      Store.delete store name ⟨condition, settings.filterOptions⟩ = (.ok count, after) := by
  have hname : name ≠ "" := by
    rintro rfl
    cases h
  rw [run_deletion settings condition hname] at h
  refine ⟨hname, ?_⟩
  rcases hdelete : Store.delete store name ⟨condition, settings.filterOptions⟩ with ⟨_ | deleted, _⟩
  · rw [hdelete] at h
    cases h
  · rw [hdelete] at h
    cases h
    rfl

end Engine

namespace MemoryStore

variable (settings : Settings) {store : MemoryStore} {name : String}
  (condition : Option Condition)

/-- A selection from a table that is there gives the rows that its condition keeps. -/
lemma run_selection {table : Table} (htable : store.get? name = some table) :
    (Engine.mk settings store).run (.select (.selection name condition)) =
      ((Result.ofExecution
        (Filter.keep ⟨condition, settings.filterOptions⟩ table.rows)).map .rows, store) := by
  refine Engine.run_selection settings condition ?_
  change store.fetch name = .ok table
  rw [fetch, htable]

/-- A selection from a table that is missing fails. -/
lemma run_selection_of_none (htable : store.get? name = none) :
    (Engine.mk settings store).run (.select (.selection name condition)) =
      (.error (.store (.tableNotFound name)), store) := by
  refine Engine.run_selection_of_error settings condition ?_
  change store.fetch name = .error (.store (.tableNotFound name))
  rw [fetch, htable]

/-- A deletion from a named table and the selection under the same condition fail with the same
error and change nothing; or the deletion removes from the table exactly the rows that the selection
finds, reports as many, and leaves none for the selection to find. -/
theorem delete_removes_selection (settings : Settings) (store : MemoryStore) {name : String}
    (hname : name ≠ "") (condition : Option Condition) :
    let engine := Engine.mk settings store
    let query := Statement.select (.selection name condition)
    let deletion := Statement.delete ⟨name, condition⟩
    let filter : Filter := ⟨condition, settings.filterOptions⟩
    (∃ e, engine.run query = (.error e, store) ∧ engine.run deletion = (.error e, store)) ∨
    ∃ (table : Table) (after : MemoryStore), store.get? name = some table ∧
      engine.run query = (.ok (.rows (table.rows.filter filter.isAccepted)), store) ∧
      engine.run deletion =
        (.ok (.deleted (table.rows.filter filter.isAccepted).length), after) ∧
      after.get? = Function.update store.get? name
        (some { table with rows := table.rows.filter fun row => !filter.isAccepted row }) ∧
      (Engine.mk settings after).run query = (.ok (.rows []), after) := by
  intro engine query deletion filter
  have hdeletion : engine.run deletion =
      ((store.delete name filter).1.map .deleted, (store.delete name filter).2) :=
    Engine.run_deletion settings condition hname
  cases htable : store.get? name with
  | none =>
    refine .inl ⟨_, run_selection_of_none settings condition htable, ?_⟩
    rw [hdeletion, delete_of_none filter htable]
    rfl
  | some table =>
    have hquery : engine.run query =
        ((Result.ofExecution (filter.keep table.rows)).map .rows, store) :=
      run_selection settings condition htable
    -- either all rows can be judged, or both statements fail at the first that cannot
    rcases filter.mapM_accepts_cases table.rows with ⟨-, hjudged⟩ | ⟨e, hfailed, -⟩
    · set rest := table.rows.filter fun row => !filter.isAccepted row with hrest
      have hafter := get?_register store name { table with rows := rest }
      refine .inr ⟨table, store.register name { table with rows := rest }, rfl, ?_, ?_, hafter, ?_⟩
      · rw [hquery, Filter.keep_of_judged hjudged]
        rfl
      · rw [hdeletion, delete_of_judged htable hjudged, List.countP_eq_length_filter]
        rfl
      · have htable' : (store.register name { table with rows := rest }).get? name =
            some { table with rows := rest } := by
          rw [hafter, Function.update_self]
        refine (run_selection settings condition htable').trans ?_
        rw [hrest, Filter.keep_rejected hjudged]
        rfl
    · refine .inl ⟨.execution e, ?_, ?_⟩
      · rw [hquery, Filter.keep_of_error hfailed]
        rfl
      · rw [hdeletion, delete_of_error htable hfailed]
        rfl

/-- Of three people one is older than forty and one has no age: a deletion removes the first of them
only, as the selection says. -/
theorem delete_removes_selection_of_people :
    let ann := Row.ofList [("name", .text "Ann"), ("age", .int64 30)]
    let bob := Row.ofList [("name", .text "Bob"), ("age", .int64 41)]
    let cid := Row.ofList [("name", .text "Cid"), ("age", .null)]
    let engine := Engine.mk {} (empty.registerRows "people" [ann, bob, cid])
    let older := some (Condition.compare ⟨"age", .gt, .int64 40⟩)
    "people" ≠ "" ∧
    (engine.run (.select (.selection "people" older))).1 = .ok (.rows [bob]) ∧
    ∃ after : MemoryStore,
      engine.run (.delete ⟨"people", older⟩) = (.ok (.deleted 1), after) ∧
      after.get? "people" = some ⟨["name", "age"], [ann, cid]⟩ ∧
      (Engine.mk {} after).run (.select (.selection "people" older)) = (.ok (.rows []), after) := by
  intro ann bob cid engine older
  have hname : "people" ≠ "" := by decide
  have hfound : (engine.run (.select (.selection "people" older))).1 = .ok (.rows [bob]) := rfl
  refine ⟨hname, hfound, ?_⟩
  rcases delete_removes_selection {} engine.store hname older with
    ⟨e, hquery, -⟩ | ⟨table, after, htable, hquery, hdeletion, hafter, hnone⟩
  · have herror := congrArg Prod.fst hquery
    rw [hfound] at herror
    cases herror
  · obtain rfl : ⟨["name", "age"], [ann, bob, cid]⟩ = table := Option.some.inj htable
    refine ⟨after, hdeletion, ?_, hnone⟩
    rw [hafter, Function.update_self]
    rfl

end MemoryStore

end TableQuery
