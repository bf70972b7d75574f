import TableQuery.Proofs.Store.Session

/-!
# Values of an insertion

An insertion names columns and gives a text for each. The new row takes the first text that is given
for a column, so a later text for a column that is named twice is lost
(`exists_inserted_value_lost`). A row holds the values of all the texts exactly when columns of one
name are given texts of one value (`insertion_keeps_values_iff`), as when no column is named twice.
-/

namespace TableQuery

namespace InsertStatement

/-- The columns that an insertion names, each with the text given for it. -/
def assignments (statement : InsertStatement) : List (String × String) :=
  statement.columns.zip statement.values

/-- Whether a row holds, under each column that is named, the value of the text given for it. -/
def KeptIn (statement : InsertStatement) (row : Row) : Prop :=
  ∀ given ∈ statement.assignments, row.get? given.1 = some (Value.infer given.2)

/-- Whether columns of one name are given texts of one value. -/
def Consistent (statement : InsertStatement) : Prop :=
  ∀ given ∈ statement.assignments, ∀ other ∈ statement.assignments, given.1 = other.1 →
    Value.infer given.2 = Value.infer other.2

/-- Whether an insertion is consistent can be computed. -/
instance (statement : InsertStatement) : Decidable statement.Consistent :=
  inferInstanceAs (Decidable (∀ _ ∈ _, _))

/-- Whether a row keeps the values of an insertion can be computed. -/
instance (statement : InsertStatement) (row : Row) : Decidable (statement.KeptIn row) :=
  inferInstanceAs (Decidable (∀ _ ∈ _, _))

variable {statement : InsertStatement}

/-- With as many texts as columns every column is given a text. -/
lemma map_fst_assignments (h : statement.columns.length = statement.values.length) :
    statement.assignments.map Prod.fst = statement.columns :=
  List.map_fst_zip (Nat.le_of_eq h)

/-- A column that is named is given a first text. -/
lemma exists_lookup_assignments (h : statement.columns.length = statement.values.length)
    {column : String} (hcolumn : column ∈ statement.columns) :
    ∃ text, statement.assignments.lookup column = some text ∧
      (column, text) ∈ statement.assignments := by
  rw [← map_fst_assignments h] at hcolumn
  obtain ⟨given, hgiven, rfl⟩ := List.mem_map.mp hcolumn
  have hsome : (statement.assignments.lookup given.1).isSome := by
    rw [List.lookup_isSome_iff]
    exact ⟨given, hgiven, beq_self_eq_true _⟩
  obtain ⟨text, htext⟩ := Option.isSome_iff_exists.mp hsome
  obtain ⟨before, after, hsplit, -⟩ := List.lookup_eq_some_iff.mp htext
  refine ⟨text, htext, ?_⟩
  rw [hsplit]
  exact List.mem_append_right before List.mem_cons_self

/-- Columns of distinct names are given texts of one value each. -/
lemma consistent_of_nodup (hlength : statement.columns.length = statement.values.length)
    (h : statement.columns.Nodup) : statement.Consistent := by
  intro given hgiven other hother hname
  rw [← map_fst_assignments hlength] at h
  rw [List.inj_on_of_nodup_map h hgiven hother hname]

/-- A row that holds the value of the first text for each column holds those of all texts exactly
when columns of one name are given texts of one value. -/
lemma keptIn_iff_consistent (hlength : statement.columns.length = statement.values.length)
    {row : Row} (h : ∀ column ∈ statement.columns, ∃ text,
      statement.assignments.lookup column = some text ∧
        row.get? column = some (Value.infer text)) :
    statement.KeptIn row ↔ statement.Consistent := by
  constructor
  · intro hkept given hgiven other hother hname
    have hvalue := hkept given hgiven
    rw [hname, hkept other hother] at hvalue
    exact (Option.some.inj hvalue).symm
  · intro hconsistent given hgiven
    have hcolumn : given.1 ∈ statement.columns := by
      rw [← map_fst_assignments hlength]
      exact List.mem_map_of_mem hgiven
    obtain ⟨first, hfirst, hmem⟩ := exists_lookup_assignments hlength hcolumn
    obtain ⟨text, htext, hvalue⟩ := h given.1 hcolumn
    obtain rfl := Option.some.inj (hfirst.symm.trans htext)
    rw [hvalue, hconsistent _ hmem given hgiven rfl]

end InsertStatement

/-- An insertion that is well formed has as many values as columns. -/
lemma Engine.length_eq_of_checkInsert {statement : InsertStatement}
    (h : checkInsert statement = .ok ()) :
    statement.columns.length = statement.values.length := by
  unfold checkInsert at h
  split_ifs at h with htable hcolumns hlength
  exact not_not.mp hlength

namespace MemoryStore

/-- An insertion that succeeds finds its table with all its columns and adds one row to it. -/
lemma run_insert_eq_ok {settings : Settings} {store after : MemoryStore}
    {statement : InsertStatement} {outcome : Outcome}
    (h : (Engine.mk settings store).run (.insert statement) = (.ok outcome, after)) :
    statement.columns.length = statement.values.length ∧
    ∃ table, store.get? statement.table = some table ∧
      (∀ column ∈ statement.columns, column ∈ table.columns) ∧ outcome = .inserted 1 ∧
      after = store.register statement.table
        (table.push (newRow table statement.columns statement.values)) := by
  simp only [Engine.run, Engine.insert] at h
  rcases hcheck : Engine.checkInsert statement with e | _
  · rw [hcheck] at h
    cases h
  · refine ⟨Engine.length_eq_of_checkInsert hcheck, ?_⟩
    rcases store.insert_cases statement.table statement.columns statement.values with
      ⟨e, he, -⟩ | ⟨table, htable, hcolumns, hinsert⟩
    · simp only [hcheck, Store.insert, he] at h
      cases h
    · simp only [hcheck, Store.insert, hinsert] at h
      obtain ⟨houtcome, hafter⟩ := Prod.mk.inj h
      exact ⟨table, htable, hcolumns, (Except.ok.inj houtcome).symm, hafter.symm⟩

/-- An insertion that succeeds adds one row to its table, in which each column that it names holds
the value of the first text given for it. So the row holds the values of all texts exactly when
columns of one name are given texts of one value, and it does when no column is named twice. -/
theorem insertion_keeps_values_iff {settings : Settings} {store after : MemoryStore} {text : String}
    {statement : InsertStatement} {outcome : Outcome}
    (hparse : Statement.parse text = .ok (.insert statement))
    (hrun : (Engine.mk settings store).execute text = (.ok outcome, after)) :
    ∃ (table : Table) (row : Row), store.get? statement.table = some table ∧
      outcome = .inserted 1 ∧
      after.get? = Function.update store.get? statement.table (some (table.push row)) ∧
      statement.columns.length = statement.values.length ∧
      (∀ column ∈ statement.columns, ∃ first, statement.assignments.lookup column = some first ∧
        row.get? column = some (Value.infer first)) ∧
      (statement.KeptIn row ↔ statement.Consistent) ∧
      (statement.columns.Nodup → statement.KeptIn row) := by
  rw [Engine.execute, hparse] at hrun
  obtain ⟨hlength, table, htable, hcolumns, houtcome, rfl⟩ := run_insert_eq_ok hrun
  have hfirst : ∀ column ∈ statement.columns, ∃ first,
      statement.assignments.lookup column = some first ∧
        (newRow table statement.columns statement.values).get? column =
          some (Value.infer first) := by
    intro column hcolumn
    obtain ⟨first, hlookup, -⟩ := InsertStatement.exists_lookup_assignments hlength hcolumn
    refine ⟨first, hlookup, ?_⟩
    rw [InsertStatement.assignments] at hlookup
    rw [get?_newRow (hcolumns column hcolumn), hlookup]
    rfl
  have hkept := InsertStatement.keptIn_iff_consistent hlength hfirst
  refine ⟨table, _, htable, houtcome, get?_register _ _ _, hlength, hfirst, hkept, fun hnodup => ?_⟩
  exact hkept.mpr (InsertStatement.consistent_of_nodup hlength hnodup)

/-- Columns that are named in another order than that of the table hold the values given for
them. -/
theorem insertion_keeps_values_iff_of_people :
    let store := empty.create "people" ["name", "age"]
    let text := "INSERT INTO people (age, name) VALUES (31, 'Ann')"
    let statement : InsertStatement := ⟨"people", ["age", "name"], ["31", "Ann"]⟩
    Statement.parse text = .ok (.insert statement) ∧
    ∃ (after : MemoryStore) (row : Row),
      (Engine.mk {} store).execute text = (.ok (.inserted 1), after) ∧
      after.get? "people" = some ⟨["name", "age"], [row]⟩ ∧
      row.get? "age" = some (.int64 31) ∧ row.get? "name" = some (.text "Ann") := by
  intro store text statement
  have hparse : Statement.parse text = .ok (.insert statement) := by
    refine Result.eq_ok_of_toOption ?_
    decide +kernel
  have htable : store.get? "people" = some ⟨["name", "age"], []⟩ := rfl
  set after := ((Engine.mk {} store).execute text).2
  have hanswer : ((Engine.mk {} store).execute text).1 = .ok (.inserted 1) := by
    refine Result.eq_ok_of_toOption ?_
    decide +kernel
  have hrun : (Engine.mk {} store).execute text = (.ok (.inserted 1), after) :=
    Prod.ext hanswer rfl
  obtain ⟨table, row, hold, -, hafter, -, -, -, hkept⟩ := insertion_keeps_values_iff hparse hrun
  obtain rfl := Option.some.inj (hold.symm.trans htable)
  have hvalues : statement.KeptIn row := hkept (by decide)
  have hage : Value.infer "31" = .int64 31 := by decide +kernel
  have hname : Value.infer "Ann" = .text "Ann" := by decide +kernel
  refine ⟨hparse, after, row, hrun, ?_, ?_, ?_⟩
  · rw [hafter, Function.update_self]
    rfl
  · rw [← hage]
    exact hvalues ("age", "31") (by decide)
  · rw [← hname]
    exact hvalues ("name", "Ann") (by decide)

/-- Of two texts that are given for one column the second is lost, although one row is reported as
inserted. -/
theorem exists_inserted_value_lost :
    let engine := Engine.mk {} (empty.create "t" ["a", "b"])
    let text := "INSERT INTO t (a, a) VALUES (1, 2)"
    let statement : InsertStatement := ⟨"t", ["a", "a"], ["1", "2"]⟩
    let row := Row.ofList [("a", .int64 1), ("b", .null)]
    (Statement.parse text).toOption = some (.insert statement) ∧
    (engine.session [text, "SELECT * FROM t"]).1.map Except.toOption =
      [some (.inserted 1), some (.rows [row])] ∧
    ¬ statement.KeptIn row := by
  intro engine text statement row
  refine ⟨?_, ?_, ?_⟩
  · decide +kernel
  · decide +kernel
  · decide +kernel

end MemoryStore

end TableQuery
