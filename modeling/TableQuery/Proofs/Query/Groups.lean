import TableQuery.Engine
import TableQuery.Proofs.Query.Index
import TableQuery.Proofs.Query.Stages
import TableQuery.Proofs.Row
import TableQuery.Store.Memory

/-!
# Groups without aggregates

The different values of some columns can be asked for in two ways: project the rows and drop those
that repeat an earlier one, or group the rows by the columns and show one row for each group. The
two agree (`select_distinctOf_eq_groupedBy`), although the first compares keys of projected rows
and works batch by batch, while the second compares keys of looked-up fields over all rows and then
looks the fields up again in the first row of each group.

The reason is that the first row of a group is the row that is kept, and that both ways use one key.
So they also agree where different values have the same key.
-/

namespace TableQuery

/-! ## Rows of groups -/

namespace SelectItem

/-- Whether the row of a group has a cell for the entry. -/
def isShown (groupBy : List String) : SelectItem → Bool
  | .aggregate _ => true
  | .column name => groupBy.contains name
  | .star => false

/-- What the entry shows of a group: the value of the aggregate, or that of the field in the first
row. -/
def groupValue (group : List Row) : SelectItem → Value
  | .aggregate call => (call.value group).toOption.getD .null
  | .column name => (group.head?.map fun first => first.value name).getD .null
  | .star => .null

variable {groupBy : List String} {group : List Row} {first : Row}

/-- An item that is shown gives the row of its group a cell under its own name, and another item
gives none. -/
lemma groupCell?_eq (hfirst : group.head? = some first) (h : first.Resolves groupBy)
    {item : SelectItem}
    (hvalue : ∀ call, item = .aggregate call → ∃ value, call.value group = .ok value) :
    item.groupCell? groupBy group =
      .ok (if item.isShown groupBy then some (item.name, item.groupValue group) else none) := by
  cases item with
  | star => rfl
  | aggregate call =>
    obtain ⟨value, hvalue⟩ := hvalue call rfl
    simp only [groupCell?, groupValue, hvalue]
    rfl
  | column name =>
    simp only [groupCell?, isShown, groupValue, hfirst]
    split
    · rename_i hcontains
      rw [h.lookup_eq (List.contains_iff_mem.mp hcontains)]
      rfl
    · rfl

end SelectItem

/-- The cells that the entries of a select list show of a group. -/
def shownCells (groupBy : List String) (fields : List SelectItem) (group : List Row) :
    List (String × Value) :=
  (fields.filter (·.isShown groupBy)).map fun item => (item.name, item.groupValue group)

/-- The row of a group is built from the cells that are shown of it, if no aggregate fails. -/
lemma groupRow_eq_ofList {groupBy : List String} {fields : List SelectItem} {group : List Row}
    {first : Row} (hfirst : group.head? = some first) (h : first.Resolves groupBy)
    (hvalues : ∀ call, .aggregate call ∈ fields → ∃ value, call.value group = .ok value) :
    groupRow groupBy fields group = .ok (.ofList (shownCells groupBy fields group)) := by
  have hcells : (fields.mapM fun item => item.groupCell? groupBy group) =
      (.ok (fields.map fun item =>
        if item.isShown groupBy then some (item.name, item.groupValue group) else none) :
        Except ExecutionError _) := by
    refine Result.mapM_eq_ok fun item hitem => SelectItem.groupCell?_eq hfirst h ?_
    rintro call rfl
    exact hvalues call hitem
  have hshown : (fields.map fun item =>
      if item.isShown groupBy then some (item.name, item.groupValue group) else none).filterMap id =
      shownCells groupBy fields group := by
    rw [shownCells, List.filterMap_map, ← List.filterMap_eq_map, ← List.filterMap_eq_filter,
      List.filterMap_filterMap]
    refine List.filterMap_congr fun item _ => ?_
    by_cases hshown : item.isShown groupBy <;> simp [Option.guard, hshown]
  rw [groupRow, hcells]
  exact congrArg (fun cells => Except.ok (Row.ofList cells)) hshown

/-! ## Groups and kept rows -/

section Groups

variable {columns : List String} {rows : List Row}

/-- The rows that are grouped by columns that all of them resolve: a group for each kept row, made
of the rows with its key. -/
lemma groupRows_eq (hne : columns ≠ []) (h : ∀ row ∈ rows, row.Resolves columns) :
    let key (row : Row) := Value.groupKeys (columns.map row.value)
    groupRows columns rows = .ok ((Index.keepNew key ∅ rows).1.map fun first =>
      rows.filter fun row => key row == key first) := by
  intro key
  have hkeys : (rows.mapM fun row => Value.groupKeys <$> row.lookupAll columns) =
      (.ok (rows.map key) : Except ExecutionError _) := by
    refine Result.mapM_eq_ok fun row hrow => ?_
    rw [(h row hrow).lookupAll_eq]
    rfl
  have hgroups : ((Index.keepNew id ∅ (rows.map key)).1.map fun wanted =>
      (Index.ofList ((rows.map key).zip rows)).getD wanted []) =
      (Index.keepNew key ∅ rows).1.map fun first =>
        rows.filter fun row => key row == key first := by
    rw [Index.keepNew_map, List.map_map]
    simp only [Function.comp_def, Index.getD_ofList, Index.withKey_zip_map]
    rfl
  unfold groupRows
  rw [if_neg (mt List.isEmpty_iff.mp hne), hkeys]
  exact congrArg Except.ok hgroups

/-- The row of a group shows the values of its first row. -/
lemma groupRow_eq {group : List Row} {first : Row} (hfirst : group.head? = some first)
    (h : first.Resolves columns) :
    groupRow columns (columns.map .column) group = .ok (first.picked columns) := by
  have hshown : (columns.map SelectItem.column).filter (·.isShown columns) =
      columns.map .column := by
    refine List.filter_eq_self.mpr fun item hitem => ?_
    obtain ⟨column, hcolumn, rfl⟩ := List.mem_map.mp hitem
    exact List.contains_iff_mem.mpr hcolumn
  rw [groupRow_eq_ofList hfirst h (by simp), shownCells, hshown, List.map_map]
  simp only [Function.comp_def, SelectItem.groupValue, hfirst]
  rfl

/-- Grouping rows by columns that all of them resolve picks the columns of the kept rows. -/
lemma aggregateRows_eq (hne : columns ≠ []) (h : ∀ row ∈ rows, row.Resolves columns) :
    aggregateRows columns (columns.map .column) rows = .ok
      ((Index.keepNew (fun row => Value.groupKeys (columns.map row.value)) ∅ rows).1.map
        (Row.picked columns)) := by
  rw [aggregateRows, groupRows_eq hne h]
  refine (List.mapM_map ..).trans (Result.mapM_eq_ok fun first hfirst => ?_)
  exact groupRow_eq (Index.head?_filter_of_mem_keepNew hfirst)
    (h first (Index.mem_of_mem_keepNew hfirst))

/-- Dropping repeated rows among those of some columns picks the columns of the kept rows. -/
lemma distinctRows_picked (hnodup : columns.Nodup) (rows : List Row) :
    distinctRows (rows.map (Row.picked columns)) =
      (Index.keepNew (fun row => Value.groupKeys (columns.map row.value)) ∅ rows).1.map
        (Row.picked columns) := by
  rw [distinctRows, Index.keepNew_map]
  simp only [Row.groupKey_picked hnodup]

/-- A row that does not resolve one of the columns fails grouping. -/
lemma aggregateRows_fails (hne : columns ≠ []) {row : Row} (hrow : row ∈ rows)
    (h : ¬ row.Resolves columns) (fields : List SelectItem) :
    ∃ e, aggregateRows columns fields rows = .error e := by
  obtain ⟨e, hkeys⟩ : ∃ e, (rows.mapM fun row => Value.groupKeys <$> row.lookupAll columns) =
      .error e := by
    refine Result.exists_error_of_mapM hrow ?_
    obtain ⟨e, he⟩ := Row.exists_error_of_not_resolves h
    exact ⟨e, by rw [he]; rfl⟩
  refine ⟨e, ?_⟩
  rw [aggregateRows, groupRows, if_neg (mt List.isEmpty_iff.mp hne), hkeys]
  rfl

/-- A row that does not resolve one of the columns fails projection. -/
lemma projectRows_fails {row : Row} (hrow : row ∈ rows) (h : ¬ row.Resolves columns) :
    ∃ e, projectRows (some columns) rows = .error e := by
  refine Result.exists_error_of_mapM hrow ?_
  obtain ⟨e, he⟩ := Row.exists_error_of_not_resolves h
  exact ⟨e, by rw [Row.project, he]; rfl⟩

/-- Projecting rows and dropping the repeated ones gives what grouping them gives, or both fail. -/
lemma toOption_distinctRows_eq_aggregateRows (hne : columns ≠ []) (hnodup : columns.Nodup)
    (rows : List Row) :
    (projectRows (some columns) rows).toOption.map distinctRows =
      (aggregateRows columns (columns.map .column) rows).toOption := by
  by_cases h : ∀ row ∈ rows, row.Resolves columns
  · have hproject : projectRows (some columns) rows = .ok (rows.map (Row.picked columns)) :=
      Result.mapM_eq_ok fun row hrow => (h row hrow).project_eq
    rw [hproject, aggregateRows_eq hne h, Result.toOption_ok, Result.toOption_ok, Option.map_some,
      distinctRows_picked hnodup]
  · push Not at h
    obtain ⟨row, hrow, hfails⟩ := h
    obtain ⟨e, hproject⟩ := projectRows_fails hrow hfails
    obtain ⟨e', hgroup⟩ := aggregateRows_fails hne hrow hfails (columns.map .column)
    rw [hproject, hgroup]
    rfl

end Groups

/-! ## The two queries -/

namespace SelectStatement

/-- The query for the different values of some columns. -/
def distinctOf (columns : List String) (table : String) (condition : Option Condition) :
    SelectStatement :=
  ⟨columns.map .column, table, condition, none, none, false, none, none, true⟩

/-- The query for one row of some columns for each group of rows with the same values of them. -/
def groupedBy (columns : List String) (table : String) (condition : Option Condition) :
    SelectStatement :=
  ⟨columns.map .column, table, condition, none, some columns, false, none, none, false⟩

/-- A query without a limit succeeds when its stages do, and with their rows. -/
lemma toOption_rows {statement : SelectStatement} (h : statement.limit = none) (base : Table)
    (joined : Option Table) (settings : Settings) :
    (statement.rows base joined settings).toOption =
      (statement.stagedRows base joined settings).toOption := by
  have hsource := statement.source_computes base joined
  unfold rows plan
  cases hs : statement.source base joined with
  | error e =>
    obtain ⟨e', he'⟩ := Result.exists_error_of_toOption (by rwa [hs] at hsource)
    rw [stagedRows, he']
    rfl
  | ok source =>
    rw [hs] at hsource
    exact (statement.rows_limited (statement.unlimited_computes settings hsource)).2 h

/-- A select list of columns is projected to these columns. -/
lemma projectedColumns?_columns (columns : List String) :
    projectedColumns? (columns.map .column) = some columns := by
  simp [projectedColumns?, Function.comp_def, SelectItem.name]

/-- Both queries give the same rows of every table, or both fail. -/
lemma toOption_rows_distinctOf (table : String) (condition : Option Condition)
    {columns : List String} (hne : columns ≠ []) (hnodup : columns.Nodup) (base : Table)
    (settings : Settings) :
    ((distinctOf columns table condition).rows base none settings).toOption =
      ((groupedBy columns table condition).rows base none settings).toOption := by
  rw [toOption_rows rfl, toOption_rows rfl]
  have hdistinct (accepted : List Row) :
      ((distinctOf columns table condition).shapedRows settings accepted).toOption =
        (projectRows (some columns) accepted).toOption := by
    rw [← projectedColumns?_columns]
    rfl
  have hgrouped (accepted : List Row) :
      ((groupedBy columns table condition).shapedRows settings accepted).toOption =
        (aggregateRows columns (columns.map .column) accepted).toOption := by
    refine (Result.toOption_bind ..).trans ?_
    exact Option.bind_fun_some _
  simp only [stagedRows, Result.toOption_bind, Result.toOption_ofExecution, hdistinct, hgrouped]
  refine congrArg _ (funext fun source => congrArg _ (funext fun accepted => ?_))
  rw [← toOption_distinctRows_eq_aggregateRows hne hnodup]
  cases (projectRows (some columns) accepted).toOption <;> rfl

end SelectStatement

namespace Engine

variable {σ : Type} [Store σ]

/-- A query without a join gives the rows of its table. -/
lemma toOption_select (engine : Engine σ) {statement : SelectStatement}
    (h : statement.join = none) :
    (engine.select statement).toOption =
      (Store.fetch engine.store statement.table).toOption.bind fun base =>
        (statement.rows base none engine.settings).toOption := by
  rw [select, Result.toOption_bind, h]
  rfl

/-- Over every store the query for the different values of some columns and the query for one row of
each group of these columns give the same rows in the same order, or both fail. -/
theorem select_distinctOf_eq_groupedBy (engine : Engine σ) (table : String)
    (condition : Option Condition) {columns : List String} (hne : columns ≠ [])
    (hnodup : columns.Nodup) :
    (engine.select (.distinctOf columns table condition)).toOption =
      (engine.select (.groupedBy columns table condition)).toOption := by
  rw [toOption_select engine rfl, toOption_select engine rfl]
  refine congrArg _ (funext fun base => ?_)
  exact SelectStatement.toOption_rows_distinctOf table condition hne hnodup base engine.settings

/-- Two pairs of texts differ but have one key, because one of the texts holds the mark between two
values. Both queries show the first pair only. -/
theorem select_distinctOf_eq_groupedBy_of_pairs :
    let first := Row.ofList [("a", .text "x\x1fsy"), ("b", .text "z")]
    let second := Row.ofList [("a", .text "x"), ("b", .text "y\x1fsz")]
    let engine := Engine.mk {} (MemoryStore.empty.registerRows "pairs" [first, second])
    ["a", "b"] ≠ [] ∧ ["a", "b"].Nodup ∧
    (engine.select (.distinctOf ["a", "b"] "pairs" none)).toOption = some [first] ∧
    (engine.select (.groupedBy ["a", "b"] "pairs" none)).toOption = some [first] := by
  intro first second engine
  have hne : ["a", "b"] ≠ [] := by decide
  have hnodup : ["a", "b"].Nodup := by decide
  have hkey : second.groupKey = first.groupKey := by decide
  have hkept : distinctRows [first, second] = [first] := by
    simp [distinctRows, Index.keepNew, hkey]
  have hdistinct : (engine.select (.distinctOf ["a", "b"] "pairs" none)).toOption =
      some [first] := by
    rw [toOption_select engine rfl]
    refine (SelectStatement.toOption_rows rfl _ _ _).trans ?_
    exact congrArg some hkept
  refine ⟨hne, hnodup, hdistinct, ?_⟩
  rw [← select_distinctOf_eq_groupedBy engine "pairs" none hne hnodup]
  exact hdistinct

end Engine

end TableQuery
