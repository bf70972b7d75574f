import TableQuery.Columnar.Batch
import TableQuery.Proofs.Row
import TableQuery.Proofs.Value.Order

/-!
# Tables as batches and back

A column of a batch is of one type, so values of different kinds in a column are widened when a
table becomes a batch: integers beside floating-point numbers become such numbers, and anything
beside a text becomes text. What comes back from the batch (`Column.readBack`) is an empty cell
where the cell was empty, and otherwise level with the value that went in, whatever else the column
holds. In a column of one kind it is the value itself (`Table.ofBatches_toBatch`).
-/

namespace TableQuery

/-! ## Widened values -/

namespace Value

/-- The text of a value is level with the value: it reads as the same number, or neither reads as a
number and the texts are the same. -/
lemma compare?_text_toText {v : Value} (h : v.isNull = false) :
    (text v.toText).compare? v = some .eq := by
  cases v with
  | null => cases h
  | int64 i =>
    have hordered := compare?_eq_of_ints (a := text (Literal.writeInt i.toInt)) (b := int64 i)
      (asInt64?_writeInt i) rfl
    rwa [compare_eq_iff_eq.mpr rfl] at hordered
  | float64 x =>
    cases hfinite : x.isFinite with
    | true =>
      have hordered := compare?_eq_of_numbers (a := text x.toText) (b := float64 x)
        (asBinary64?_toText hfinite) rfl (.inr rfl)
      rwa [Binary64.getD_compare?_self] at hordered
    | false =>
      have hordered := compare?_eq_of_word (a := text x.toText) (b := float64 x) rfl rfl
        (.inl (asBinary64?_toText_of_not_finite hfinite))
      exact hordered.trans (congrArg some Std.ReflOrd.compare_self)
  | text s => exact compare?_self rfl

/-- An integer is level with the number that it is rounded to. -/
lemma compare?_float64_ofInt (i : Int64) :
    (float64 (.ofInt i.toInt)).compare? (int64 i) = some .eq := by
  have hordered := compare?_eq_of_numbers (a := float64 (.ofInt i.toInt)) (b := int64 i) rfl rfl
    (.inl rfl)
  rwa [Binary64.getD_compare?_self] at hordered

end Value

/-! ## Values in a column of one type -/

namespace Column

/-- The value that comes back for one of the values of a column. -/
def readBack (values : List Value) (v : Value) : Value :=
  if values.any Value.isText then if v.isNull then .null else .text v.toText
  else if values.any Value.isFloat then (v.asBinary64?.map .float64).getD .null
  else (v.asInt64?.map .int64).getD .null

/-- The values of a column are read back one by one. -/
lemma values_ofValues (name : String) (values : List Value) :
    (ofValues name values).values = values.map (readBack values) := by
  unfold ofValues readBack
  split
  · rw [Column.values, List.map_map]
    refine List.map_congr_left fun v _ => ?_
    cases v <;> rfl
  · split
    · rw [Column.values, List.map_map]
      rfl
    · rw [Column.values, List.map_map]
      rfl

/-- A column keeps its name, whatever kind its values have. -/
lemma name_ofValues (name : String) (values : List Value) : (ofValues name values).name = name := by
  unfold ofValues
  split
  · rfl
  · split <;> rfl

/-- Columns that are made name by name have these names. -/
lemma map_name_ofValues (names : List String) (values : String → List Value) :
    (names.map fun name => ofValues name (values name)).map Column.name = names := by
  rw [List.map_map]
  refine (List.map_congr_left fun name _ => ?_).trans (List.map_id names)
  exact name_ofValues name (values name)

/-- A column has one cell for every value. -/
lemma length_cells_ofValues (name : String) (values : List Value) :
    (ofValues name values).cells.length = values.length := by
  have h := congrArg List.length (values_ofValues name values)
  rwa [Column.values, List.length_map, List.length_map] at h

/-- A value comes back as it was, or as its text beside a text, or, if it is an integer, as a
number beside a floating-point number. -/
inductive Widened (values : List Value) (v back : Value) : Prop
  | kept (h : back = v)
  | text (hv : v.isNull = false) (hbeside : ∃ w ∈ values, w.isText) (h : back = .text v.toText)
  | number (i : Int64) (hv : v = .int64 i) (hbeside : ∃ w ∈ values, w.isFloat)
      (h : back = .float64 (.ofInt i.toInt))

/-- What is read back of a value of a column is the value or one of the two widenings of it. -/
lemma widened_readBack {values : List Value} {v : Value} (hmem : v ∈ values) :
    Widened values v (readBack values v) := by
  unfold readBack
  split
  · rename_i htext
    cases hv : v.isNull with
    | true =>
      apply Widened.kept
      cases v with
      | null => rfl
      | int64 | float64 | text => cases hv
    | false => exact .text hv (List.any_eq_true.mp htext) rfl
  · rename_i hnone
    rw [List.any_eq_true] at hnone
    split
    · rename_i hfloat
      cases v with
      | null => exact .kept rfl
      | int64 i => exact .number i rfl (List.any_eq_true.mp hfloat) rfl
      | float64 x => exact .kept rfl
      | text s => exact absurd ⟨_, hmem, rfl⟩ hnone
    · rename_i hfloat
      rw [List.any_eq_true] at hfloat
      cases v with
      | null => exact .kept rfl
      | int64 i => exact .kept rfl
      | float64 x => exact absurd ⟨_, hmem, rfl⟩ hfloat
      | text s => exact absurd ⟨_, hmem, rfl⟩ hnone

variable {values : List Value} {v back : Value}

/-- An empty cell comes back empty, and no other cell does. -/
lemma Widened.isNull_eq (h : Widened values v back) : back.isNull = v.isNull := by
  cases h with
  | kept h => rw [h]
  | text hv _ h =>
    rw [h, hv]
    rfl
  | number i hv _ h =>
    rw [h, hv]
    rfl

/-- What comes back is level with what went in. -/
lemma Widened.compare?_eq (h : Widened values v back) (hv : v.isNull = false) :
    back.compare? v = some .eq := by
  cases h with
  | kept h =>
    rw [h]
    exact Value.compare?_self hv
  | text _ _ h =>
    rw [h]
    exact Value.compare?_text_toText hv
  | number i hi _ h =>
    rw [h, hi]
    exact Value.compare?_float64_ofInt i

/-- Whether all values that are present are of one kind. -/
def OfOneKind (values : List Value) : Prop :=
  ∀ v ∈ values, ∀ w ∈ values, v.isNull = false → w.isNull = false → v.kindName = w.kindName

/-- In a column of one kind all values come back as they were. -/
lemma Widened.eq_of_ofOneKind (h : Widened values v back) (hmem : v ∈ values)
    (hkind : OfOneKind values) : back = v := by
  cases h with
  | kept h => exact h
  | text hv hbeside h =>
    obtain ⟨w, hw, htext⟩ := hbeside
    rw [h]
    cases w with
    | null | int64 | float64 => cases htext
    | text t =>
      have hname := hkind v hmem _ hw hv rfl
      cases v with
      | null => cases hv
      | int64 i => exact absurd hname (by simp [Value.kindName])
      | float64 x => exact absurd hname (by simp [Value.kindName])
      | text s => rfl
  | number i hi hbeside h =>
    obtain ⟨w, hw, hfloat⟩ := hbeside
    cases w with
    | null | int64 | text => cases hfloat
    | float64 x =>
      rw [hi] at hmem
      exact absurd (hkind _ hmem _ hw rfl rfl) (by simp [Value.kindName])

end Column

/-! ## Rows across columns -/

namespace Batch

variable {α : Type}

/-- The rows across columns that are computed from a list of things are computed from the things. -/
lemma transpose_map (cell : String → α → Value) (names : List String) (things : List α) :
    transpose things.length (names.map fun name => things.map (cell name)) =
      things.map fun thing => names.map fun name => cell name thing := by
  induction things with
  | nil => rfl
  | cons thing things ih =>
    rw [List.length_cons, transpose, List.map_map, List.map_map, List.map_cons, ← ih]
    rfl

/-- Columns of one length form a batch. -/
lemma ofColumns_eq {columns : List Column} {size : Nat}
    (hlength : ∀ column ∈ columns, column.cells.length = size) (hne : columns ≠ []) :
    ∃ batch, ofColumns columns = .ok batch ∧ batch.size = size ∧ batch.columns = columns := by
  have hsize : (columns.head?.map fun column => column.cells.length).getD 0 = size := by
    obtain ⟨first, rest, rfl⟩ := List.exists_cons_of_ne_nil hne
    exact hlength first List.mem_cons_self
  have huniform : ∀ column ∈ columns, column.cells.length =
      (columns.head?.map fun column => column.cells.length).getD 0 := by
    intro column hcolumn
    rw [hsize]
    exact hlength column hcolumn
  unfold ofColumns
  rw [dif_pos ⟨huniform, hne⟩]
  exact ⟨_, rfl, hsize, rfl⟩

end Batch

/-- The value in a column of a row, empty if the row has no such column. -/
def Row.cell (row : Row) (column : String) : Value := (row.get? column).getD .null

namespace Table

/-- The values in a column of a table. -/
def cells (table : Table) (column : String) : List Value :=
  table.rows.map fun row => row.cell column

/-- The batch of a table has a column of values for each column of the table. -/
lemma toBatch_eq (table : Table) (h : table.columns ≠ []) :
    ∃ batch, table.toBatch = .ok batch ∧ batch.size = table.rows.length ∧
      batch.columns = table.columns.map fun column => .ofValues column (table.cells column) := by
  apply Batch.ofColumns_eq
  · intro column hcolumn
    obtain ⟨name, -, rfl⟩ := List.mem_map.mp hcolumn
    exact (Column.length_cells_ofValues name _).trans (List.length_map _)
  · exact mt List.map_eq_nil_iff.mp h

/-- The rows that come back from the batch of a table. -/
lemma rows_toBatch {table : Table} {batch : Batch} (hsize : batch.size = table.rows.length)
    (hcolumns : batch.columns =
      table.columns.map fun column => .ofValues column (table.cells column)) :
    batch.rows = table.rows.map fun row => .ofList (table.columns.map fun column =>
      (column, Column.readBack (table.cells column) (row.cell column))) := by
  have hnames : batch.columns.map Column.name = table.columns := by
    rw [hcolumns, Column.map_name_ofValues]
  have hvalues : batch.columns.map Column.values = table.columns.map fun column =>
      table.rows.map fun row => Column.readBack (table.cells column) (row.cell column) := by
    rw [hcolumns, List.map_map]
    refine List.map_congr_left fun column _ => ?_
    refine (Column.values_ofValues column _).trans ?_
    rw [cells, List.map_map]
    rfl
  unfold Batch.rows
  rw [hnames, hvalues, hsize, Batch.transpose_map, List.map_map]
  refine List.map_congr_left fun row _ => ?_
  rw [List.map_prod_left_eq_zip]
  rfl

/-- A table with columns becomes a batch, and comes back from it with the same columns and as many
rows. A cell comes back empty exactly when it was empty or missing, and else with a value that is
level with the one it held. It is this value if the column is of one kind. -/
theorem ofBatches_toBatch (table : Table) (h : table.columns ≠ []) :
    ∃ batch, table.toBatch = .ok batch ∧
      (ofBatches [batch]).columns = table.columns ∧
      (ofBatches [batch]).size = table.size ∧
      List.Forall₂ (fun row back => ∀ column ∈ table.columns, ∃ cell,
          back.get? column = some cell ∧
          (cell.isNull = true ↔ (row.cell column).isNull = true) ∧
          ((row.cell column).isNull = false → cell.compare? (row.cell column) = some .eq) ∧
          (Column.OfOneKind (table.cells column) → cell = row.cell column))
        table.rows (ofBatches [batch]).rows := by
  obtain ⟨batch, hbatch, hsize, hcolumns⟩ := table.toBatch_eq h
  have hrows : (ofBatches [batch]).rows = batch.rows := by simp [ofBatches]
  refine ⟨batch, hbatch, ?_, ?_, ?_⟩
  · change batch.columns.map Column.name = table.columns
    rw [hcolumns, Column.map_name_ofValues]
  · rw [size, hrows, rows_toBatch hsize hcolumns, List.length_map, size]
  · rw [hrows, rows_toBatch hsize hcolumns, List.forall₂_map_right_iff, List.forall₂_same]
    intro row hrow column hcolumn
    have hmem : row.cell column ∈ table.cells column := List.mem_map_of_mem hrow
    have hwidened := Column.widened_readBack hmem
    refine ⟨_, Row.get?_ofList_eq ?_ ?_, ?_, hwidened.compare?_eq, hwidened.eq_of_ofOneKind hmem⟩
    · simpa [Named.names] using hcolumn
    · intro cell hcell hname
      obtain ⟨other, -, rfl⟩ := List.mem_map.mp hcell
      obtain rfl : other = column := hname
      rfl
    · rw [hwidened.isNull_eq]

/-- An integer beside a text and a float: its cell comes back, level with the integer. -/
theorem ofBatches_toBatch_of_sizes :
    let table : Table := ⟨["size", "price"], [
      .ofList [("price", .float64 (.nan false)), ("size", .int64 9)],
      .ofList [("size", .text "XL")], .ofList [("price", .null), ("size", .float64 (.ofInt 7))]]⟩
    table.columns ≠ [] ∧ ∃ batch first rest cell, table.toBatch = .ok batch ∧
      (ofBatches [batch]).columns = ["size", "price"] ∧
      (ofBatches [batch]).rows = first :: rest ∧ rest.length = 2 ∧
      first.get? "size" = some cell ∧ cell.compare? (.int64 9) = some .eq := by
  intro table
  have hcolumns : table.columns ≠ [] := List.cons_ne_nil _ _
  obtain ⟨batch, hbatch, hsame, -, hcells⟩ := ofBatches_toBatch table hcolumns
  obtain ⟨first, rest, hfirst, hrest, hrows⟩ := List.forall₂_cons_left_iff.mp hcells
  obtain ⟨cell, hcell, -, hlevel, -⟩ := hfirst "size" (by decide)
  exact ⟨hcolumns, batch, first, rest, cell, hbatch, hsame, hrows, hrest.length_eq.symm, hcell,
    hlevel (by decide)⟩

end Table

end TableQuery
