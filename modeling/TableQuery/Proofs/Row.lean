import Mathlib.Data.List.Nodup
import TableQuery.Proofs.Result
import TableQuery.Query.Sort

/-!
# Rows and references

What the cells of a row are called and what is found under a name: in a row that is built cell by
cell it is the value that came last (`get?_ofList`). A reference resolves to the cell of exactly its
name if there is one (`lookup_of_get?`). Which cell it is, or why there is none, depends on the
columns of the row and not on its values (`lookup_of_columns`).
-/

namespace TableQuery

namespace Row

/-! ## Cells by name -/

/-- Something is found under exactly the names of the cells. -/
lemma isSome_get?_iff {row : Row} {name : String} :
    (row.get? name).isSome ↔ name ∈ row.columns :=
  Named.isSome_lookup_iff

/-- A column of a row has a value. -/
lemma exists_get?_of_mem {row : Row} {name : String} (h : name ∈ row.columns) :
    ∃ value, row.get? name = some value :=
  Option.isSome_iff_exists.mp (isSome_get?_iff.mpr h)

/-- A cell that is inserted is found under its name, and the others as before. -/
lemma get?_insert (row : Row) (name other : String) (value : Value) :
    (row.insert name value).get? other = if other = name then some value else row.get? other :=
  Named.lookup_set name other value row.cells

/-- Cells that are inserted one after the other are found by the last one of each name, before those
that were there. -/
lemma get?_foldl_insert (row : Row) (cells : List (String × Value)) (name : String) :
    (cells.foldl (fun row cell => row.insert cell.1 cell.2) row).get? name =
      (cells.reverse.lookup name).or (row.get? name) := by
  induction cells generalizing row with
  | nil => rfl
  | cons cell cells ih =>
    obtain ⟨first, value⟩ := cell
    have hone : ([(first, value)].lookup name).or (row.get? name) =
        (row.insert first value).get? name := by
      rw [get?_insert, Named.lookup_cons]
      by_cases h : name = first <;> simp [h]
    rw [List.foldl_cons, ih, List.reverse_cons, List.lookup_append, Option.or_assoc, hone]

/-- In a row that is built cell by cell the value that came last is found under a name. -/
lemma get?_ofList (cells : List (String × Value)) (name : String) :
    (ofList cells).get? name = cells.reverse.lookup name := by
  refine (get?_foldl_insert empty cells name).trans ?_
  exact Option.or_none

/-- A row that is built cell by cell has the names of the cells. -/
lemma mem_columns_ofList {cells : List (String × Value)} {name : String} :
    name ∈ (ofList cells).columns ↔ name ∈ Named.names cells := by
  rw [← isSome_get?_iff, get?_ofList, List.lookup_isSome_iff, Named.names, List.mem_map]
  refine exists_congr fun cell => ?_
  rw [List.mem_reverse, beq_iff_eq, eq_comm (a := name)]

/-- A name under which all cells hold one value is found with this value. -/
lemma get?_ofList_eq {cells : List (String × Value)} {name : String} {value : Value}
    (hmem : name ∈ Named.names cells) (h : ∀ cell ∈ cells, cell.1 = name → cell.2 = value) :
    (ofList cells).get? name = some value := by
  obtain ⟨found, hfound⟩ := exists_get?_of_mem (mem_columns_ofList.mpr hmem)
  rw [hfound]
  rw [get?_ofList, List.lookup_eq_some_iff] at hfound
  obtain ⟨before, after, hsplit, -⟩ := hfound
  have hcell : (name, found) ∈ cells := by
    rw [← List.mem_reverse, hsplit]
    exact List.mem_append_right before List.mem_cons_self
  exact congrArg some (h _ hcell rfl)

/-! ## References -/

/-- A reference resolves to the cell of exactly its name. -/
lemma lookup_of_get? {row : Row} {field : String} {value : Value}
    (h : row.get? field = some value) : row.lookup field = .ok value := by
  unfold lookup
  rw [h]

/-! ## Rows of the same cells -/

/-- A cell of a row is found under its name. -/
lemma get?_of_mem {row : Row} {cell : String × Value} (h : cell ∈ row.cells) :
    row.get? cell.1 = some cell.2 := by
  obtain ⟨value, hvalue⟩ := exists_get?_of_mem (List.mem_map_of_mem h)
  obtain ⟨before, after, hsplit, -⟩ := List.lookup_eq_some_iff.mp hvalue
  have hfound : (cell.1, value) ∈ row.cells := by
    rw [hsplit]
    exact List.mem_append_right before List.mem_cons_self
  have hsame := List.inj_on_of_nodup_map row.nodup hfound h rfl
  rw [hvalue, ← hsame]

/-- The cells of a row are what is found under its names. -/
lemma mem_cells_iff {row : Row} {name : String} {value : Value} :
    (name, value) ∈ row.cells ↔ row.get? name = some value := by
  constructor
  · exact get?_of_mem
  · intro h
    obtain ⟨before, after, hsplit, -⟩ := List.lookup_eq_some_iff.mp h
    rw [hsplit]
    exact List.mem_append_right before List.mem_cons_self

/-- Whether two rows hold the same value under every name, in whatever order. -/
def SameCells (row other : Row) : Prop := ∀ name, row.get? name = other.get? name

/-- No cell of a row is repeated, since no name is. -/
lemma nodup_cells (row : Row) : row.cells.Nodup := row.nodup.of_map

/-- Rows hold the same values when their cells differ in order only. -/
lemma sameCells_iff_perm {row other : Row} : row.SameCells other ↔ row.cells.Perm other.cells := by
  rw [List.perm_ext_iff_of_nodup row.nodup_cells other.nodup_cells, Prod.forall]
  simp only [mem_cells_iff]
  exact forall_congr' fun _ => Option.ext_iff

/-! ## Rows of the same columns -/

/-- Cells of the same names, inserted into rows of the same columns, give rows of the same
columns. -/
lemma columns_foldl_insert {row other : Row} (hcolumns : row.columns = other.columns)
    {cells others : List (String × Value)} (hnames : Named.names cells = Named.names others) :
    (cells.foldl (fun row cell => row.insert cell.1 cell.2) row).columns =
      (others.foldl (fun row cell => row.insert cell.1 cell.2) other).columns := by
  induction cells generalizing row other others with
  | nil =>
    obtain rfl : others = [] := List.map_eq_nil_iff.mp hnames.symm
    exact hcolumns
  | cons cell cells ih =>
    cases others with
    | nil => cases hnames
    | cons next others =>
      obtain ⟨hname, hrest⟩ := List.cons.inj hnames
      refine @ih (row.insert cell.1 cell.2) (other.insert next.1 next.2) ?_ others hrest
      simp only [columns, insert, Named.names_set] at hcolumns ⊢
      rw [hcolumns, hname]

/-- Two rows of the same columns have the same candidates for a field, up to the values. -/
lemma names_candidates (row : Row) (field : String) :
    Named.names (row.candidates field) =
      row.columns.filter fun name => afterLastPoint? name.toList == some field.toList := by
  rw [columns, Named.names, Named.names, List.filter_map]
  rfl

/-- In two rows of the same columns there is a cell of a name in both or in neither. -/
lemma get?_of_columns {row other : Row} (h : row.columns = other.columns) (name : String) :
    (row.get? name = none ∧ other.get? name = none) ∨
    ∃ v w, row.get? name = some v ∧ other.get? name = some w := by
  by_cases hname : name ∈ row.columns
  · obtain ⟨v, hv⟩ := exists_get?_of_mem hname
    obtain ⟨w, hw⟩ := exists_get?_of_mem (h ▸ hname)
    exact .inr ⟨v, w, hv, hw⟩
  · refine .inl ⟨?_, ?_⟩
    · rwa [← Option.not_isSome_iff_eq_none, isSome_get?_iff]
    · rwa [← Option.not_isSome_iff_eq_none, isSome_get?_iff, ← h]

/-- In two rows of the same columns a field has no candidate, one candidate of one name, or several
of which the first two have the same names. -/
lemma candidates_of_columns {row other : Row} (h : row.columns = other.columns) (field : String) :
    (row.candidates field = [] ∧ other.candidates field = []) ∨
    (∃ cell next, row.candidates field = [cell] ∧ other.candidates field = [next] ∧
      cell.1 = next.1) ∨
    ∃ cell second mine next last others, row.candidates field = cell :: second :: mine ∧
      other.candidates field = next :: last :: others ∧ cell.1 = next.1 ∧ second.1 = last.1 := by
  have hnames : Named.names (other.candidates field) = Named.names (row.candidates field) := by
    rw [names_candidates, names_candidates, h]
  rcases hmine : row.candidates field with _ | ⟨cell, _ | ⟨second, mine⟩⟩
  · rw [hmine] at hnames
    exact .inl ⟨rfl, List.map_eq_nil_iff.mp hnames⟩
  · rw [hmine] at hnames
    obtain ⟨next, tail, hother, hname, htail⟩ := List.map_eq_cons_iff.mp hnames
    obtain rfl : tail = [] := List.map_eq_nil_iff.mp htail
    exact .inr (.inl ⟨cell, next, rfl, hother, hname.symm⟩)
  · rw [hmine] at hnames
    obtain ⟨next, tail, hother, hname, htail⟩ := List.map_eq_cons_iff.mp hnames
    obtain ⟨last, others, rfl, hlast, -⟩ := List.map_eq_cons_iff.mp htail
    exact .inr (.inr ⟨cell, second, mine, next, last, others, rfl, hother, hname.symm, hlast.symm⟩)

/-- What a reference may mean is found under its full name. -/
lemma get?_of_mem_candidates {row : Row} {field : String} {cell : String × Value}
    (h : cell ∈ row.candidates field) : row.get? cell.1 = some cell.2 :=
  get?_of_mem (List.mem_of_mem_filter h)

/-- In two rows of the same columns a reference fails alike, or it resolves to the cell of one name
in both. -/
lemma lookup_of_columns {row other : Row} (h : row.columns = other.columns) (field : String) :
    (∃ e, row.lookup field = .error e ∧ other.lookup field = .error e) ∨
    ∃ column v w, (row.get? column = some v ∧ other.get? column = some w) ∧
      row.lookup field = .ok v ∧ other.lookup field = .ok w := by
  rcases get?_of_columns h field with ⟨hv, hw⟩ | ⟨v, w, hv, hw⟩
  · unfold lookup
    simp only [hv, hw]
    cases afterFirstPoint? field.toList with
    | some column =>
      rcases get?_of_columns h (String.ofList column) with ⟨hv, hw⟩ | ⟨v, w, hv, hw⟩
      · simp only [hv, hw]
        exact .inl ⟨_, rfl, rfl⟩
      · refine .inr ⟨_, v, w, ⟨hv, hw⟩, ?_, ?_⟩
        · simp only [hv]
        · simp only [hw]
    | none =>
      rcases candidates_of_columns h field with ⟨hmine, hother⟩ |
        ⟨cell, next, hmine, hother, hname⟩ |
        ⟨cell, second, mine, next, last, others, hmine, hother, hname, hlast⟩
      · simp only [hmine, hother]
        exact .inl ⟨_, rfl, rfl⟩
      · have hcell := get?_of_mem_candidates (hmine ▸ List.mem_cons_self)
        have hnext := get?_of_mem_candidates (hother ▸ List.mem_cons_self)
        simp only [hmine, hother]
        exact .inr ⟨cell.1, cell.2, next.2, ⟨hcell, hname ▸ hnext⟩, rfl, rfl⟩
      · simp only [hmine, hother, hname, hlast]
        exact .inl ⟨_, rfl, rfl⟩
  · exact .inr ⟨field, v, w, ⟨hv, hw⟩, lookup_of_get? hv, lookup_of_get? hw⟩

/-- The value that a reference stands for, and nothing if it cannot be resolved. -/
def value (row : Row) (field : String) : Value := (row.lookup field).toOption.getD .null

/-- The row of the values of some columns. -/
def picked (columns : List String) (row : Row) : Row :=
  .ofList (columns.map fun column => (column, row.value column))

/-- Whether all of some columns can be looked up. -/
def Resolves (columns : List String) (row : Row) : Prop :=
  ∀ column ∈ columns, ∃ value, row.lookup column = .ok value

variable {columns : List String} {row : Row}

/-- Whether columns can be looked up is seen from the answers. -/
lemma resolves_iff :
    row.Resolves columns ↔ ∀ column ∈ columns, (row.lookup column).toOption.isSome = true := by
  refine forall₂_congr fun column _ => ?_
  cases row.lookup column <;> simp [Except.toOption]

/-- Whether columns can be looked up can be computed. -/
instance (columns : List String) (row : Row) : Decidable (row.Resolves columns) :=
  decidable_of_iff _ resolves_iff.symm

/-- A row in which some columns can be looked up is one for fewer of them. -/
lemma Resolves.mono {others : List String} (h : row.Resolves columns) (hsub : others ⊆ columns) :
    row.Resolves others :=
  fun column hmem => h column (hsub hmem)

/-- Columns that can be looked up can be taken together. -/
lemma Resolves.append {others : List String} (h : row.Resolves columns)
    (hothers : row.Resolves others) : row.Resolves (columns ++ others) := by
  intro column hmem
  rcases List.mem_append.mp hmem with hcolumn | hcolumn
  · exact h column hcolumn
  · exact hothers column hcolumn

/-- What can be looked up depends on the columns of the row only. -/
lemma Resolves.of_columns {other : Row} (h : row.Resolves columns)
    (hsame : row.columns = other.columns) : other.Resolves columns := by
  intro column hmem
  obtain ⟨value, hvalue⟩ := h column hmem
  rcases lookup_of_columns hsame column with ⟨e, herror, -⟩ | ⟨-, -, w, -, -, hw⟩
  · rw [hvalue] at herror
    cases herror
  · exact ⟨w, hw⟩

/-- The lookup of a column that resolves gives its value. -/
lemma Resolves.lookup_eq (h : row.Resolves columns) {column : String} (hmem : column ∈ columns) :
    row.lookup column = .ok (row.value column) := by
  obtain ⟨value, hvalue⟩ := h column hmem
  rw [Row.value, hvalue]
  rfl

/-- The lookups of columns that resolve give their values. -/
lemma Resolves.lookupAll_eq (h : row.Resolves columns) :
    row.lookupAll columns = .ok (columns.map row.value) :=
  Result.mapM_eq_ok fun _ hmem => h.lookup_eq hmem

/-- A row in which columns resolve is projected to them. -/
lemma Resolves.project_eq (h : row.Resolves columns) :
    row.project columns = .ok (row.picked columns) := by
  rw [project, h.lookupAll_eq, picked, List.map_prod_left_eq_zip]
  rfl

/-- Nothing is looked up when one of the columns cannot be. -/
lemma exists_error_of_not_resolves (h : ¬ row.Resolves columns) :
    ∃ e, row.lookupAll columns = .error e := by
  unfold Resolves at h
  push Not at h
  obtain ⟨column, hmem, hfails⟩ := h
  refine Result.exists_error_of_mapM hmem ?_
  cases hlookup : row.lookup column with
  | error e => exact ⟨e, rfl⟩
  | ok value => exact absurd hlookup (hfails value)

/-- The key of picked values is that of their list. -/
lemma groupKey_picked (hnodup : columns.Nodup) (row : Row) :
    (row.picked columns).groupKey = Value.groupKeys (columns.map row.value) := by
  have hcells : (row.picked columns).cells =
      columns.map fun column => (column, row.value column) := by
    refine cells_ofList ?_
    simpa [Named.names, Function.comp_def] using hnodup
  rw [groupKey, values, hcells, List.map_map]
  rfl

end Row

end TableQuery
