import TableQuery.Proofs.Delimited.Changes
import TableQuery.Proofs.Query.Verdicts

/-!
# Sheets typed anew

The kind of a column is told from all its cells, so it can change when records go: the fewer cells
are left, the narrower they can be read (`narrows_ofCells`). A reference still stands for the same
cell of a record (`lookup_row_cases`). If a condition says something else of a record than before,
then one of its comparisons does so because it looks at a cell that is read as a narrower kind now
(`exists_rejudges`).
-/

namespace TableQuery

/-! ## Kinds of fewer cells -/

namespace Delimited.Kind

/-- One kind reads fewer texts than another: numbers are fewer than texts, and integers fewer than
numbers. -/
def Narrows (was now : Kind) : Prop :=
  was = .text ∧ now ≠ .text ∨ was = .float64 ∧ now = .int64

/-- No kind is narrower than itself. -/
lemma not_narrows_self (kind : Kind) : ¬ kind.Narrows kind := by
  rintro (⟨htext, hne⟩ | ⟨hfloat, hint⟩)
  · exact hne htext
  · exact Kind.noConfusion (hfloat.symm.trans hint)

/-- What the cells that are present look like. -/
def looks (cells : List (Option String)) : List Look := (cells.filterMap id).map Look.of

variable {cells others : List (Option String)}

/-- The look of a cell that is present is among those of its column. -/
lemma mem_looks {text : String} (h : some text ∈ cells) : Look.of text ∈ looks cells :=
  List.mem_map_of_mem (List.mem_filterMap.mpr ⟨some text, h, rfl⟩)

/-- Fewer cells have fewer looks. -/
lemma looks_subset (h : others ⊆ cells) : looks others ⊆ looks cells :=
  List.map_subset _ (List.filterMap_subset _ h)

/-- A cell that is no number makes its column one of texts. -/
lemma ofCells_of_other (h : .other ∈ looks cells) : ofCells cells = .text := by
  have hcontains : (looks cells).contains .other = true := List.contains_iff_mem.mpr h
  unfold looks at hcontains
  simp only [ofCells, hcontains, Bool.true_or, ↓reduceIte]

/-- In a column of numbers one that is no integer decides. -/
lemma ofCells_of_numbers {look : Look} (hlook : look ∈ looks cells) (h : .other ∉ looks cells) :
    ofCells cells = if .float ∈ looks cells then .float64 else .int64 := by
  have hcontains : (looks cells).contains .other = false := by
    rw [Bool.eq_false_iff, Ne, List.contains_iff_mem]
    exact h
  have hpresent : (looks cells).isEmpty = false := by
    rw [Bool.eq_false_iff, Ne, List.isEmpty_iff]
    exact List.ne_nil_of_mem hlook
  unfold looks at hcontains hpresent ⊢
  simp only [ofCells, hcontains, hpresent, Bool.or_false, Bool.false_eq_true, ↓reduceIte,
    List.contains_iff_mem]

/-- As long as one of them is present, fewer cells are of the same kind or of a narrower one. -/
lemma narrows_ofCells (hsub : others ⊆ cells) {text : String} (hpresent : some text ∈ others)
    (hne : ofCells cells ≠ ofCells others) : (ofCells cells).Narrows (ofCells others) := by
  have hlooks := looks_subset hsub
  have hlook := mem_looks hpresent
  by_cases hother : .other ∈ looks cells
  · have htext := ofCells_of_other hother
    exact .inl ⟨htext, fun h => hne (htext.trans h.symm)⟩
  have hbefore := ofCells_of_numbers (hlooks hlook) hother
  have hafter := ofCells_of_numbers hlook fun h => hother (hlooks h)
  by_cases hfloat : .float ∈ looks others
  · rw [if_pos hfloat] at hafter
    rw [if_pos (hlooks hfloat)] at hbefore
    exact absurd (hbefore.trans hafter.symm) hne
  · rw [if_neg hfloat] at hafter
    by_cases hwas : .float ∈ looks cells
    · rw [if_pos hwas] at hbefore
      exact .inr ⟨hbefore, hafter⟩
    · rw [if_neg hwas] at hbefore
      exact absurd (hbefore.trans hafter.symm) hne

end Delimited.Kind

namespace Sheet

open Delimited (Kind)

/-! ## Columns of cells -/

/-- The cells of a column are those that the records hold at its place. -/
lemma getElem?_cellsByColumn (columns : List String) (records : List (List (Option String)))
    {i : Nat} (hi : i < columns.length) :
    (cellsByColumn columns records)[i]? =
      some (records.map fun record => (record[i]?).getD none) := by
  induction columns generalizing records i with
  | nil => exact absurd hi (Nat.not_lt_zero i)
  | cons column columns ih =>
    cases i with
    | zero =>
      simp only [cellsByColumn, List.getElem?_cons_zero, List.head?_eq_getElem?]
    | succ i =>
      rw [cellsByColumn, List.getElem?_cons_succ, ih _ (Nat.lt_of_succ_lt_succ hi), List.map_map]
      simp only [Function.comp_def, List.getElem?_tail]

/-- A sheet has one kind for every column. -/
lemma length_kinds (sheet : Sheet) : sheet.kinds.length = sheet.columns.length := by
  have hlength (columns : List String) (records : List (List (Option String))) :
      (cellsByColumn columns records).length = columns.length := by
    induction columns generalizing records with
    | nil => rfl
    | cons column columns ih => rw [cellsByColumn, List.length_cons, ih, List.length_cons]
  rw [kinds, List.length_map, hlength]

/-- A column of a sheet with fewer records is of a narrower kind, if it is of another kind at all
and a cell of it is present. -/
lemma narrows_kinds {before after : Sheet} (hcolumns : after.columns = before.columns)
    (hsub : after.records ⊆ before.records) {i : Nat} {was now : Kind}
    (hwas : before.kinds[i]? = some was) (hnow : after.kinds[i]? = some now)
    {record : List (Option String)} (hrecord : record ∈ after.records) {text : String}
    (htext : record[i]? = some (some text)) (hne : was ≠ now) : was.Narrows now := by
  have hi : i < before.columns.length := by
    rw [← length_kinds]
    exact (List.getElem?_eq_some_iff.mp hwas).1
  rw [kinds, List.getElem?_map, getElem?_cellsByColumn _ _ hi] at hwas
  rw [kinds, List.getElem?_map, getElem?_cellsByColumn _ _ (hcolumns ▸ hi)] at hnow
  obtain rfl := Option.some.inj hwas
  obtain rfl := Option.some.inj hnow
  -- without a cell that is present the column would count as one of texts
  have hpresent : some text ∈ after.records.map fun record => (record[i]?).getD none := by
    refine List.mem_map.mpr ⟨record, hrecord, ?_⟩
    rw [htext]
    rfl
  exact Kind.narrows_ofCells (List.map_subset _ hsub) hpresent hne

/-! ## Rows of records -/

/-- The values of a record, column by column. -/
def values (sheet : Sheet) (record : List (Option String)) : List Value :=
  (sheet.kinds.zip record).map fun (kind, cell) => kind.value cell

/-- A record that is as wide as the header has one value for every column. -/
lemma length_values {sheet : Sheet} {record : List (Option String)}
    (hwidth : record.length = sheet.columns.length) :
    (sheet.values record).length = sheet.columns.length := by
  rw [values, List.length_map, List.length_zip, length_kinds, hwidth, Nat.min_self]

/-- The value at a place is read off the cell at this place, in the kind of its column. -/
lemma getElem?_values {sheet : Sheet} {record : List (Option String)} {i : Nat} {value : Value}
    (h : (sheet.values record)[i]? = some value) :
    ∃ kind cell, sheet.kinds[i]? = some kind ∧ record[i]? = some cell ∧
      kind.value cell = value := by
  rw [values, List.getElem?_map, Option.map_eq_some_iff] at h
  obtain ⟨⟨kind, cell⟩, hzip, hvalue⟩ := h
  obtain ⟨hkind, hcell⟩ := List.getElem?_zip_eq_some.mp hzip
  exact ⟨kind, cell, hkind, hcell, hvalue⟩

/-- Rows of records that are as wide as their header have the same columns under the same header. -/
lemma columns_row {sheet other : Sheet} (hcolumns : other.columns = sheet.columns)
    {record next : List (Option String)} (hrecord : record.length = sheet.columns.length)
    (hnext : next.length = other.columns.length) :
    (sheet.row sheet.kinds record).columns = (other.row other.kinds next).columns := by
  have hnames {sheet : Sheet} {record : List (Option String)}
      (hwidth : record.length = sheet.columns.length) :
      Named.names (sheet.columns.zip (sheet.values record)) = sheet.columns :=
    List.map_fst_zip (length_values hwidth).ge
  exact Row.columns_foldl_insert rfl ((hnames hrecord).trans (hcolumns ▸ (hnames hnext).symm))

/-- A name is found at one place of a row, that of the last column of this name, whatever values the
row is built of. -/
lemma exists_get?_ofList_zip {columns : List String} {column : String} (hmem : column ∈ columns) :
    ∃ i, i < columns.length ∧ ∀ values : List Value, values.length = columns.length →
      (Row.ofList (columns.zip values)).get? column = values[i]? := by
  simp only [Row.get?_ofList]
  induction columns with
  | nil => cases hmem
  | cons first columns ih =>
    have hcons {value : Value} {values : List Value} :
        ((first :: columns).zip (value :: values)).reverse.lookup column =
          ((columns.zip values).reverse.lookup column).or
            (if column = first then some value else none) := by
      rw [List.zip_cons_cons, List.reverse_cons, List.lookup_append, Named.lookup_cons,
        List.lookup_nil]
    by_cases hlater : column ∈ columns
    · obtain ⟨i, hi, hfound⟩ := ih hlater
      refine ⟨i + 1, Nat.succ_lt_succ hi, fun values hlength => ?_⟩
      obtain ⟨value, values, rfl⟩ := List.exists_cons_of_length_eq_add_one hlength
      have hlength : values.length = columns.length := Nat.succ.inj hlength
      rw [hcons, hfound values hlength, List.getElem?_cons_succ,
        List.getElem?_eq_getElem (hlength ▸ hi), Option.some_or]
    · refine ⟨0, Nat.succ_pos _, fun values hlength => ?_⟩
      obtain ⟨value, values, rfl⟩ := List.exists_cons_of_length_eq_add_one hlength
      have hnone : (columns.zip values).reverse.lookup column = none := by
        refine List.lookup_eq_none_iff.mpr fun cell hcell => ?_
        rw [bne_iff_ne]
        rintro rfl
        exact hlater (List.of_mem_zip (List.mem_reverse.mp hcell)).1
      have hfirst : column = first := (List.mem_cons.mp hmem).resolve_right hlater
      rw [hcons, hnone, if_pos hfirst]
      rfl

variable {before after : Sheet} (hcolumns : after.columns = before.columns)
  {record : List (Option String)} (hwidth : record.length = before.columns.length)

include hcolumns hwidth in
/-- Under one header a reference to a record fails alike, or it stands for one cell, which is read
in the kind that its column has in either sheet. -/
lemma lookup_row_cases (field : String) :
    (∃ e, (before.row before.kinds record).lookup field = .error e ∧
      (after.row after.kinds record).lookup field = .error e) ∨
    ∃ (i : Nat) (was now : Kind) (cell : Option String),
      (before.kinds[i]? = some was ∧ after.kinds[i]? = some now) ∧
      record[i]? = some cell ∧
      (before.row before.kinds record).lookup field = .ok (was.value cell) ∧
      (after.row after.kinds record).lookup field = .ok (now.value cell) := by
  have hwidth' : record.length = after.columns.length := hwidth.trans (hcolumns ▸ rfl)
  rcases Row.lookup_of_columns (columns_row hcolumns hwidth hwidth') field with
    ⟨e, hbefore, hafter⟩ | ⟨column, v, w, ⟨hv, hw⟩, hlookup, hlookup'⟩
  · exact .inl ⟨e, hbefore, hafter⟩
  have hmem : column ∈ before.columns := by
    have hfound := Row.isSome_get?_iff.mp (Option.isSome_of_eq_some hv)
    obtain ⟨cell, hcell, rfl⟩ := List.mem_map.mp (Row.mem_columns_ofList.mp hfound)
    exact (List.of_mem_zip hcell).1
  obtain ⟨i, -, hfound⟩ := exists_get?_ofList_zip hmem
  have hv' : (before.values record)[i]? = some v :=
    (hfound _ (length_values hwidth)).symm.trans hv
  have hw' : (after.values record)[i]? = some w := by
    rw [← hfound _ ((length_values hwidth').trans (hcolumns ▸ rfl)), ← hcolumns]
    exact hw
  obtain ⟨was, cell, hwas, hcell, rfl⟩ := getElem?_values hv'
  obtain ⟨now, cell', hnow, hcell', rfl⟩ := getElem?_values hw'
  obtain rfl : cell = cell' := Option.some.inj (hcell.symm.trans hcell')
  exact .inr ⟨i, was, now, cell, ⟨hwas, hnow⟩, hcell, hlookup, hlookup'⟩

/-! ## Records judged anew -/

/-- A comparison says something else of a record in a second sheet than in a first one, and does so
because the cell that it looks at stands in a column that is of a narrower kind there. -/
def Rejudges (before after : Sheet) (ignoreCase : Bool) (record : List (Option String))
    (comparison : Comparison) : Prop :=
  ∃ (i : Nat) (was now : Kind) (text : String),
    before.kinds[i]? = some was ∧ after.kinds[i]? = some now ∧ was.Narrows now ∧
    record[i]? = some (some text) ∧
    (before.row before.kinds record).lookup comparison.field = .ok (was.value (some text)) ∧
    (after.row after.kinds record).lookup comparison.field = .ok (now.value (some text)) ∧
    (was.value (some text)).satisfies comparison.operator comparison.value ignoreCase ≠
      (now.value (some text)).satisfies comparison.operator comparison.value ignoreCase

include hcolumns hwidth in
/-- A comparison that says something else of a record is one that looks at a cell of a narrower
kind. -/
lemma rejudges_of_holds_ne (hsub : after.records ⊆ before.records)
    (hrecord : record ∈ after.records) {comparison : Comparison} {ignoreCase : Bool}
    (hne : comparison.holds ignoreCase (before.row before.kinds record) ≠
      comparison.holds ignoreCase (after.row after.kinds record)) :
    before.Rejudges after ignoreCase record comparison := by
  unfold Comparison.holds at hne
  rcases lookup_row_cases hcolumns hwidth comparison.field with
    ⟨e, hbefore, hafter⟩ | ⟨i, was, now, cell, ⟨hwas, hnow⟩, hcell, hbefore, hafter⟩
  · rw [hbefore, hafter] at hne
    exact absurd rfl hne
  rw [hbefore, hafter] at hne
  have hsatisfies : (was.value cell).satisfies comparison.operator comparison.value ignoreCase ≠
      (now.value cell).satisfies comparison.operator comparison.value ignoreCase :=
    fun h => hne (congrArg Except.ok h)
  cases cell with
  | none => exact absurd rfl hsatisfies
  | some text =>
    have hkinds : was ≠ now := by
      rintro rfl
      exact hsatisfies rfl
    exact ⟨i, was, now, text, hwas, hnow,
      narrows_kinds hcolumns hsub hwas hnow hrecord hcell hkinds, hcell, hbefore, hafter,
      hsatisfies⟩

include hcolumns hwidth in
/-- A condition that says something else of a record has a comparison that does. -/
lemma exists_rejudges (hsub : after.records ⊆ before.records) (hrecord : record ∈ after.records)
    {condition : Condition} {options : FilterOptions}
    (hne : condition.holds options (before.row before.kinds record) ≠
      condition.holds options (after.row after.kinds record)) :
    ∃ comparison ∈ condition.comparisons,
      before.Rejudges after options.ignoreCase record comparison := by
  by_contra hnone
  refine hne (Condition.holds_congr fun comparison hmem => ?_)
  by_contra hholds
  exact hnone ⟨comparison, hmem, rejudges_of_holds_ne hcolumns hwidth hsub hrecord hholds⟩

/-! ## Records spared -/

/-- The records that a filter does not accept, under the header that they had. -/
def spared (sheet : Sheet) (filter : Filter) : Sheet :=
  ⟨sheet.columns, sheet.records.filter fun record => !sheet.isAccepted filter record⟩

variable {sheet : Sheet} {filter : Filter} {condition : Condition}

/-- Without an accepted record all are spared. -/
lemma spared_eq_self (hnone : sheet.records.countP (sheet.isAccepted filter) = 0) :
    sheet.spared filter = sheet := by
  have hall : sheet.records.filter (fun record => !sheet.isAccepted filter record) =
      sheet.records := by
    refine List.filter_eq_self.mpr fun record hrecord => ?_
    rw [Bool.eq_false_iff.mpr (List.countP_eq_zero.mp hnone record hrecord)]
    rfl
  rw [spared, hall]

/-- Records that were spared can be judged again when some record was accepted, since all fields of
the condition resolve then. -/
lemma exists_accepts_of_spared (hcondition : filter.condition = some condition)
    (hwidth : ∀ record ∈ sheet.records, record.length = sheet.columns.length)
    {first : List (Option String)} (hfirst : first ∈ sheet.records)
    (haccepted : filter.accepts (sheet.row sheet.kinds first) = .ok true) :
    ∀ row ∈ (sheet.spared filter).toTable.rows,
      ∃ accepted, filter.accepts row = .ok accepted := by
  intro row hrow
  obtain ⟨record, hrecord, rfl⟩ := List.mem_map.mp hrow
  have hcolumns : (sheet.spared filter).columns = sheet.columns := rfl
  have hrecord' := hwidth record (List.mem_of_mem_filter hrecord)
  simp only [Filter.accepts, hcondition] at haccepted ⊢
  have hresolves := Condition.resolves_of_holds haccepted
  exact Condition.exists_holds_of_resolves
    (hresolves.of_columns (columns_row hcolumns (hwidth first hfirst) hrecord'))

/-- A record that was spared and is accepted now is one that a comparison judges anew. -/
lemma exists_rejudges_of_accepted (hcondition : filter.condition = some condition)
    (hwidth : ∀ record ∈ sheet.records, record.length = sheet.columns.length)
    (hjudged : ∀ row ∈ sheet.toTable.rows, ∃ accepted, filter.accepts row = .ok accepted)
    (hagain : ∀ row ∈ (sheet.spared filter).toTable.rows,
      ∃ accepted, filter.accepts row = .ok accepted)
    (hrecord : record ∈ (sheet.spared filter).records)
    (haccepted : (sheet.spared filter).isAccepted filter record = true) :
    ∃ comparison ∈ condition.comparisons,
      sheet.Rejudges (sheet.spared filter) filter.options.ignoreCase record comparison := by
  obtain ⟨hmem, hspared⟩ := List.mem_filter.mp hrecord
  have hbefore := Filter.accepts_eq_ok (hjudged _ (List.mem_map_of_mem hmem))
  have hafter := Filter.accepts_eq_ok (hagain _ (List.mem_map_of_mem hrecord))
  rw [← isAccepted, (Bool.not_eq_true' _).mp hspared] at hbefore
  rw [← isAccepted, haccepted] at hafter
  simp only [Filter.accepts, hcondition] at hbefore hafter
  have hcolumns : (sheet.spared filter).columns = sheet.columns := rfl
  have hsub : (sheet.spared filter).records ⊆ sheet.records := List.filter_subset_self _
  refine exists_rejudges hcolumns (hwidth record hmem) hsub hrecord fun hsame => ?_
  have hverdicts := (hbefore.symm.trans hsame).trans hafter
  cases hverdicts

end Sheet

end TableQuery
