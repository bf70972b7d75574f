import TableQuery.Proofs.Delimited.Sheet
import TableQuery.Proofs.Store.Memory

/-!
# Sheets that change

Between two changes of its file a sheet is written to bytes and read again. What has been read can
be written as soon as its header can (`writable_of_ofBytes`), and so it stays with one more record
and with fewer of them. A deletion sees each record twice: the filter judges its row, where values
are told from the cells, and the cells themselves are kept or dropped as they are written
(`delete_of_judged`).
-/

namespace TableQuery

namespace Sheet

/-! ## What has been read -/

/-- No cell is an empty text. -/
lemma cell_ne_empty (text : String) : cell text ≠ some "" := by
  unfold cell
  split
  · intro h
    cases h
  · rename_i hempty
    intro h
    rw [Option.some.inj h] at hempty
    exact hempty rfl

/-- The records of a sheet that has been read are as wide as the header and hold no empty texts. -/
lemma records_of_ofBytes {delimiter : UInt8} {bytes : List UInt8} {sheet : Sheet}
    (h : ofBytes delimiter bytes = .ok sheet) :
    ∀ record ∈ sheet.records, record.length = sheet.columns.length ∧ some "" ∉ record := by
  unfold ofBytes at h
  split at h
  · obtain rfl := Except.ok.inj h
    intro record hrecord
    cases hrecord
  split at h
  · cases h
  · split at h
    · obtain rfl := Except.ok.inj h
      intro record hrecord
      cases hrecord
    · cases h
  · split at h
    · rename_i hwidth
      obtain rfl := Except.ok.inj h
      intro record hrecord
      obtain ⟨texts, htexts, rfl⟩ := List.mem_map.mp hrecord
      constructor
      · rw [List.length_map]
        exact beq_iff_eq.mp (List.all_eq_true.mp hwidth texts htexts)
      · intro hempty
        obtain ⟨text, -, htext⟩ := List.mem_map.mp hempty
        exact cell_ne_empty text htext
    · cases h

variable {delimiter : UInt8} {bytes : List UInt8} {sheet : Sheet}

/-- A sheet that has been read has regular records; the rest is up to its header. -/
lemma regular_of_ofBytes (h : ofBytes delimiter bytes = .ok sheet) (hnamed : sheet.columns ≠ [])
    (hunmarked : ∀ first ∈ sheet.columns.head?, first.toList.head? ≠ some byteOrderChar) :
    sheet.Regular where
  named := hnamed
  width record hrecord := (records_of_ofBytes h record hrecord).1
  cells record hrecord := (records_of_ofBytes h record hrecord).2
  unmarked := hunmarked

/-- A sheet that has been read can be written if its header can. -/
lemma writable_of_ofBytes (h : ofBytes delimiter bytes = .ok sheet)
    (hvisible : ∃ column ∈ sheet.columns, ∃ c ∈ column.toList, isBlankChar c = false)
    (hunmarked : ∀ first ∈ sheet.columns.head?, first.toList.head? ≠ some byteOrderChar) :
    sheet.Writable where
  width record hrecord := (records_of_ofBytes h record hrecord).1
  cells record hrecord := (records_of_ofBytes h record hrecord).2
  visible := hvisible
  unmarked := hunmarked

/-! ## Other records under the same header -/

/-- Fewer records are as regular. -/
lemma Regular.filter (h : sheet.Regular) (keep : List (Option String) → Bool) :
    Regular ⟨sheet.columns, sheet.records.filter keep⟩ where
  named := h.named
  width record hrecord := h.width record (List.mem_of_mem_filter hrecord)
  cells record hrecord := h.cells record (List.mem_of_mem_filter hrecord)
  unmarked := h.unmarked

namespace Writable

variable (h : sheet.Writable)

include h in
/-- Fewer records can be written as well. -/
lemma filter (keep : List (Option String) → Bool) :
    Writable ⟨sheet.columns, sheet.records.filter keep⟩ where
  width record hrecord := h.width record (List.mem_of_mem_filter hrecord)
  cells record hrecord := h.cells record (List.mem_of_mem_filter hrecord)
  visible := h.visible
  unmarked := h.unmarked

include h in
/-- One more record can be written if it is as wide as the header and has no empty texts. -/
lemma append {record : List (Option String)} (hwidth : record.length = sheet.columns.length)
    (hcells : some "" ∉ record) :
    Writable ⟨sheet.columns, sheet.records ++ [record]⟩ where
  width other hother := by
    rcases List.mem_append.mp hother with hold | hnew
    · exact h.width other hold
    · rw [List.mem_singleton.mp hnew]
      exact hwidth
  cells other hother := by
    rcases List.mem_append.mp hother with hold | hnew
    · exact h.cells other hold
    · rw [List.mem_singleton.mp hnew]
      exact hcells
  visible := h.visible
  unmarked := h.unmarked

end Writable

/-! ## Insertions -/

/-- The record of some given texts: for each column the first text given for it, where an empty
text is no cell. -/
def newRecord (sheet : Sheet) (columns values : List String) : List (Option String) :=
  sheet.columns.map fun column => (MemoryStore.firstText? columns values column).bind cell

/-- An insertion adds the record of the given texts at the end. -/
lemma insert_eq (sheet : Sheet) (columns values : List String) :
    sheet.insert columns values =
      ⟨sheet.columns, sheet.records ++ [sheet.newRecord columns values]⟩ := by
  simp only [insert, newRecord, MemoryStore.lookup_zip]

/-- A sheet stays writable with one new record at its end. -/
lemma Writable.newRecord {sheet : Sheet} (h : sheet.Writable) (columns values : List String) :
    Writable ⟨sheet.columns, sheet.records ++ [sheet.newRecord columns values]⟩ := by
  refine h.append (List.length_map _) ?_
  intro hempty
  obtain ⟨column, -, hcolumn⟩ := List.mem_map.mp hempty
  obtain ⟨text, -, htext⟩ := Option.bind_eq_some_iff.mp hcolumn
  exact cell_ne_empty text htext

/-! ## Deletions -/

/-- Whether a filter accepts the row of a record. -/
def isAccepted (sheet : Sheet) (filter : Filter) (record : List (Option String)) : Bool :=
  filter.isAccepted (sheet.row sheet.kinds record)

/-- Judging the records is judging the rows of the table. -/
lemma mapM_accepts_records (sheet : Sheet) (filter : Filter) :
    (sheet.records.mapM fun record => filter.accepts (sheet.row sheet.kinds record)) =
      sheet.toTable.rows.mapM filter.accepts := by
  rw [toTable, List.mapM_map]
  rfl

/-- A deletion removes the accepted records as they are written when all rows can be judged. -/
lemma delete_of_judged {sheet : Sheet} {filter : Filter}
    (h : ∀ row ∈ sheet.toTable.rows, ∃ accepted, filter.accepts row = .ok accepted) :
    sheet.delete filter = .ok (sheet.records.countP (sheet.isAccepted filter),
      ⟨sheet.columns, sheet.records.filter fun record => !sheet.isAccepted filter record⟩) := by
  have hverdicts : sheet.toTable.rows.map filter.isAccepted =
      sheet.records.map (sheet.isAccepted filter) := List.map_map
  simp only [delete, mapM_accepts_records, Filter.mapM_accepts h, hverdicts, bind, Except.bind,
    pure, Except.pure]
  rw [Filter.filterMap_zip_map, Filter.length_sub_length_filter]

/-- A deletion fails when a row cannot be judged. -/
lemma delete_of_error {sheet : Sheet} {filter : Filter} {e : ExecutionError}
    (h : sheet.toTable.rows.mapM filter.accepts = .error e) : sheet.delete filter = .error e := by
  simp only [delete, mapM_accepts_records, h]
  rfl

end Sheet

end TableQuery
