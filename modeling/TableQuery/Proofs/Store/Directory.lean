import TableQuery.Proofs.Delimited.Changes
import TableQuery.Store.Directory

/-!
# Tables in files, read and written

A change of a table writes at most the file of the table (`Frame`). `Holds` says that a table can be
read and, once written, read again; it is what an insertion and a deletion start from and what
rewriting the file keeps (`Holds.rewrite`). What the two do to the file is in `insert_cases` and
`delete_cases`.
-/

namespace TableQuery

namespace DirectoryStore

/-! ## Files -/

/-- Two stores differ in one file at most. -/
structure Frame (file : String) (before after : DirectoryStore) : Prop where
  delimiter : after.delimiter = before.delimiter
  others : ∀ other, other ≠ file → after.file? other = before.file? other

/-- A store does not differ from itself. -/
lemma Frame.refl (file : String) (store : DirectoryStore) : Frame file store store where
  delimiter := rfl
  others _ _ := rfl

/-- Stores that differ in a file one after the other differ in this file at most. -/
lemma Frame.trans {file : String} {before between after : DirectoryStore}
    (hhead : Frame file before between) (htail : Frame file between after) :
    Frame file before after where
  delimiter := htail.delimiter.trans hhead.delimiter
  others other hother := (htail.others other hother).trans (hhead.others other hother)

/-- A file that is written holds what was written. -/
lemma file?_setFile_self (store : DirectoryStore) (name : String) (bytes : List UInt8) :
    (store.setFile name bytes).file? name = some bytes := by
  rw [file?, setFile, Named.lookup_set, if_pos rfl]

/-- Writing a file touches no other one. -/
lemma frame_setFile (store : DirectoryStore) (name : String) (bytes : List UInt8) :
    Frame name store (store.setFile name bytes) where
  delimiter := rfl
  others other hother := by
    rw [file?, setFile, Named.lookup_set, if_neg hother]
    rfl

/-! ## Sheets in files -/

variable {store : DirectoryStore} {table file : String} {sheet : Sheet}

/-- A table has a sheet when its name is that of a file whose bytes are read as the sheet. -/
lemma sheet_eq_ok_iff :
    store.sheet table = .ok (file, sheet) ↔ fileName table = .ok file ∧
      ∃ bytes, store.file? file = some bytes ∧
        Sheet.ofBytes store.delimiter bytes = .ok sheet := by
  unfold DirectoryStore.sheet
  cases hname : fileName table with
  | error e => simp [bind, Except.bind]
  | ok name =>
    constructor
    · intro h
      cases hbytes : store.file? name with
      | none =>
        simp only [bind, Except.bind, hbytes] at h
        cases h
      | some bytes =>
        cases hread : Sheet.ofBytes store.delimiter bytes with
        | error e =>
          simp only [bind, Except.bind, hbytes, hread] at h
          cases h
        | ok found =>
          simp only [bind, Except.bind, hbytes, hread] at h
          cases h
          exact ⟨rfl, bytes, hbytes, hread⟩
    · rintro ⟨hfile, bytes, hbytes, hread⟩
      obtain rfl := Except.ok.inj hfile
      simp only [bind, Except.bind, hbytes, hread]
      rfl

/-- A table is fetched by reading its sheet. -/
lemma fetch_of_sheet (h : store.sheet table = .ok (file, sheet)) :
    store.fetch table = .ok sheet.toTable := by
  rw [fetch, h]
  rfl

/-- A table whose file can be read, and written so that it is read again: the delimiter can stand
between fields, and the sheet in the file is writable. -/
structure Holds (store : DirectoryStore) (table file : String) (sheet : Sheet) : Prop where
  delimiter : Delimited.IsDelimiter store.delimiter
  reads : store.sheet table = .ok (file, sheet)
  writable : sheet.Writable

/-- Of a table that can be read it is enough to look at the header. -/
lemma Holds.of_header (hdelimiter : Delimited.IsDelimiter store.delimiter)
    (hsheet : store.sheet table = .ok (file, sheet))
    (hvisible : ∃ column ∈ sheet.columns, ∃ c ∈ column.toList, Sheet.isBlankChar c = false)
    (hunmarked : ∀ first ∈ sheet.columns.head?,
      first.toList.head? ≠ some Sheet.byteOrderChar) :
    store.Holds table file sheet := by
  obtain ⟨-, bytes, -, hread⟩ := sheet_eq_ok_iff.mp hsheet
  exact ⟨hdelimiter, hsheet, Sheet.writable_of_ofBytes hread hvisible hunmarked⟩

/-- A table stays one that can be read and written when its file alone changes to a writable
sheet. -/
lemma Holds.of_frame (h : store.Holds table file sheet) {after : DirectoryStore} {next : Sheet}
    (hframe : Frame file store after) (hreads : after.sheet table = .ok (file, next))
    (hnext : next.Writable) : after.Holds table file next where
  delimiter := by
    rw [hframe.delimiter]
    exact h.delimiter
  reads := hreads
  writable := hnext

/-- A file that is written with a writable sheet is read as this sheet. -/
lemma Holds.rewrite (h : store.Holds table file sheet) {next : Sheet} (hnext : next.Writable) :
    (store.setFile file (next.toBytes store.delimiter)).Holds table file next := by
  have hread := hnext.regular.ofBytes_of_visible h.delimiter.separates
    (hnext.toBytes_visible store.delimiter)
  refine h.of_frame (frame_setFile store file _) (sheet_eq_ok_iff.mpr ?_) hnext
  exact ⟨(sheet_eq_ok_iff.mp h.reads).1, _, file?_setFile_self store file _, hread⟩

/-! ## Changes -/

/-- An insertion into a table that can be read fails for lack of one of the columns and leaves the
store as it was, or all of them are there and it writes the file with the new record at the end. -/
lemma insert_cases (h : store.sheet table = .ok (file, sheet)) (columns values : List String) :
    (∃ e, store.insert table columns values = (.error e, store) ∧
      ∃ column ∈ columns, column ∉ sheet.columns) ∨
    (∀ column ∈ columns, column ∈ sheet.columns) ∧
      store.insert table columns values = (.ok 1, store.setFile file
        (Sheet.toBytes store.delimiter
          ⟨sheet.columns, sheet.records ++ [sheet.newRecord columns values]⟩)) := by
  unfold insert
  rw [h]
  rcases MemoryStore.checkColumns_cases table sheet.columns columns with
    ⟨hc, hknown⟩ | ⟨e, hc, hmissing⟩
  · exact .inr ⟨hknown, by simp only [hc, Sheet.insert_eq]⟩
  · exact .inl ⟨e, by simp only [hc], hmissing⟩

/-- A deletion from a table that can be read fails because of a row that cannot be judged, or finds
no record, and leaves the store as it was, or it writes the file without the accepted records. -/
lemma delete_cases (h : store.sheet table = .ok (file, sheet)) (filter : Filter) :
    (∃ e, store.delete table filter = (.error e, store) ∧
      ∃ row ∈ sheet.toTable.rows, ∃ cause, filter.accepts row = .error cause) ∨
    (∀ row ∈ sheet.toTable.rows, ∃ accepted, filter.accepts row = .ok accepted) ∧
      (sheet.records.countP (sheet.isAccepted filter) = 0 ∧
        store.delete table filter = (.ok 0, store) ∨
      sheet.records.countP (sheet.isAccepted filter) ≠ 0 ∧
        store.delete table filter =
          (.ok (sheet.records.countP (sheet.isAccepted filter)), store.setFile file
            (Sheet.toBytes store.delimiter ⟨sheet.columns,
              sheet.records.filter fun record => !sheet.isAccepted filter record⟩))) := by
  unfold delete
  rw [h]
  rcases filter.mapM_accepts_cases sheet.toTable.rows with
    ⟨-, hjudged⟩ | ⟨e, hfailed, row, hrow, herror⟩
  · refine .inr ⟨hjudged, ?_⟩
    by_cases hnone : sheet.records.countP (sheet.isAccepted filter) = 0
    · exact .inl ⟨hnone, by simp only [Sheet.delete_of_judged hjudged, if_pos hnone]⟩
    · exact .inr ⟨hnone, by simp only [Sheet.delete_of_judged hjudged, if_neg hnone]⟩
  · exact .inl ⟨.execution e, by simp only [Sheet.delete_of_error hfailed], row, hrow, e, herror⟩

end DirectoryStore

end TableQuery
