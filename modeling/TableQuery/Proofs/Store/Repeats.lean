import TableQuery.Proofs.Delimited.Retyping
import TableQuery.Proofs.Store.Directory
import TableQuery.Proofs.Store.Selections
import TableQuery.Proofs.Store.Session

/-!
# Deletions repeated

A deletion writes what it leaves of a file as it was written, and the next statement reads the file
afresh and tells the kinds of its columns from the cells that are left. So the condition may accept
a record that the deletion has spared. `deletion_repeated` says when: the rows that the condition
accepts now, which the selection gives and a second deletion takes, are those of records in which
one of its comparisons looks at a cell whose column is read as a narrower kind than before. Without
a column that changes its kind there are none.
-/

namespace TableQuery

namespace DirectoryStore

variable (settings : Settings) {store : DirectoryStore} {table file : String} {sheet : Sheet}
  {condition : Condition}

/-- The records of a file are as wide as its header. -/
lemma length_of_mem_records (hsheet : store.sheet table = .ok (file, sheet)) :
    ∀ record ∈ sheet.records, record.length = sheet.columns.length := by
  obtain ⟨-, bytes, -, hread⟩ := sheet_eq_ok_iff.mp hsheet
  exact fun record hrecord => (Sheet.records_of_ofBytes hread record hrecord).1

/-- The rows that a filter accepts are those of the accepted records. -/
lemma filter_rows (sheet : Sheet) (filter : Filter) :
    sheet.toTable.rows.filter filter.isAccepted =
      (sheet.records.filter (sheet.isAccepted filter)).map (sheet.row sheet.kinds) := by
  rw [Sheet.toTable, List.filter_map]
  rfl

/-- When all rows of a sheet can be judged, a selection gives those that its condition accepts, and
a deletion takes as many. -/
lemma run_of_judged (hsheet : store.sheet table = .ok (file, sheet)) (htable : table ≠ "")
    (hjudged : ∀ row ∈ sheet.toTable.rows, ∃ accepted,
      Filter.accepts ⟨some condition, settings.filterOptions⟩ row = .ok accepted) :
    let filter : Filter := ⟨some condition, settings.filterOptions⟩
    let found := (sheet.records.filter (sheet.isAccepted filter)).map (sheet.row sheet.kinds)
    (Engine.mk settings store).run (.select (.selection table (some condition))) =
      (.ok (.rows found), store) ∧
    ((Engine.mk settings store).run (.delete ⟨table, some condition⟩)).1 =
      .ok (.deleted found.length) := by
  intro filter found
  have hfetch : Store.fetch store table = .ok sheet.toTable := fetch_of_sheet hsheet
  have hkeep : filter.keep sheet.toTable.rows = .ok found := by
    rw [Filter.keep_of_judged hjudged, filter_rows]
  have hcount : found.length = sheet.records.countP (sheet.isAccepted filter) := by
    rw [List.length_map, List.countP_eq_length_filter]
  constructor
  · rw [Engine.run_selection settings _ hfetch, hkeep]
    rfl
  · rw [Engine.run_deletion settings _ htable, hcount]
    rcases delete_cases hsheet filter with
      ⟨-, -, row, hrow, e, he⟩ | ⟨-, ⟨hnone, hdelete⟩ | ⟨-, hdelete⟩⟩
    · obtain ⟨accepted, haccepted⟩ := hjudged row hrow
      rw [haccepted] at he
      cases he
    · rw [hnone]
      exact congrArg (fun answer => answer.1.map Outcome.deleted) hdelete
    · exact congrArg (fun answer => answer.1.map Outcome.deleted) hdelete

/-- A file that is written with fewer records under the header that it was read with is read as
these, unless nothing but white space is left of it. -/
lemma sheet_setFile_filter (hdelimiter : Delimited.Separates store.delimiter)
    (hsheet : store.sheet table = .ok (file, sheet))
    (hunmarked : ∀ first ∈ sheet.columns.head?, first.toList.head? ≠ some Sheet.byteOrderChar)
    (keep : List (Option String) → Bool) :
    let kept : Sheet := ⟨sheet.columns, sheet.records.filter keep⟩
    ∃ rest, (store.setFile file (kept.toBytes store.delimiter)).sheet table = .ok (file, rest) ∧
      (rest = kept ∨
        (kept.toBytes store.delimiter).all Sheet.isBlankByte = true ∧ rest = ⟨[], []⟩) := by
  intro kept
  obtain ⟨hfile, bytes, -, hread⟩ := sheet_eq_ok_iff.mp hsheet
  have hwritten := file?_setFile_self store file (kept.toBytes store.delimiter)
  cases hblank : (kept.toBytes store.delimiter).all Sheet.isBlankByte with
  | true =>
    exact ⟨⟨[], []⟩, sheet_eq_ok_iff.mpr ⟨hfile, _, hwritten, if_pos hblank⟩, .inr ⟨rfl, rfl⟩⟩
  | false =>
    have hnamed : sheet.columns ≠ [] := by
      intro hnil
      have hbytes : kept.toBytes store.delimiter = [] := if_pos (List.isEmpty_iff.mpr hnil)
      rw [hbytes] at hblank
      cases hblank
    have hregular := (Sheet.regular_of_ofBytes hread hnamed hunmarked).filter keep
    have hreads := hregular.ofBytes_of_visible hdelimiter hblank
    exact ⟨kept, sheet_eq_ok_iff.mpr ⟨hfile, _, hwritten, hreads⟩, .inl rfl⟩

/-- After a deletion the file is read as the records that were spared, unless nothing but white
space is left of it, and the condition can judge all of them again. -/
lemma sheet_after_deletion (hdelimiter : Delimited.Separates store.delimiter)
    (hsheet : store.sheet table = .ok (file, sheet))
    (hunmarked : ∀ first ∈ sheet.columns.head?, first.toList.head? ≠ some Sheet.byteOrderChar)
    {count : Nat} {after : DirectoryStore}
    (hdelete : store.delete table ⟨some condition, settings.filterOptions⟩ = (.ok count, after)) :
    let filter : Filter := ⟨some condition, settings.filterOptions⟩
    let kept := sheet.spared filter
    (∀ row ∈ sheet.toTable.rows, ∃ accepted, filter.accepts row = .ok accepted) ∧
    ∃ rest, after.sheet table = .ok (file, rest) ∧
      (rest = kept ∨
        (kept.toBytes store.delimiter).all Sheet.isBlankByte = true ∧ rest = ⟨[], []⟩) ∧
      ∀ row ∈ rest.toTable.rows, ∃ accepted, filter.accepts row = .ok accepted := by
  intro filter kept
  rcases delete_cases hsheet filter with
    ⟨e, he, -⟩ | ⟨hjudged, ⟨hnone, hdeleted⟩ | ⟨hsome, hdeleted⟩⟩
  · rw [he] at hdelete
    cases hdelete
  · -- nothing is written, so that the same records are read again
    obtain rfl : store = after := congrArg Prod.snd (hdeleted.symm.trans hdelete)
    exact ⟨hjudged, sheet, hsheet, .inl (Sheet.spared_eq_self hnone).symm, hjudged⟩
  · obtain rfl := congrArg Prod.snd (hdeleted.symm.trans hdelete)
    obtain ⟨rest, hreads, hrest⟩ := sheet_setFile_filter hdelimiter hsheet hunmarked
      fun record => !sheet.isAccepted filter record
    refine ⟨hjudged, rest, hreads, hrest, ?_⟩
    rcases hrest with rfl | ⟨-, rfl⟩
    · obtain ⟨first, hfirst, haccepted⟩ := List.countP_pos_iff.mp (Nat.pos_of_ne_zero hsome)
      have hverdict := Filter.accepts_eq_ok (hjudged _ (List.mem_map_of_mem hfirst))
      rw [← Sheet.isAccepted, haccepted] at hverdict
      exact Sheet.exists_accepts_of_spared rfl (length_of_mem_records hsheet) hfirst hverdict
    · intro row hrow
      cases hrow

/-- After a deletion from a file the selection under the same condition succeeds, and a second
deletion takes as many records as it finds. They are records that the first deletion has spared and
of which a comparison of the condition says something else now, because the column that it looks at
is read as a narrower kind: as numbers and no more as texts, or as integers and no more as numbers
with a fraction. If no column has changed its kind, nothing is found.

The file is read afresh as its old header and the records spared, or as no table at all if only
white space is left of it. -/
theorem deletion_repeated (settings : Settings) {store after : DirectoryStore}
    {table file : String} {sheet : Sheet} {condition : Condition} {count : Nat}
    (hdelimiter : Delimited.Separates store.delimiter)
    (hsheet : store.sheet table = .ok (file, sheet))
    (hunmarked : ∀ first ∈ sheet.columns.head?, first.toList.head? ≠ some Sheet.byteOrderChar)
    (hdelete : (Engine.mk settings store).run (.delete ⟨table, some condition⟩) =
      (.ok (.deleted count), after)) :
    let filter : Filter := ⟨some condition, settings.filterOptions⟩
    let kept := sheet.spared filter
    ∃ rest : Sheet, after.sheet table = .ok (file, rest) ∧
      (rest = kept ∨
        (kept.toBytes store.delimiter).all Sheet.isBlankByte = true ∧ rest = ⟨[], []⟩) ∧
      let found := (rest.records.filter (rest.isAccepted filter)).map (rest.row rest.kinds)
      (Engine.mk settings after).run (.select (.selection table (some condition))) =
        (.ok (.rows found), after) ∧
      ((Engine.mk settings after).run (.delete ⟨table, some condition⟩)).1 =
        .ok (.deleted found.length) ∧
      (∀ record ∈ rest.records, rest.isAccepted filter record = true →
        ∃ comparison ∈ condition.comparisons,
          sheet.Rejudges rest settings.ignoreCase record comparison) ∧
      (rest.kinds = sheet.kinds → found = []) := by
  intro filter kept
  obtain ⟨htable, hdelete⟩ := Engine.delete_of_run_deletion settings _ hdelete
  obtain ⟨hjudged, rest, hreads, hrest, hagain⟩ :=
    sheet_after_deletion settings hdelimiter hsheet hunmarked hdelete
  obtain ⟨hselect, hrepeat⟩ := run_of_judged settings hreads htable hagain
  have hrejudged : ∀ record ∈ rest.records, rest.isAccepted filter record = true →
      ∃ comparison ∈ condition.comparisons,
        sheet.Rejudges rest settings.ignoreCase record comparison := by
    intro record hrecord haccepted
    rcases hrest with rfl | ⟨-, rfl⟩
    · exact Sheet.exists_rejudges_of_accepted rfl (length_of_mem_records hsheet) hjudged hagain
        hrecord haccepted
    · cases hrecord
  refine ⟨rest, hreads, hrest, hselect, hrepeat, hrejudged, fun hkinds => ?_⟩
  -- a row that is accepted now has a cell of a narrower kind, and no kind has changed
  have hnone : rest.records.filter (rest.isAccepted filter) = [] := by
    refine List.filter_eq_nil_iff.mpr fun record hrecord haccepted => ?_
    obtain ⟨comparison, -, i, was, now, text, hwas, hnow, hnarrows, -⟩ :=
      hrejudged record hrecord haccepted
    rw [hkinds, hwas] at hnow
    exact Delimited.Kind.not_narrows_self was (Option.some.inj hnow ▸ hnarrows)
  rw [hnone]
  rfl

/-- A letter and a number make a column of texts, of which a deletion takes the letter by its
length. The number is alone then and read as a number, whose text is as short as the letter. -/
theorem deletion_repeated_of_sizes :
    let store := (empty 0x2c true).setFile "t.csv" (Sheet.bytesOf "c\nx\n1.0\n")
    let sheet : Sheet := ⟨["c"], [[some "x"], [some "1.0"]]⟩
    let rest : Sheet := ⟨["c"], [[some "1.0"]]⟩
    let short : Comparison := ⟨"c", .like, .text "_"⟩
    let deletion := Statement.delete ⟨"t", some (.compare short)⟩
    Delimited.Separates store.delimiter ∧ store.sheet "t" = .ok ("t.csv", sheet) ∧
    (∀ first ∈ sheet.columns.head?, first.toList.head? ≠ some Sheet.byteOrderChar) ∧
    ∃ after, (Engine.mk {} store).run deletion = (.ok (.deleted 1), after) ∧
      after.sheet "t" = .ok ("t.csv", rest) ∧
      (Engine.mk {} after).run (.select (.selection "t" (some (.compare short)))) =
        (.ok (.rows [.ofList [("c", .float64 (.ofRatio false 1 1))]]), after) ∧
      ((Engine.mk {} after).run deletion).1 = .ok (.deleted 1) ∧
      sheet.Rejudges rest false [some "1.0"] short := by
  intro store sheet rest short deletion
  have hdelimiter : Delimited.Separates store.delimiter := ⟨by decide, by decide⟩
  have hsheet : store.sheet "t" = .ok ("t.csv", sheet) := by
    refine Result.eq_ok_of_toOption ?_
    decide +kernel
  have hunmarked : ∀ first ∈ sheet.columns.head?,
      first.toList.head? ≠ some Sheet.byteOrderChar := by decide
  set after := ((Engine.mk {} store).run deletion).2 with hafter
  have hanswer : ((Engine.mk {} store).run deletion).1 = .ok (.deleted 1) := by
    refine Result.eq_ok_of_toOption ?_
    decide +kernel
  have hdelete : (Engine.mk {} store).run deletion = (.ok (.deleted 1), after) :=
    Prod.ext hanswer rfl
  -- the record with the number is spared, read again and accepted
  have hspared : sheet.spared ⟨some (.compare short), Settings.filterOptions {}⟩ = rest := by
    decide +kernel
  have hvisible : (rest.toBytes store.delimiter).all Sheet.isBlankByte = false := by
    decide +kernel
  have haccepted : rest.isAccepted ⟨some (.compare short), Settings.filterOptions {}⟩
      [some "1.0"] = true := by
    decide +kernel
  have hrow : rest.row rest.kinds [some "1.0"] =
      .ofList [("c", .float64 (.ofRatio false 1 1))] := by
    decide +kernel
  obtain ⟨again, hreads, hkept, hselect, hrepeat, hrejudged, -⟩ :=
    deletion_repeated {} hdelimiter hsheet hunmarked hdelete
  rw [hspared, hvisible] at hkept
  obtain rfl : again = rest := hkept.resolve_right fun h => Bool.false_ne_true h.1
  rw [List.filter_cons_of_pos haccepted] at hselect hrepeat
  obtain ⟨comparison, hmem, hjudges⟩ := hrejudged _ List.mem_cons_self haccepted
  obtain rfl := List.mem_singleton.mp hmem
  refine ⟨hdelimiter, hsheet, hunmarked, after, hdelete, hreads, ?_, hrepeat, hjudges⟩
  rw [hselect, ← hrow]
  rfl

/-- A deletion may leave rows that its condition accepts when it is read again. It may also leave a
file that cannot be read, or not under the old names: a second byte-order mark of the header becomes
the first, and quotes or carriage returns as delimiters are taken for what ends a text or a line. -/
theorem exists_deletion_repeated :
    let answers (delimiter : UInt8) (content : String) (texts : List String) :=
      ((Engine.mk {} ((empty delimiter true).setFile "t.csv" (Sheet.bytesOf content))).session
        texts).1.map Except.toOption
    answers 0x2c "c\nx\n1.0\n"
        ["DELETE FROM t WHERE c LIKE '_'", "SELECT * FROM t WHERE c LIKE '_'",
          "DELETE FROM t WHERE c LIKE '_'"] =
      [some (.deleted 1), some (.rows [.ofList [("c", .float64 (.ofRatio false 1 1))]]),
        some (.deleted 1)] ∧
    answers 0x2c "\ufeff\ufeffc\n1\n2\n"
        ["DELETE FROM t WHERE \"\ufeffc\" = 1", "SELECT * FROM t WHERE \"\ufeffc\" = 1"] =
      [some (.deleted 1), none] ∧
    answers 0x0d "a\rb\n\"\"\r4\n1\r2\n"
        ["DELETE FROM t WHERE a = 1", "SELECT * FROM t WHERE a = 1"] =
      [some (.deleted 1), none] ∧
    answers 0x22 "a\"b\n\"x\n\"y\"2\n1\"1\n"
        ["DELETE FROM t WHERE a = 1", "SELECT * FROM t WHERE a = 1"] =
      [some (.deleted 1), none] := by
  intro answers
  refine ⟨?_, ?_, ?_, ?_⟩
  · decide +kernel
  · decide +kernel
  · decide +kernel
  · decide +kernel

end DirectoryStore

end TableQuery
