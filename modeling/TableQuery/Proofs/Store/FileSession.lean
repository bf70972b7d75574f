import TableQuery.Proofs.Store.Directory
import TableQuery.Proofs.Store.Session

/-!
# Sessions on a table in a file

Every statement that changes one table only has one of the effects listed in `Effect` on its file: a
failure, a query and a deletion that finds nothing leave the whole store as it was, bytes and all,
and any other insertion or deletion leaves a file that is read as the old records with one added or
some taken out, next to the same other files. What holds of a table that can be read and written
goes through each effect (`Effect.holds`), so the effects of a whole session follow each other
(`session_file_effects`).
-/

namespace TableQuery

/-- A statement changes no table but this one. -/
def Statement.ChangesOnly (table : String) : Statement → Prop
  | .select _ => True
  | .insert statement => statement.table = table
  | .delete statement => statement.table = table

/-- Whether a statement changes no other table can be computed. -/
instance (table : String) : DecidablePred (Statement.ChangesOnly table)
  | .select _ => inferInstanceAs (Decidable True)
  | .insert statement => inferInstanceAs (Decidable (statement.table = table))
  | .delete statement => inferInstanceAs (Decidable (statement.table = table))

namespace DirectoryStore

/-- The tables that can be read, by their names. -/
def table? (store : DirectoryStore) (name : String) : Option Table := (store.fetch name).toOption

/-- The effect of one statement text on a table in a file: its answer, and the store after it. A
statement that fails, a query and a deletion without a match leave the store as it was. Otherwise
the file is read anew as the sheet that the last premises say, and nothing else has changed. -/
inductive Effect (options : FilterOptions) (table file : String) (before : DirectoryStore) :
    String → Result Outcome → DirectoryStore → Prop
  | failed {text : String} (e : Error)
      (hrefused : ∀ statement, Statement.parse text = .ok statement →
        MemoryStore.Refused options before.table? statement) :
      Effect options table file before text (.error e) before
  | selected {text : String} {statement : SelectStatement} (found : List Row)
      (hparse : Statement.parse text = .ok (.select statement)) :
      Effect options table file before text (.ok (.rows found)) before
  | unmatched {text : String} {statement : DeleteStatement} {filter : Filter} {sheet : Sheet}
      (hparse : Statement.parse text = .ok (.delete statement))
      (hfilter : filter = ⟨statement.condition, options⟩)
      (hsheet : before.sheet table = .ok (file, sheet))
      (hnone : ∀ row ∈ sheet.toTable.rows, filter.accepts row = .ok false) :
      Effect options table file before text (.ok (.deleted 0)) before
  | inserted {text : String} {statement : InsertStatement} {sheet : Sheet}
      {after : DirectoryStore}
      (hparse : Statement.parse text = .ok (.insert statement))
      (hsheet : before.sheet table = .ok (file, sheet))
      (hknown : ∀ column ∈ statement.columns, column ∈ sheet.columns)
      (hframe : Frame file before after)
      (hafter : after.sheet table = .ok (file, ⟨sheet.columns,
        sheet.records ++ [sheet.newRecord statement.columns statement.values]⟩)) :
      Effect options table file before text (.ok (.inserted 1)) after
  | deleted {text : String} {statement : DeleteStatement} {filter : Filter} {sheet : Sheet}
      {after : DirectoryStore}
      (hparse : Statement.parse text = .ok (.delete statement))
      (hfilter : filter = ⟨statement.condition, options⟩)
      (hsheet : before.sheet table = .ok (file, sheet))
      (hjudged : ∀ row ∈ sheet.toTable.rows, ∃ accepted, filter.accepts row = .ok accepted)
      (hsome : sheet.records.countP (sheet.isAccepted filter) ≠ 0)
      (hframe : Frame file before after)
      (hafter : after.sheet table = .ok (file, ⟨sheet.columns,
        sheet.records.filter fun record => !sheet.isAccepted filter record⟩)) :
      Effect options table file before text
        (.ok (.deleted (sheet.records.countP (sheet.isAccepted filter)))) after

/-- The effects of a list of statement texts, one after the other. -/
inductive Effects (options : FilterOptions) (table file : String) :
    DirectoryStore → List String → List (Result Outcome) → DirectoryStore → Prop
  | nil (store : DirectoryStore) : Effects options table file store [] [] store
  | cons {before between after : DirectoryStore} {text : String} {texts : List String}
      {answer : Result Outcome} {answers : List (Result Outcome)}
      (hhead : Effect options table file before text answer between)
      (htail : Effects options table file between texts answers after) :
      Effects options table file before (text :: texts) (answer :: answers) after

variable {store : DirectoryStore} {table file : String} {sheet : Sheet}

/-- A table that can be read and written stays so under every effect, with the same header, and the
other files stay as they are. -/
lemma Effect.holds {options : FilterOptions} {after : DirectoryStore} {text : String}
    {answer : Result Outcome} (heffect : Effect options table file store text answer after)
    (h : store.Holds table file sheet) :
    (∃ records, after.Holds table file ⟨sheet.columns, records⟩) ∧ Frame file store after := by
  have hsame {other : Sheet} (hother : store.sheet table = .ok (file, other)) : other = sheet := by
    rw [h.reads] at hother
    exact (congrArg Prod.snd (Except.ok.inj hother)).symm
  cases heffect with
  | failed e hrefused => exact ⟨⟨sheet.records, h⟩, Frame.refl file store⟩
  | selected found hparse => exact ⟨⟨sheet.records, h⟩, Frame.refl file store⟩
  | unmatched hparse hfilter hsheet hnone => exact ⟨⟨sheet.records, h⟩, Frame.refl file store⟩
  | inserted hparse hsheet hknown hframe hafter =>
    obtain rfl := hsame hsheet
    exact ⟨⟨_, h.of_frame hframe hafter (h.writable.newRecord _ _)⟩, hframe⟩
  | deleted hparse hfilter hsheet hjudged hsome hframe hafter =>
    obtain rfl := hsame hsheet
    exact ⟨⟨_, h.of_frame hframe hafter (h.writable.filter _)⟩, hframe⟩

/-! ## Statements -/

variable (settings : Settings)

/-- What refuses the statement of a text refuses whatever the text is parsed as. -/
lemma refused_of_parse {options : FilterOptions} {tables : String → Option Table} {text : String}
    {statement : Statement} (hparse : Statement.parse text = .ok statement)
    (h : MemoryStore.Refused options tables statement) :
    ∀ other, Statement.parse text = .ok other → MemoryStore.Refused options tables other := by
  intro other hother
  rw [hparse] at hother
  exact Except.ok.inj hother ▸ h

/-- What holds of the table of a sheet that can be read holds of the only table found. -/
lemma forall_table? (h : store.sheet table = .ok (file, sheet)) {p : Table → Prop}
    (hp : p sheet.toTable) : ∀ other, store.table? table = some other → p other := by
  intro other hother
  rw [table?, fetch_of_sheet h] at hother
  exact Option.some.inj hother ▸ hp

/-- An insertion is refused, or it adds a record to the file. -/
lemma insert_effect (h : store.Holds table file sheet) {text : String}
    {statement : InsertStatement} (hparse : Statement.parse text = .ok (.insert statement))
    (htable : statement.table = table) :
    Effect settings.filterOptions table file store text
      ((Engine.mk settings store).run (.insert statement)).1
      ((Engine.mk settings store).run (.insert statement)).2 := by
  subst htable
  simp only [Engine.run, Engine.insert]
  cases hcheck : Engine.checkInsert statement with
  | error e => exact .failed e (refused_of_parse hparse (.inl ⟨e, hcheck⟩))
  | ok _ =>
    rcases insert_cases h.reads statement.columns statement.values with
      ⟨e, he, hmissing⟩ | ⟨hknown, hinsert⟩
    · simp only [Store.insert, he, Except.map]
      exact .failed e (refused_of_parse hparse (.inr (forall_table? h.reads hmissing)))
    · simp only [Store.insert, hinsert, Except.map]
      have hwritten := h.rewrite (h.writable.newRecord statement.columns statement.values)
      exact .inserted hparse h.reads hknown (frame_setFile _ _ _) hwritten.reads

/-- A deletion is refused, or finds nothing, or it takes the accepted records out of the file. -/
lemma delete_effect (h : store.Holds table file sheet) {text : String}
    {statement : DeleteStatement} (hparse : Statement.parse text = .ok (.delete statement))
    (htable : statement.table = table) :
    Effect settings.filterOptions table file store text
      ((Engine.mk settings store).run (.delete statement)).1
      ((Engine.mk settings store).run (.delete statement)).2 := by
  subst htable
  simp only [Engine.run, Engine.delete]
  split
  · rename_i hempty
    exact .failed _ (refused_of_parse hparse (.inl hempty))
  rcases delete_cases h.reads ⟨statement.condition, settings.filterOptions⟩ with
    ⟨e, he, hunjudged⟩ | ⟨hjudged, ⟨hnone, hdelete⟩ | ⟨hsome, hdelete⟩⟩
  · simp only [Store.delete, he, Except.map]
    exact .failed e (refused_of_parse hparse (.inr (forall_table? h.reads hunjudged)))
  · simp only [Store.delete, hdelete, Except.map]
    refine .unmatched hparse rfl h.reads ?_
    intro row hrow
    obtain ⟨record, hrecord, rfl⟩ := List.mem_map.mp hrow
    have hrejected := List.countP_eq_zero.mp hnone record hrecord
    rw [Filter.accepts_eq_ok (hjudged _ hrow), ← Sheet.isAccepted, Bool.eq_false_iff.mpr hrejected]
  · simp only [Store.delete, hdelete, Except.map]
    have hwritten := h.rewrite (h.writable.filter fun record =>
      !sheet.isAccepted ⟨statement.condition, settings.filterOptions⟩ record)
    exact .deleted hparse rfl h.reads hjudged hsome (frame_setFile _ _ _) hwritten.reads

/-- Every text whose statement changes one table only has one of the effects on its file. -/
lemma execute_effect (h : store.Holds table file sheet) {text : String}
    (honly : ∀ statement, Statement.parse text = .ok statement → statement.ChangesOnly table) :
    Effect settings.filterOptions table file store text
      ((Engine.mk settings store).execute text).1
      ((Engine.mk settings store).execute text).2 := by
  unfold Engine.execute
  cases hparse : Statement.parse text with
  | error e => exact .failed e fun statement h => by rw [hparse] at h; cases h
  | ok statement =>
    have hchanges := honly statement hparse
    cases statement with
    | select statement =>
      simp only [Engine.run]
      cases (Engine.mk settings store).select statement with
      | error e => exact .failed e (refused_of_parse hparse trivial)
      | ok found => exact .selected found hparse
    | insert statement => exact insert_effect settings h hparse hchanges
    | delete statement => exact delete_effect settings h hparse hchanges

/-- A session of statements that change one table only has one of the effects on its file for each
statement, in their order. The table can be read after it under the same header, and the other files
are as they were. -/
theorem session_file_effects (settings : Settings) {store : DirectoryStore} {table file : String}
    {sheet : Sheet} (hdelimiter : Delimited.IsDelimiter store.delimiter)
    (hsheet : store.sheet table = .ok (file, sheet))
    (hvisible : ∃ column ∈ sheet.columns, ∃ c ∈ column.toList, Sheet.isBlankChar c = false)
    (hunmarked : ∀ first ∈ sheet.columns.head?,
      first.toList.head? ≠ some Sheet.byteOrderChar)
    {texts : List String} (honly : ∀ text ∈ texts, ∀ statement,
      Statement.parse text = .ok statement → statement.ChangesOnly table) :
    Effects settings.filterOptions table file store texts
      ((Engine.mk settings store).session texts).1
      ((Engine.mk settings store).session texts).2 ∧
    (∃ records, ((Engine.mk settings store).session texts).2.sheet table =
      .ok (file, ⟨sheet.columns, records⟩)) ∧
    Frame file store ((Engine.mk settings store).session texts).2 := by
  have h := Holds.of_header hdelimiter hsheet hvisible hunmarked
  clear hdelimiter hsheet hvisible hunmarked
  induction texts generalizing store sheet with
  | nil => exact ⟨.nil store, ⟨sheet.records, h.reads⟩, Frame.refl file store⟩
  | cons text texts ih =>
    have heffect := execute_effect settings h (honly text List.mem_cons_self)
    obtain ⟨⟨records, hbetween⟩, hframe⟩ := heffect.holds h
    -- the header that the rest starts from is the one that the first statement found
    obtain ⟨htail, hlast, hrest⟩ :=
      ih (fun other hother => honly other (List.mem_cons_of_mem text hother)) hbetween
    exact ⟨.cons heffect htail, hlast, hframe.trans hrest⟩

/-- A file of codes with leading zeros. A row comes in with an empty price, a condition on a column
that is not there fails, a code is not found and another one goes, and the codes that stay keep
their zeros. -/
theorem session_file_effects_of_codes :
    let store := (empty 0x2c true).setFile "codes.csv"
      (Sheet.bytesOf "code,price\n007,1.50\n010,\n")
    let texts := ["INSERT INTO codes (price, code) VALUES ('', '020')",
      "DELETE FROM codes WHERE size = 1", "DELETE FROM codes WHERE code = 8",
      "DELETE FROM codes WHERE code = 10"]
    let ended := (Engine.mk {} store).session texts
    ended.1.map Except.toOption =
      [some (.inserted 1), none, some (.deleted 0), some (.deleted 1)] ∧
    ended.2.file? "codes.csv" = some (Sheet.bytesOf "code,price\n007,1.50\n020,\n") ∧
    Effects (Settings.filterOptions {}) "codes" "codes.csv" store texts ended.1 ended.2 := by
  intro store texts ended
  have hdelimiter : Delimited.IsDelimiter store.delimiter := ⟨by decide, by decide, by decide⟩
  have hsheet : store.sheet "codes" = .ok ("codes.csv",
      ⟨["code", "price"], [[some "007", some "1.50"], [some "010", none]]⟩) := by
    refine sheet_eq_ok_iff.mpr ⟨rfl, _, rfl, ?_⟩
    refine Result.eq_ok_of_toOption ?_
    decide +kernel
  have hunmarked : ∀ first ∈ ["code", "price"].head?,
      first.toList.head? ≠ some Sheet.byteOrderChar := by decide
  -- one run of the kernel reads each text once for all three facts
  have hrun : (∀ text ∈ texts, ∀ statement ∈ (Statement.parse text).toOption,
        statement.ChangesOnly "codes") ∧
      ended.1.map Except.toOption =
        [some (.inserted 1), none, some (.deleted 0), some (.deleted 1)] ∧
      ended.2.file? "codes.csv" = some (Sheet.bytesOf "code,price\n007,1.50\n020,\n") := by
    decide +kernel
  obtain ⟨honly, hanswers, hfile⟩ := hrun
  refine ⟨hanswers, hfile, ?_⟩
  refine (session_file_effects {} hdelimiter hsheet
    ⟨"code", by decide, 'c', by decide, by decide⟩ hunmarked ?_).1
  intro text htext statement hparse
  apply honly text htext statement
  rw [hparse]
  rfl

end DirectoryStore

end TableQuery
