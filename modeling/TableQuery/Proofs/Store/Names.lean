import Mathlib.Data.List.Nodup
import Mathlib.Data.String.Basic
import TableQuery.Store.Directory

/-!
# Names of tables and of files

A table lies in the file whose name is its own and the suffix behind it, and the names of the tables
are read off the files that there are (`tableOfFile?_eq_some_iff`). So every table that can be asked
for is listed, and no two of them share a file. The way back does not look at the name that it
gives: a directory can hold a file whose name without the suffix is one or two points or has a
backslash in it, and then this name is listed although no table may have it
(`exists_listed_rejected`).
-/

namespace TableQuery

/-- Bytes are read as a sheet, or they do not form a table. -/
lemma Sheet.ofBytes_cases (delimiter : UInt8) (bytes : List UInt8) :
    (∃ sheet, ofBytes delimiter bytes = .ok sheet) ∨
      ofBytes delimiter bytes = .error (.store .malformed) := by
  unfold ofBytes
  split
  · exact .inl ⟨_, rfl⟩
  · split
    · exact .inr rfl
    · split
      · exact .inl ⟨_, rfl⟩
      · exact .inr rfl
    · split
      · exact .inl ⟨_, rfl⟩
      · exact .inr rfl

/-- Distinct names are sorted without repetition. -/
lemma Store.pairwise_sortNames {names : List String} (h : names.Nodup) :
    (sortNames names).Pairwise (· < ·) := by
  have hsorted : (sortNames names).Pairwise fun a b => decide (a ≤ b) = true := by
    refine List.pairwise_mergeSort (fun a b c hab hbc => ?_) (fun a b => ?_) names
    · rw [decide_eq_true_eq] at hab hbc ⊢
      exact hab.trans hbc
    · rw [Bool.or_eq_true, decide_eq_true_eq, decide_eq_true_eq]
      exact le_total a b
  have hnodup : (sortNames names).Nodup := (List.mergeSort_perm names _).nodup_iff.mpr h
  refine hsorted.imp₂ (fun a b hle hne => ?_) hnodup
  exact lt_of_le_of_ne (of_decide_eq_true hle) hne

namespace DirectoryStore

variable {store : DirectoryStore} {table file : String}

/-! ## From tables to files and back -/

/-- The file of a table has the name of the table with the suffix behind it. -/
lemma fileName_eq_ok_iff :
    fileName table = .ok file ↔ isTableName table = true ∧ file = table ++ suffix := by
  unfold fileName
  by_cases h : isTableName table = true
  · rw [if_pos h, Except.ok.injEq, eq_comm, iff_and_self]
    exact fun _ => h
  · rw [if_neg h]
    constructor
    · intro hname
      cases hname
    · exact fun hname => absurd hname.1 h

/-- A name is plain unless it is empty, one or two points, or holds a slash. -/
lemma isPlain_iff {name : String} :
    isPlain name = true ↔ (name ≠ "" ∧ name ≠ "." ∧ name ≠ "..") ∧ '/' ∉ name.toList := by
  simp [isPlain]

/-- A table can have every name but the empty one, one or two points, and those with a slash or a
backslash. -/
lemma isTableName_iff :
    isTableName table = true ↔ ((table ≠ "" ∧ table ≠ "." ∧ table ≠ "..") ∧ '/' ∉ table.toList) ∧
      '\\' ∉ table.toList := by
  rw [isTableName, Bool.and_eq_true, isPlain_iff]
  simp

/-- The file of a table lies in the directory itself: the suffix is longer than the names that
stand for a directory, and it has no slash. -/
lemma isPlain_of_fileName (h : fileName table = .ok file) : isPlain file = true := by
  obtain ⟨hname, rfl⟩ := fileName_eq_ok_iff.mp h
  have hlong (name : String) (hname : name.length < suffix.length) : table ++ suffix ≠ name := by
    rintro rfl
    rw [String.length_append] at hname
    omega
  refine isPlain_iff.mpr ⟨⟨hlong _ (by decide), hlong _ (by decide), hlong _ (by decide)⟩, ?_⟩
  rw [String.toList_append, List.mem_append, not_or]
  exact ⟨(isTableName_iff.mp hname).1.2, by decide⟩

/-- No two tables have one file. -/
lemma eq_of_fileName {other : String} (h : fileName table = .ok file)
    (hother : fileName other = .ok file) : table = other := by
  obtain ⟨-, rfl⟩ := fileName_eq_ok_iff.mp h
  exact (String.append_left_inj suffix).mp (fileName_eq_ok_iff.mp hother).2

/-- A file holds the table that its name without the suffix spells, unless nothing is left of it. -/
lemma tableOfFile?_eq_some_iff :
    tableOfFile? file = some table ↔ table ≠ "" ∧ file = table ++ suffix := by
  unfold tableOfFile?
  dsimp only
  constructor
  · intro h
    split at h
    · rename_i hboth
      obtain ⟨hsuffix, hstem⟩ := Bool.and_eq_true_iff.mp hboth
      rw [List.isSuffixOf_iff_suffix, List.suffix_iff_eq_append] at hsuffix
      obtain rfl := Option.some.inj h
      refine ⟨?_, ?_⟩
      · rintro hempty
        rw [← String.toList_inj, String.toList_ofList] at hempty
        rw [hempty] at hstem
        cases hstem
      · rw [← String.toList_inj, String.toList_append, String.toList_ofList, hsuffix]
    · cases h
  · rintro ⟨hne, rfl⟩
    have hstem : (table ++ suffix).toList.take
        ((table ++ suffix).toList.length - suffix.toList.length) = table.toList := by
      rw [String.toList_append, List.length_append, Nat.add_sub_cancel]
      exact List.take_left
    have hsuffix : suffix.toList.isSuffixOf (table ++ suffix).toList = true := by
      rw [List.isSuffixOf_iff_suffix, String.toList_append]
      exact List.suffix_append _ _
    have hleft : table.toList.isEmpty = false := by
      rwa [List.isEmpty_eq_false_iff, ne_eq, String.toList_eq_nil_iff]
    rw [hstem, hsuffix, hleft, String.ofList_toList]
    rfl

/-! ## Tables that are there -/

/-- Whether a store has the file of a table. -/
def HasFile (store : DirectoryStore) (table : String) : Prop :=
  table ++ suffix ∈ Named.names store.files

/-- Whether asking for a table is answered with something else than that there is none, or that
there can be none, of this name. -/
def Accepts (store : DirectoryStore) (table : String) : Prop :=
  ∀ name, store.fetch table ≠ .error (.store (.tableNotFound name)) ∧
    store.fetch table ≠ .error (.store (.invalidTableName name))

/-- Whether a store has a file whose name without the suffix no table can have: one or two points,
or a name with a backslash. -/
def Strays (store : DirectoryStore) (table : String) : Prop :=
  store.HasFile table ∧ (table = "." ∨ table = ".." ∨ '\\' ∈ table.toList)

/-- A name that no table can have is refused. -/
lemma fetch_of_not_isTableName (store : DirectoryStore) (h : ¬ isTableName table = true) :
    store.fetch table = .error (.store (.invalidTableName table)) := by
  rw [fetch, sheet, fileName, if_neg h]
  rfl

/-- A table without a file is not found. -/
lemma fetch_of_not_hasFile (hname : isTableName table = true) (h : ¬ store.HasFile table) :
    store.fetch table = .error (.store (.tableNotFound table)) := by
  have hfile : store.file? (table ++ suffix) = none := by
    rwa [HasFile, ← Named.isSome_lookup_iff, Option.not_isSome_iff_eq_none] at h
  rw [fetch, sheet, fileName_eq_ok_iff.mpr ⟨hname, rfl⟩]
  simp only [bind, Except.bind, hfile]
  rfl

/-- A file that is there is read, or its bytes do not form a table. -/
lemma fetch_of_hasFile (hname : isTableName table = true) (h : store.HasFile table) :
    (∃ found, store.fetch table = .ok found) ∨ store.fetch table = .error (.store .malformed) := by
  rw [HasFile, ← Named.isSome_lookup_iff] at h
  obtain ⟨bytes, hbytes⟩ := Option.isSome_iff_exists.mp h
  have hfile : store.file? (table ++ suffix) = some bytes := hbytes
  rw [fetch, sheet, fileName_eq_ok_iff.mpr ⟨hname, rfl⟩]
  simp only [bind, Except.bind, hfile]
  rcases Sheet.ofBytes_cases store.delimiter bytes with ⟨found, hread⟩ | hread
  · simp only [hread]
    exact .inl ⟨found.toTable, rfl⟩
  · simp only [hread]
    exact .inr trivial

/-- A table is accepted when it can have its name and its file is there. -/
lemma accepts_iff : store.Accepts table ↔ isTableName table = true ∧ store.HasFile table := by
  constructor
  · intro h
    by_cases hname : isTableName table = true
    · refine ⟨hname, ?_⟩
      by_contra hnone
      exact (h table).1 (fetch_of_not_hasFile hname hnone)
    · exact absurd (fetch_of_not_isTableName store hname) (h table).2
  · rintro ⟨hname, hfile⟩ name
    rcases fetch_of_hasFile hname hfile with ⟨found, hfetch⟩ | hfetch
    · rw [hfetch]
      constructor <;> rintro ⟨⟩
    · rw [hfetch]
      constructor <;> rintro ⟨⟩

/-- No table can have a name that strays. -/
lemma not_isTableName_of_strays (h : store.Strays table) : ¬ isTableName table = true := by
  intro hname
  obtain ⟨⟨⟨-, hpoint, hpoints⟩, -⟩, hslash⟩ := isTableName_iff.mp hname
  rcases h.2 with hstray | hstray | hstray
  · exact hpoint hstray
  · exact hpoints hstray
  · exact hslash hstray

/-! ## Tables that are listed -/

/-- The names that are left of distinct file names without the suffix are distinct. -/
lemma nodup_filterMap_tableOfFile? (store : DirectoryStore) :
    ((Named.names store.files).filterMap tableOfFile?).Nodup := by
  refine store.nodup.filterMap fun file other table hfile hother => ?_
  exact (tableOfFile?_eq_some_iff.mp hfile).2.trans (tableOfFile?_eq_some_iff.mp hother).2.symm

/-- The names that are left of file names without the suffix are those of the files, but for the
empty one. -/
lemma mem_filterMap_tableOfFile? :
    table ∈ (Named.names store.files).filterMap tableOfFile? ↔
      table ≠ "" ∧ store.HasFile table := by
  rw [List.mem_filterMap]
  constructor
  · rintro ⟨file, hmem, hfile⟩
    obtain ⟨hne, rfl⟩ := tableOfFile?_eq_some_iff.mp hfile
    exact ⟨hne, hmem⟩
  · rintro ⟨hne, hmem⟩
    exact ⟨_, hmem, tableOfFile?_eq_some_iff.mpr ⟨hne, rfl⟩⟩

/-- A name that is left of the name of a file is that of a table, or strays. -/
lemma named_iff (hplain : ∀ file ∈ Named.names store.files, isPlain file = true) :
    (table ≠ "" ∧ store.HasFile table) ↔ store.Accepts table ∨ store.Strays table := by
  rw [accepts_iff]
  constructor
  · rintro ⟨hne, hfile⟩
    by_cases hstrays : store.Strays table
    · exact .inr hstrays
    · refine .inl ⟨isTableName_iff.mpr ?_, hfile⟩
      obtain ⟨hpoint, hpoints, hslash⟩ : table ≠ "." ∧ table ≠ ".." ∧ '\\' ∉ table.toList := by
        simpa [Strays, hfile] using hstrays
      have hclean := (isPlain_iff.mp (hplain _ hfile)).2
      rw [String.toList_append, List.mem_append, not_or] at hclean
      exact ⟨⟨⟨hne, hpoint, hpoints⟩, hclean.1⟩, hslash⟩
  · rintro (⟨hname, hfile⟩ | ⟨hfile, hstray⟩)
    · exact ⟨(isTableName_iff.mp hname).1.1.1, hfile⟩
    · refine ⟨?_, hfile⟩
      rintro rfl
      revert hstray
      decide

/-- The tables that a directory is said to hold are sorted, without repetition. They are those that
are accepted and those that stray, which are refused because of their names. Each accepted table has
a file that is there; the file of a table lies in the directory itself and belongs to no other
table. -/
theorem tableNames_accepted_or_stray (hpresent : store.present = true)
    (hplain : ∀ file ∈ Named.names store.files, isPlain file = true) :
    ∃ listed, store.tableNames = .ok listed ∧ listed.Pairwise (· < ·) ∧
      (∀ table, table ∈ listed ↔ store.Accepts table ∨ store.Strays table) ∧
      (∀ table, store.Strays table →
        store.fetch table = .error (.store (.invalidTableName table))) ∧
      (∀ table, store.Accepts table →
        ∃ file ∈ Named.names store.files, fileName table = .ok file) ∧
      ∀ table file, fileName table = .ok file → isPlain file = true ∧
        ∀ other, fileName other = .ok file → table = other := by
  refine ⟨_, if_pos hpresent, Store.pairwise_sortNames (nodup_filterMap_tableOfFile? store),
    fun table => ?_, fun table hstrays => ?_, fun table haccepts => ?_, fun table file hfile => ?_⟩
  · rw [Store.sortNames, List.mem_mergeSort, mem_filterMap_tableOfFile?, named_iff hplain]
  · exact fetch_of_not_isTableName store (not_isTableName_of_strays hstrays)
  · obtain ⟨hname, hfile⟩ := accepts_iff.mp haccepts
    exact ⟨_, hfile, fileName_eq_ok_iff.mpr ⟨hname, rfl⟩⟩
  · exact ⟨isPlain_of_fileName hfile, fun other hother => eq_of_fileName hfile hother⟩

/-- A hidden file and a doubled suffix are accepted, a lone suffix and another ending are not
listed, and the file of a name of one point is. -/
theorem tableNames_accepted_or_stray_of_points :
    let store : DirectoryStore := ⟨44, true, [("t.csv.csv", [107]), (".h.csv", []), (".csv", [107]),
      ("..csv", [107]), ("t.tsv", [107])], by decide, fun _ => rfl⟩
    store.present = true ∧ (∀ file ∈ Named.names store.files, isPlain file = true) ∧
      store.tableNames = .ok [".", ".h", "t.csv"] ∧
      store.Strays "." ∧ store.fetch "." = .error (.store (.invalidTableName ".")) ∧
      store.Accepts "t.csv" ∧ fileName "t.csv" = .ok "t.csv.csv" := by
  intro store
  have hplain : ∀ file ∈ Named.names store.files, isPlain file = true := by decide
  have hnames : (Named.names store.files).filterMap tableOfFile? = ["t.csv", ".h", "."] := by
    decide
  have hsorted : Store.sortNames ["t.csv", ".h", "."] = [".", ".h", "t.csv"] := by
    simp [Store.sortNames, List.mergeSort]
  have htables : store.tableNames = .ok [".", ".h", "t.csv"] := by
    rw [tableNames, if_pos rfl, hnames, hsorted]
  have hfile : "." ++ suffix ∈ Named.names store.files := by decide
  have hstrays : store.Strays "." := ⟨hfile, .inl rfl⟩
  obtain ⟨listed, hlisted, -, haccepted, hrefused, hfiles, -⟩ :=
    @tableNames_accepted_or_stray store rfl hplain
  obtain rfl := Except.ok.inj (hlisted.symm.trans htables)
  have hcsv : store.Accepts "t.csv" := by
    refine ((haccepted "t.csv").mp (by decide)).resolve_right ?_
    rintro ⟨-, hstray⟩
    revert hstray
    decide
  obtain ⟨file, -, hfile⟩ := hfiles "t.csv" hcsv
  refine ⟨rfl, hplain, htables, hstrays, hrefused "." hstrays, hcsv, ?_⟩
  rw [hfile, (fileName_eq_ok_iff.mp hfile).2]
  rfl

/-- A file with a backslash in its name is listed, and refused when it is asked for. -/
theorem exists_listed_rejected :
    let store := (empty 44 true).setFile "a\\b.csv" [107]
    (∀ file ∈ Named.names store.files, isFileName file = true) ∧
    store.tableNames.toOption = some ["a\\b"] ∧
    store.fetch "a\\b" = .error (.store (.invalidTableName "a\\b")) ∧
    ¬ store.Accepts "a\\b" := by
  intro store
  have hfetch : store.fetch "a\\b" = .error (.store (.invalidTableName "a\\b")) :=
    fetch_of_not_isTableName store (by decide)
  refine ⟨by decide, ?_, hfetch, fun haccepts => (haccepts "a\\b").2 hfetch⟩
  decide +kernel

end DirectoryStore

end TableQuery
