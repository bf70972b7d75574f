import TableQuery.Proofs.Query.NestedLoop
import TableQuery.Proofs.Query.Stages
import TableQuery.Proofs.Row
import TableQuery.Proofs.Sql.Joins

/-!
# The names of joined columns

The rows that a query with a join starts from name their columns with the tables that ON spells
(`source_columns_of_parse`). FROM and JOIN may spell the same tables in another ASCII case, and a
reference with such a spelling need not resolve (`source_columns_not_as_written`).
-/

namespace TableQuery

namespace Join

variable {left right : JoinSide} {pair : Option Row × Option Row}

/-- A merged row has the qualified columns of both sides and no others. -/
lemma mem_columns_mergePair (hleft : ∀ row ∈ pair.1, row.columns.Perm left.columns)
    (hright : ∀ row ∈ pair.2, row.columns.Perm right.columns) {name : String} :
    name ∈ (mergePair left right pair).columns ↔
      name ∈ left.columns.map left.qualify ++ right.columns.map right.qualify := by
  rw [mergePair, Row.mem_columns_ofList, Named.names, List.map_append, List.mem_append,
    List.mem_append]
  exact or_congr (names_qualifiedCells hleft).mem_iff (names_qualifiedCells hright).mem_iff

/-- So has every row of a join. -/
lemma mem_columns_of_mem_nestedLoop {kind : JoinKind} {leftRows rightRows found : List Row}
    (hfound : nestedLoop kind left leftRows right rightRows = .ok found)
    (hleft : ∀ row ∈ leftRows, row.columns.Perm left.columns)
    (hright : ∀ row ∈ rightRows, row.columns.Perm right.columns) {row : Row} (hrow : row ∈ found)
    {name : String} :
    name ∈ row.columns ↔
      name ∈ left.columns.map left.qualify ++ right.columns.map right.qualify := by
  unfold nestedLoop at hfound
  split at hfound
  · cases hfound
  · obtain rfl := Except.ok.inj hfound
    obtain ⟨pair, hpair, rfl⟩ := List.mem_map.mp hrow
    obtain ⟨hl, hr⟩ := mem_of_mem_pairs hpair
    exact mem_columns_mergePair (fun row h => hleft row (hl row h))
      fun row h => hright row (hr row h)

end Join

/-- The columns of two joined tables, with the tables spelled as the keys do. -/
def JoinClause.columns (clause : JoinClause) (left right : Table) : List String :=
  left.columns.map (clause.leftKey.table ++ "." ++ ·) ++
    right.columns.map (clause.rightKey.table ++ "." ++ ·)

/-- The columns of two joined tables, with the tables spelled as after FROM and JOIN. -/
def SelectStatement.writtenColumns (statement : SelectStatement) (clause : JoinClause)
    (left right : Table) : List String :=
  left.columns.map (statement.table ++ "." ++ ·) ++ right.columns.map (clause.table ++ "." ++ ·)

namespace SelectStatement

/-- A query with a join is planned and starts from the rows of the joined table, or fails when the
tables cannot be joined. -/
lemma source_of_join {statement : SelectStatement} {clause : JoinClause}
    (h : statement.join = some clause) (left right : Table) :
    ∃ source, statement.source left (some right) = .ok source ∧
      source.rows.toOption = ((clause.tables left right).map Table.rows).toOption := by
  have hcomputes := statement.source_computes left (some right)
  have hrows : statement.sourceRows left (some right) =
      Result.ofExecution ((clause.tables left right).map Table.rows) := by
    unfold sourceRows
    rw [h]
  cases hsource : statement.source left (some right) with
  | error e =>
    unfold source at hsource
    rw [h] at hsource
    cases hsource
  | ok source =>
    rw [hsource] at hcomputes
    refine ⟨source, rfl, ?_⟩
    have hcollect := source.toOption_collect hcomputes.unlimited source.start
    rw [hcomputes.remaining_start, hrows, Result.toOption_ofExecution] at hcollect
    exact hcollect

/-- A query with a join starts from the rows of the joined table. They have the columns of its two
tables, with the tables spelled as ON spells them, and all these columns can be referred to by their
names. ON names the tables of FROM and JOIN, but may spell them in another ASCII case; where it
spells them alike, the columns have the names that one would write. -/
theorem source_columns_of_parse {text : String} {statement : SelectStatement}
    {clause : JoinClause} {left right : Table}
    (hparse : Statement.parse text = .ok (.select statement))
    (hjoin : statement.join = some clause) (hleft : left.Regular) (hright : right.Regular) :
    (Text.sameIgnoringAsciiCase clause.leftKey.table statement.table = true ∧
      Text.sameIgnoringAsciiCase clause.rightKey.table clause.table = true) ∧
    (clause.leftKey.table = statement.table → clause.rightKey.table = clause.table →
      clause.columns left right = statement.writtenColumns clause left right) ∧
    ∃ source, statement.source left (some right) = .ok source ∧
      source.rows.toOption = ((clause.tables left right).map Table.rows).toOption ∧
      ∀ found, source.rows = .ok found → ∀ row ∈ found,
        (∀ name, name ∈ row.columns ↔ name ∈ clause.columns left right) ∧
        row.Resolves (clause.columns left right) := by
  refine ⟨Sql.Parser.sameTables_of_parse hparse hjoin, ?_, ?_⟩
  · intro hfrom hto
    rw [JoinClause.columns, hfrom, hto]
    rfl
  · obtain ⟨source, hsource, hrows⟩ := source_of_join hjoin left right
    refine ⟨source, hsource, hrows, fun found hfound row hrow => ?_⟩
    rw [hfound, clause.map_rows_tables, Join.rows_eq_nestedLoop] at hrows
    have hloop := Result.eq_ok_of_toOption hrows.symm
    have hnames (name : String) : name ∈ row.columns ↔ name ∈ clause.columns left right :=
      Join.mem_columns_of_mem_nestedLoop hloop hleft hright hrow
    refine ⟨hnames, fun name hname => ?_⟩
    obtain ⟨value, hvalue⟩ := Row.exists_get?_of_mem ((hnames name).mpr hname)
    exact ⟨value, Row.lookup_of_get? hvalue⟩

/-- ON spells the table of FROM with a small letter and that of JOIN with a capital, and names them
the other way round. The person without an order has an empty cell under the name of the second
table. -/
theorem source_columns_of_users :
    let text := "SELECT * FROM Users LEFT JOIN Orders ON Orders.user_id = users.id"
    let clause : JoinClause := ⟨.left, "Orders", ⟨"users", "id"⟩, ⟨"Orders", "user_id"⟩⟩
    let statement : SelectStatement := {
      fields := [.star]
      table := "Users"
      condition := none
      join := some clause
      groupBy := none
      implicitGroup := false
      orderBy := none
      limit := none
      distinct := false }
    let users : Table := ⟨["id", "name"], [.ofList [("id", .int64 1), ("name", .text "Ann")]]⟩
    let orders : Table := ⟨["user_id"], [.ofList [("user_id", .text "2")]]⟩
    let row : Row := .ofList [("users.id", .int64 1), ("users.name", .text "Ann"),
      ("Orders.user_id", .null)]
    (Statement.parse text = .ok (.select statement) ∧ statement.join = some clause) ∧
    (users.Regular ∧ orders.Regular) ∧
    ∃ source, statement.source users (some orders) = .ok source ∧ source.rows = .ok [row] ∧
      (∀ name, name ∈ row.columns ↔ name ∈ clause.columns users orders) ∧
      row.Resolves (clause.columns users orders) := by
  intro text clause statement users orders row
  have hparse : Statement.parse text = .ok (.select statement) := by
    unfold Statement.parse Sql.Parser.statement Sql.Parser.select Sql.Parser.optionalJoin
      Sql.Parser.join Sql.Parser.joinKeys?
    simp only [Text.sameIgnoringAsciiCase_eq]
    decide +kernel
  have husers : users.Regular := by
    intro user huser
    exact .of_eq ((by decide +kernel : users.Ordered) user huser)
  have horders : orders.Regular := by
    intro order horder
    exact .of_eq ((by decide +kernel : orders.Ordered) order horder)
  refine ⟨⟨hparse, rfl⟩, ⟨husers, horders⟩, ?_⟩
  obtain ⟨-, -, source, hsource, hjoined, hnames⟩ :=
    source_columns_of_parse hparse rfl husers horders
  have hrows : source.rows = .ok [row] := by
    apply Result.eq_ok_of_toOption
    rw [hjoined, clause.map_rows_tables, Join.rows_eq_nestedLoop]
    decide +kernel
  exact ⟨source, hsource, hrows, hnames [row] hrows row List.mem_cons_self⟩

/-- With other spellings in ON than after FROM and JOIN a joined row lacks the columns as they would
be written, and a reference to one of them fails. -/
theorem source_columns_not_as_written :
    let text := "SELECT Users.name FROM Users JOIN Orders ON users.id = orders.user_id"
    let users : Table := ⟨["id", "name"], [.ofList [("id", .int64 1), ("name", .text "Ann")]]⟩
    let orders : Table :=
      ⟨["user_id", "total"], [.ofList [("user_id", .int64 1), ("total", .int64 5)]]⟩
    (users.Ordered ∧ orders.Ordered) ∧
    ∃ statement clause source row, Statement.parse text = .ok (.select statement) ∧
      statement.join = some clause ∧ statement.source users (some orders) = .ok source ∧
      source.rows = .ok [row] ∧
      "Users.name" ∈ statement.writtenColumns clause users orders ∧
      "Users.name" ∉ row.columns ∧
      row.lookup "Users.name" = .error (.missingField "Users.name") := by
  intro text users orders
  let clause : JoinClause := ⟨.inner, "Orders", ⟨"users", "id"⟩, ⟨"orders", "user_id"⟩⟩
  let statement : SelectStatement := {
    fields := [.column "Users.name"]
    table := "Users"
    condition := none
    join := some clause
    groupBy := none
    implicitGroup := false
    orderBy := none
    limit := none
    distinct := false }
  let row : Row := .ofList [("users.id", .int64 1), ("users.name", .text "Ann"),
    ("orders.user_id", .int64 1), ("orders.total", .int64 5)]
  have hparse : Statement.parse text = .ok (.select statement) := by
    unfold Statement.parse Sql.Parser.statement Sql.Parser.select Sql.Parser.optionalJoin
      Sql.Parser.join Sql.Parser.joinKeys?
    simp only [Text.sameIgnoringAsciiCase_eq]
    decide +kernel
  obtain ⟨source, hsource, hjoined⟩ :=
    source_of_join (rfl : statement.join = some clause) users orders
  refine ⟨by decide +kernel, statement, clause, source, row, hparse, rfl, hsource, ?_,
    by decide +kernel, by decide +kernel, by decide +kernel⟩
  apply Result.eq_ok_of_toOption
  rw [hjoined, clause.map_rows_tables, Join.rows_eq_nestedLoop]
  decide +kernel

end SelectStatement

end TableQuery
