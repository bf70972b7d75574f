import TableQuery.Proofs.Query.Remaining
import TableQuery.Query.Select

/-!
# Queries stage by stage

`SelectStatement.stagedRows` answers a query on whole lists of rows, one stage after the other: the
source, the accepted rows, then groups and sorting or sorting and projection, then the removal of
repeated rows. Running the plan of the query gives the same rows, cut off at its limit
(`rows_refines_stagedRows`), however many batches they come in.
-/

namespace TableQuery

/-! ## Stages -/

/-- The rows of a joined table are the joined rows. -/
lemma JoinClause.map_rows_tables (clause : JoinClause) (left right : Table) :
    (clause.tables left right).map Table.rows =
      Join.rows clause.kind ⟨clause.leftKey.table, left.columns, clause.leftKey.column⟩ left.rows
        ⟨clause.rightKey.table, right.columns, clause.rightKey.column⟩ right.rows := by
  simp only [JoinClause.tables, Join.tables]
  cases Join.rows clause.kind _ left.rows _ right.rows <;> rfl

namespace SelectStatement

/-- The rows that a query starts from: those of its table, or of the join with its second table,
which then has to be there. -/
def sourceRows (statement : SelectStatement) (base : Table) (joined : Option Table) :
    Result (List Row) :=
  match statement.join, joined with
  | none, _ => .ok base.rows
  | some clause, none => .error (.store (.tableNotFound clause.table))
  | some clause, some other => Result.ofExecution ((clause.tables base other).map Table.rows)

/-- The rows sorted if asked to. -/
def orderedRows (statement : SelectStatement) (settings : Settings) (rows : List Row) :
    Except ExecutionError (List Row) :=
  match statement.orderBy with
  | some keys => sortRows keys settings.nullsFirst rows
  | none => .ok rows

/-- The rows grouped and then sorted, or sorted and then projected. -/
def shapedRows (statement : SelectStatement) (settings : Settings) (rows : List Row) :
    Except ExecutionError (List Row) :=
  if statement.isGrouped then do
    let groups ← aggregateRows (statement.groupBy.getD []) statement.fields rows
    statement.orderedRows settings groups
  else do
    let ordered ← statement.orderedRows settings rows
    projectRows (projectedColumns? statement.fields) ordered

/-- The rows of a query without its limit, one stage after the other. -/
def stagedRows (statement : SelectStatement) (base : Table) (joined : Option Table)
    (settings : Settings) : Result (List Row) := do
  let source ← statement.sourceRows base joined
  let test : Filter := ⟨statement.condition, settings.filterOptions⟩
  let accepted ← Result.ofExecution (test.acceptedRows source)
  let shaped ← Result.ofExecution (statement.shapedRows settings accepted)
  return if statement.distinct then distinctRows shaped else shaped

/-- The first rows up to the limit, if there is one; a negative limit stands for zero. -/
def firstRows (statement : SelectStatement) (rows : List Row) : List Row :=
  match statement.limit with
  | some count => rows.take (max count.toInt 0).toNat
  | none => rows

end SelectStatement

/-! ## Plans of the stages -/

/-- Whether a plan without limits has these rows at its start, or fails when there are none. -/
structure Plan.Computes (plan : Plan) (rows : Option (List Row)) : Prop where
  unlimited : plan.Unlimited
  remaining_start : plan.remaining plan.start = rows

namespace SelectStatement

variable (statement : SelectStatement) (settings : Settings)

/-- The source is planned unless the second table is missing, and computes its rows. -/
lemma source_computes (base : Table) (joined : Option Table) :
    match statement.source base joined with
    | .ok plan => plan.Computes (statement.sourceRows base joined).toOption
    | .error _ => (statement.sourceRows base joined).toOption = none := by
  unfold source sourceRows
  cases statement.join with
  | none => exact ⟨trivial, rfl⟩
  | some clause =>
    cases joined with
    | none => rfl
    | some other =>
      refine ⟨⟨trivial, trivial⟩, ?_⟩
      simp only [clause.map_rows_tables, Result.toOption_ofExecution]
      rfl

variable {input : Plan} {rows : Option (List Row)}

/-- The plan of the filter computes the accepted rows. -/
lemma filtered_computes (h : input.Computes rows) :
    (statement.filtered settings input).Computes (rows.bind fun rows =>
      (Filter.acceptedRows ⟨statement.condition, settings.filterOptions⟩ rows).toOption) := by
  unfold filtered
  cases hc : statement.condition with
  | none =>
    simpa [Filter.acceptedRows_of_condition_none] using h
  | some condition =>
    refine ⟨h.unlimited, ?_⟩
    simp only [← Filter.keep_eq_acceptedRows, ← h.remaining_start]
    rfl

/-- The plan of the sorting computes the rows in order. -/
lemma sorted_computes (h : input.Computes rows) :
    (statement.sorted settings input).Computes
      (rows.bind fun rows => (statement.orderedRows settings rows).toOption) := by
  unfold sorted orderedRows
  cases statement.orderBy with
  | none => simpa using h
  | some keys =>
    refine ⟨h.unlimited, ?_⟩
    rw [← h.remaining_start]
    rfl

/-- The plan behind the filter computes the groups in order, or the ordered rows with the columns
that are asked for. -/
lemma shaped_computes (h : input.Computes rows) :
    (statement.shaped settings input).Computes
      (rows.bind fun rows => (statement.shapedRows settings rows).toOption) := by
  unfold shaped shapedRows
  cases statement.isGrouped with
  | true =>
    have hgroups : (Plan.traced (.aggregate input (statement.groupBy.getD [])
        statement.fields)).Computes (rows.bind fun rows =>
          (aggregateRows (statement.groupBy.getD []) statement.fields rows).toOption) := by
      refine ⟨h.unlimited, ?_⟩
      rw [← h.remaining_start]
      rfl
    simpa [Option.bind_assoc] using statement.sorted_computes settings hgroups
  | false =>
    have hordered := statement.sorted_computes settings h
    refine ⟨hordered.unlimited, ?_⟩
    simp only [Bool.false_eq_true, if_false, Result.toOption_bind, ← Option.bind_assoc]
    rw [← hordered.remaining_start]
    rfl

/-- The last plan before the limit computes the rows without those that repeat earlier ones. -/
lemma deduplicated_computes (h : input.Computes rows) :
    (statement.deduplicated input).Computes
      (rows.map fun rows => if statement.distinct then distinctRows rows else rows) := by
  unfold deduplicated
  cases statement.distinct with
  | false => simpa using h
  | true =>
    refine ⟨h.unlimited, ?_⟩
    rw [← h.remaining_start, Option.map_eq_bind]
    rfl

/-- The plan of a query, apart from its limit, computes the rows of the stages. -/
lemma unlimited_computes {base : Table} {joined : Option Table} {source : Plan}
    (h : source.Computes (statement.sourceRows base joined).toOption) :
    (statement.deduplicated (statement.shaped settings
      (statement.filtered settings source))).Computes
      (statement.stagedRows base joined settings).toOption := by
  have hstages := statement.deduplicated_computes
    (statement.shaped_computes settings (statement.filtered_computes settings h))
  simpa [stagedRows, Option.map_eq_bind, Option.bind_assoc, Function.comp_def] using hstages

/-- A query fails or gives its rows up to the limit as its plan without the limit does. -/
lemma rows_limited {plan : Plan} (h : plan.Computes rows) :
    (∀ found, rows = some found →
      (statement.limited plan).rows = .ok (statement.firstRows found)) ∧
    (statement.limit = none → (statement.limited plan).rows.toOption = rows) := by
  have hcollect := plan.toOption_collect h.unlimited plan.start
  rw [h.remaining_start] at hcollect
  unfold limited firstRows
  cases statement.limit with
  | none => exact ⟨fun found hfound => Result.eq_ok_of_toOption (hcollect.trans hfound),
      fun _ => hcollect⟩
  | some count =>
    refine ⟨fun found hfound => ?_, fun hlimit => by cases hlimit⟩
    have hdrain := Plan.drain_limit (plan.accounted h.unlimited) count.toInt.toNat 0
      (h.remaining_start.trans hfound) (Nat.le_refl _)
    have hcount : (max count.toInt 0).toNat = count.toInt.toNat := by omega
    exact hdrain.trans (by rw [Nat.sub_zero, ← hcount])

/-- Running the plan of a query gives the rows of its stages up to its limit; without a limit it
fails when a stage fails. -/
theorem rows_refines_stagedRows (statement : SelectStatement) (base : Table)
    (joined : Option Table) (settings : Settings) :
    (∀ found, statement.stagedRows base joined settings = .ok found →
      statement.rows base joined settings = .ok (statement.firstRows found)) ∧
    (∀ e, statement.limit = none → statement.stagedRows base joined settings = .error e →
      ∃ e', statement.rows base joined settings = .error e') := by
  have hsource := statement.source_computes base joined
  unfold rows plan
  cases hs : statement.source base joined with
  | error e =>
    rw [hs] at hsource
    refine ⟨fun found hfound => ?_, fun _ _ _ => ⟨e, rfl⟩⟩
    obtain ⟨e', he'⟩ := Result.exists_error_of_toOption hsource
    rw [stagedRows, he'] at hfound
    cases hfound
  | ok source =>
    rw [hs] at hsource
    obtain ⟨hok, hfail⟩ := statement.rows_limited
      (statement.unlimited_computes settings hsource)
    refine ⟨fun found hfound => hok found ?_, fun e hlimit he => ?_⟩
    · rw [hfound, Result.toOption_ok]
    · refine Result.exists_error_of_toOption ((hfail hlimit).trans ?_)
      rw [he, Result.toOption_error]

/-- Two of three rows are accepted and the limit leaves one of them; a condition on a column that
is not there fails. -/
theorem rows_refines_stagedRows_of_ages :
    let people : Table := .ofRows [
      .ofList [("name", .text "Ann"), ("age", .int64 30)],
      .ofList [("name", .text "Bob"), ("age", .int64 25)],
      .ofList [("name", .text "Cid"), ("age", .int64 41)]]
    let olderThan (field : String) (limit : Option Int64) : SelectStatement :=
      ⟨[.column "name"], "people", some (.compare ⟨field, .gt, .int64 26⟩), none, none, false, none,
        limit, false⟩
    (olderThan "age" (some 1)).rows people none {} = .ok [.ofList [("name", .text "Ann")]] ∧
      ∃ e, (olderThan "height" none).rows people none {} = .error e := by
  intro people olderThan
  have hages : (olderThan "age" (some 1)).stagedRows people none {} =
      .ok [.ofList [("name", .text "Ann")], .ofList [("name", .text "Cid")]] := rfl
  have hheights : (olderThan "height" none).stagedRows people none {} =
      .error (.execution (.missingField "height")) := rfl
  exact ⟨(rows_refines_stagedRows (olderThan "age" (some 1)) people none {}).1 _ hages,
    (rows_refines_stagedRows (olderThan "height" none) people none {}).2 _ rfl hheights⟩

end SelectStatement

end TableQuery
