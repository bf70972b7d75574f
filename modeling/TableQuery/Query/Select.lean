import TableQuery.Query.Plan

/-!
# Queries

The plan of a query: scan, join, filter; then either group and sort, or sort and project; then the
removal of repeated rows and the limit. Sorting comes before projection, so that rows can be sorted
by columns that are not selected.
-/

namespace TableQuery

namespace SelectStatement

/-- What a query starts from: a scan, or the join of two scans. A join needs its second table. -/
def source (statement : SelectStatement) (base : Table) (joined : Option Table) : Result Plan :=
  let scan (name : String) (table : Table) := Plan.traced (.scan name table.rows)
  match statement.join, joined with
  | none, _ => .ok (scan statement.table base)
  | some clause, none => .error (.store (.tableNotFound clause.table))
  | some clause, some other =>
    .ok (.traced (.join clause.kind
      (scan statement.table base) ⟨clause.leftKey.table, base.columns, clause.leftKey.column⟩
      (scan clause.table other) ⟨clause.rightKey.table, other.columns, clause.rightKey.column⟩))

/-- The plan that keeps the rows a condition accepts. -/
def filtered (statement : SelectStatement) (settings : Settings) (input : Plan) : Plan :=
  match statement.condition with
  | some condition => .traced (.filter input ⟨some condition, settings.filterOptions⟩)
  | none => input

/-- The plan that sorts if asked to. -/
def sorted (statement : SelectStatement) (settings : Settings) (input : Plan) : Plan :=
  match statement.orderBy with
  | some keys => .traced (.sort input keys settings.nullsFirst)
  | none => input

/-- The plan that shapes the result: grouped and sorted, or sorted and projected. -/
def shaped (statement : SelectStatement) (settings : Settings) (input : Plan) : Plan :=
  if statement.isGrouped then
    statement.sorted settings
      (.traced (.aggregate input (statement.groupBy.getD []) statement.fields))
  else
    .traced (.project (statement.sorted settings input) (projectedColumns? statement.fields))

/-- The plan that removes repeated rows if asked to. -/
def deduplicated (statement : SelectStatement) (input : Plan) : Plan :=
  if statement.distinct then .traced (.distinct input) else input

/-- The plan that stops after some rows if asked to; a negative number stands for zero. -/
def limited (statement : SelectStatement) (input : Plan) : Plan :=
  match statement.limit with
  | some count => .traced (.limit input count.toInt.toNat)
  | none => input

/-- The plan of a query over tables already fetched. -/
def plan (statement : SelectStatement) (base : Table) (joined : Option Table)
    (settings : Settings) : Result Plan := do
  let source ← statement.source base joined
  return statement.limited <| statement.deduplicated <| statement.shaped settings <|
    statement.filtered settings source

/-- The rows of a query over tables already fetched. -/
def rows (statement : SelectStatement) (base : Table) (joined : Option Table)
    (settings : Settings) : Result (List Row) := do
  (← statement.plan base joined settings).rows

end SelectStatement

end TableQuery
