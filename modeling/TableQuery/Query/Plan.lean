import TableQuery.Query.Aggregate
import TableQuery.Query.Filter
import TableQuery.Query.Join
import TableQuery.Query.Sort

/-!
# Plans

A plan is a tree of operators. Rows are pulled from its root in batches: an operator pulls from its
input, works on the batch and hands it on, or pulls everything and hands on one batch. Each operator
has its own state, and a pull that fails leaves the state that it had reached, so what a later pull
gives is determined. `reset` brings every operator of the tree back to its start.
-/

namespace TableQuery

/-- A tree of operators. -/
inductive Plan where
  | scan (table : String) (rows : List Row)
  | filter (input : Plan) (filter : Filter)
  | project (input : Plan) (columns : Option (List String))
  | aggregate (input : Plan) (groupBy : List String) (fields : List SelectItem)
  | sort (input : Plan) (orderBy : List OrderKey) (nullsFirst : Bool)
  | distinct (input : Plan)
  | limit (input : Plan) (count : Nat)
  | traced (input : Plan)
  | join (kind : JoinKind) (left : Plan) (leftSide : JoinSide) (right : Plan)
      (rightSide : JoinSide)

/-- The answer to a pull: a batch of rows, or none at the end. -/
abbrev Pull := Result (Option (List Row))

/-- An answer that may be an evaluation error. -/
def Result.ofExecution {α : Type} (result : Except ExecutionError α) : Result α :=
  result.mapError Error.execution

namespace Pull

/-- Pulls everything that is left into one list, with at most `bound` pulls. -/
def drain {σ : Type} (pull : σ → Pull × σ) : Nat → σ → Result (List Row) × σ
  | 0, state => (.ok [], state)
  | bound + 1, state =>
    match pull state with
    | (.error e, state) => (.error e, state)
    | (.ok none, state) => (.ok [], state)
    | (.ok (some batch), state) =>
      match drain pull bound state with
      | (.ok rows, state) => (.ok (batch ++ rows), state)
      | (.error e, state) => (.error e, state)

/-- Pulls until something of a batch is kept, with at most `bound` pulls. -/
def sift {σ τ : Type} (pull : σ → Pull × σ) (keep : τ → List Row → Result (List Row) × τ) :
    Nat → σ → τ → Pull × σ × τ
  | 0, state, memory => (.ok none, state, memory)
  | bound + 1, state, memory =>
    match pull state with
    | (.error e, state) => (.error e, state, memory)
    | (.ok none, state) => (.ok none, state, memory)
    | (.ok (some batch), state) =>
      match keep memory batch with
      | (.error e, memory) => (.error e, state, memory)
      | (.ok [], memory) => sift pull keep bound state memory
      | (.ok kept, memory) => (.ok (some kept), state, memory)

end Pull

namespace Plan

/-- The number of rows in a full batch of a scan. -/
def batchSize : Nat := 1024

/-- The name of the operator at the root; a traced operator goes by the name of its input. -/
def name : Plan → String
  | scan .. => "scan"
  | filter .. => "filter"
  | project .. => "project"
  | aggregate .. => "aggregate"
  | sort .. => "sort"
  | distinct .. => "distinct"
  | limit .. => "limit"
  | traced input => input.name
  | join .. => "join"

/-- What the operators of a plan remember: a scan the rows that are left, an operator that hands on
one batch whether it is done, the removal of repeated rows the keys it has met, and a limit how many
rows it has handed on. -/
@[reducible] def State : Plan → Type
  | scan _ _ => List Row
  | filter input _ => input.State
  | project input _ => input.State
  | aggregate input _ _ => input.State × Bool
  | sort input _ _ => input.State × Bool
  | distinct input => input.State × Std.HashSet String
  | limit input _ => input.State × Nat
  | traced input => input.State
  | join _ left _ right _ => left.State × right.State × Bool

/-- The state before the first pull. -/
def start : (plan : Plan) → plan.State
  | scan _ rows => rows
  | filter input _ => input.start
  | project input _ => input.start
  | aggregate input _ _ => (input.start, false)
  | sort input _ _ => (input.start, false)
  | distinct input => (input.start, ∅)
  | limit input _ => (input.start, 0)
  | traced input => input.start
  | join _ left _ right _ => (left.start, right.start, false)

/-- At least the number of batches that are still to come. -/
def pending : (plan : Plan) → plan.State → Nat
  | scan _ _, rows => rows.length
  | filter input _, state => input.pending state
  | project input _, state => input.pending state
  | aggregate .., (_, done) => if done then 0 else 1
  | sort .., (_, done) => if done then 0 else 1
  | distinct input, (state, _) => input.pending state
  | limit input count, (state, emitted) => if count ≤ emitted then 0 else input.pending state
  | traced input, state => input.pending state
  | join .., (_, _, done) => if done then 0 else 1

/-- Pulls one batch. -/
def next : (plan : Plan) → plan.State → Pull × plan.State
  | scan _ _, rows =>
    if rows.isEmpty then (.ok none, rows)
    else (.ok (some (rows.take batchSize)), rows.drop batchSize)
  | filter input test, state =>
    let keep (_ : Unit) batch := (Result.ofExecution (test.keep batch), ())
    let (answer, state, _) := Pull.sift input.next keep (input.pending state) state ()
    (answer, state)
  | project input columns, state =>
    match input.next state with
    | (.ok (some batch), state) =>
      ((Result.ofExecution (projectRows columns batch)).map some, state)
    | other => other
  | aggregate input groupBy fields, (state, done) =>
    if done then (.ok none, state, done)
    else
      match Pull.drain input.next (input.pending state) state with
      | (.ok rows, state) =>
        ((Result.ofExecution (aggregateRows groupBy fields rows)).map some, state, true)
      | (.error e, state) => (.error e, state, true)
  | sort input orderBy nullsFirst, (state, done) =>
    if done then (.ok none, state, done)
    else
      match Pull.drain input.next (input.pending state) state with
      | (.ok rows, state) =>
        match sortRows orderBy nullsFirst rows with
        | .ok sorted => (.ok (some sorted), state, true)
        | .error e => (.error (.execution e), state, false)
      | (.error e, state) => (.error e, state, false)
  | distinct input, (state, seen) =>
    let keep seen batch :=
      let (kept, seen) := Index.keepNew Row.groupKey seen batch
      (.ok kept, seen)
    Pull.sift input.next keep (input.pending state) state seen
  | limit input count, (state, emitted) =>
    if count ≤ emitted then (.ok none, state, emitted)
    else
      match input.next state with
      | (.ok (some batch), state) =>
        let kept := batch.take (count - emitted)
        (.ok (some kept), state, emitted + kept.length)
      | (.ok none, state) => (.ok none, state, emitted)
      | (.error e, state) => (.error e, state, emitted)
  | traced input, state => input.next state
  | join kind left leftSide right rightSide, (leftState, rightState, done) =>
    if done then (.ok none, leftState, rightState, done)
    else
      match Pull.drain left.next (left.pending leftState) leftState with
      | (.error e, leftState) => (.error e, leftState, rightState, false)
      | (.ok leftRows, leftState) =>
        match Pull.drain right.next (right.pending rightState) rightState with
        | (.error e, rightState) => (.error e, leftState, rightState, false)
        | (.ok rightRows, rightState) =>
          match Join.rows kind leftSide leftRows rightSide rightRows with
          | .ok rows => (.ok (some rows), leftState, rightState, true)
          | .error e => (.error (.execution e), leftState, rightState, false)

/-- Brings every operator back to its start. -/
def reset : (plan : Plan) → plan.State → plan.State
  | scan _ rows, _ => rows
  | filter input _, state => input.reset state
  | project input _, state => input.reset state
  | aggregate input _ _, (state, _) => (input.reset state, false)
  | sort input _ _, (state, _) => (input.reset state, false)
  | distinct input, (state, _) => (input.reset state, ∅)
  | limit input _, (state, _) => (input.reset state, 0)
  | traced input, state => input.reset state
  | join _ left _ right _, (leftState, rightState, _) =>
    (left.reset leftState, right.reset rightState, false)

/-- Pulls all batches that are left into one list of rows. -/
def collect (plan : Plan) (state : plan.State) : Result (List Row) × plan.State :=
  Pull.drain plan.next (plan.pending state) state

/-- All rows of a plan. -/
def rows (plan : Plan) : Result (List Row) := (plan.collect plan.start).1

end Plan

end TableQuery
