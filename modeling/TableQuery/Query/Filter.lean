import TableQuery.Row
import TableQuery.Settings
import TableQuery.Sql.Statement
import TableQuery.Text.Pattern

/-!
# Filters

Whether a row meets a condition. A comparison with an empty cell on either side never holds. A
condition is read as the tree it is, where both sides of a connective are looked up even if one
decides; or all its comparisons have to hold, and the first that does not settles the matter.
-/

namespace TableQuery

/-- What a comparison operator says of an order. -/
def ComparisonOperator.accepts : ComparisonOperator → Ordering → Bool
  | eq, order => order == .eq
  | ne, order => order != .eq
  | gt, order => order == .gt
  | lt, order => order == .lt
  | ge, order => order != .lt
  | le, order => order != .gt
  | like, _ => false

/-- Whether a comparison holds between two values. -/
def Value.satisfies (actual : Value) (operator : ComparisonOperator) (expected : Value)
    (ignoreCase : Bool) : Bool :=
  if actual.isNull || expected.isNull then false
  else if operator = .like then Text.matchesPattern actual.toText expected.toText ignoreCase
  else
    match actual.compare? expected with
    | some order => operator.accepts order
    | none => false

/-- How conditions are read. -/
structure FilterOptions where
  mode : ConditionMode := .boolean
  ignoreCase : Bool := false
  deriving DecidableEq

/-- The part of the settings that conditions depend on. -/
def Settings.filterOptions (settings : Settings) : FilterOptions :=
  ⟨settings.conditionMode, settings.ignoreCase⟩

/-- Whether a row meets one comparison. -/
def Comparison.holds (comparison : Comparison) (ignoreCase : Bool) (row : Row) :
    Except ExecutionError Bool := do
  let actual ← row.lookup comparison.field
  return actual.satisfies comparison.operator comparison.value ignoreCase

namespace Condition

/-- Whether a row meets a condition read as a tree. -/
def holdsTree (ignoreCase : Bool) (row : Row) : Condition → Except ExecutionError Bool
  | compare comparison => comparison.holds ignoreCase row
  | and left right => do
    let l ← left.holdsTree ignoreCase row
    let r ← right.holdsTree ignoreCase row
    return l && r
  | or left right => do
    let l ← left.holdsTree ignoreCase row
    let r ← right.holdsTree ignoreCase row
    return l || r

/-- Whether a row meets all of a list of comparisons, up to the first that does not hold. -/
def holdAll (ignoreCase : Bool) (row : Row) : List Comparison → Except ExecutionError Bool
  | [] => .ok true
  | comparison :: rest => do
    if ← comparison.holds ignoreCase row then holdAll ignoreCase row rest else return false

/-- Whether a row meets a condition. -/
def holds (condition : Condition) (options : FilterOptions) (row : Row) :
    Except ExecutionError Bool :=
  match options.mode with
  | .boolean => condition.holdsTree options.ignoreCase row
  | .conjunctive => holdAll options.ignoreCase row condition.comparisons

end Condition

/-- A condition, if any, with the way to read it. Without a condition every row is accepted. -/
structure Filter where
  condition : Option Condition
  options : FilterOptions

namespace Filter

/-- Accepts every row. -/
def all : Filter := ⟨none, {}⟩

/-- Whether a filter accepts a row. -/
def accepts (filter : Filter) (row : Row) : Except ExecutionError Bool :=
  match filter.condition with
  | some condition => condition.holds filter.options row
  | none => .ok true

/-- The rows that a filter accepts. The first row that cannot be judged fails the whole list. -/
def keep (filter : Filter) : List Row → Except ExecutionError (List Row)
  | [] => .ok []
  | row :: rest => do
    let accepted ← filter.accepts row
    let kept ← filter.keep rest
    return if accepted then row :: kept else kept

end Filter

end TableQuery
