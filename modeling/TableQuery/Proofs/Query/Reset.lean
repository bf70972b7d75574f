import Mathlib.Tactic.Common
import TableQuery.Query.Plan

/-!
# Plans run again

A plan can be pulled from and reset in any order. Each operator clears all that it remembers when it
is reset, whatever the pulls before have left there, those that failed included, so the state of the
whole tree is the one that it was built with (`reset_eq_start`). What is answered after a reset is
therefore what a newly built plan answers (`answers_after_reset`).
-/

namespace TableQuery

namespace Plan

/-- What can be asked of the root of a plan: the next batch, or to start again. -/
inductive Call where
  | next
  | reset
  deriving DecidableEq

/-- The answers to a list of calls, one for each pull, and the state after them. -/
def run (plan : Plan) : List Call → plan.State → List Pull × plan.State
  | [], state => ([], state)
  | .next :: calls, state =>
    let (answer, state) := plan.next state
    let (answers, last) := plan.run calls state
    (answer :: answers, last)
  | .reset :: calls, state => plan.run calls (plan.reset state)

/-- Resetting a plan brings it to its start from every state. -/
theorem reset_eq_start (plan : Plan) (state : plan.State) : plan.reset state = plan.start := by
  induction plan with
  | scan table rows => rfl
  | filter input test ih => exact ih state
  | project input columns ih => exact ih state
  | aggregate input groupBy fields ih => exact congrArg (·, false) (ih state.1)
  | sort input orderBy nullsFirst ih => exact congrArg (·, false) (ih state.1)
  | distinct input ih => exact congrArg (·, ∅) (ih state.1)
  | limit input count ih => exact congrArg (·, 0) (ih state.1)
  | traced input ih => exact ih state
  | join kind left leftSide right rightSide ihl ihr =>
    obtain ⟨leftState, rightState, done⟩ := state
    rw [reset, start, ihl leftState, ihr rightState]

/-- Two lists of calls are answered one after the other. -/
lemma run_append (plan : Plan) (earlier later : List Call) (state : plan.State) :
    plan.run (earlier ++ later) state =
      ((plan.run earlier state).1 ++ (plan.run later (plan.run earlier state).2).1,
        (plan.run later (plan.run earlier state).2).2) := by
  induction earlier generalizing state with
  | nil => rfl
  | cons call earlier ih =>
    cases call with
    | next => simp only [List.cons_append, run, ih]
    | reset => exact ih (plan.reset state)

/-- After a reset a plan answers as a newly built one does, whatever was asked before and however it
was answered. -/
theorem answers_after_reset (plan : Plan) (earlier later : List Call) :
    (plan.run (earlier ++ .reset :: later) plan.start).1 =
      (plan.run earlier plan.start).1 ++ (plan.run later plan.start).1 := by
  rw [run_append, run, reset_eq_start]

end Plan

end TableQuery
