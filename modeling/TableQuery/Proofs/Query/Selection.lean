import TableQuery.Proofs.Query.Filter
import TableQuery.Query.Select

/-!
# Selections

A selection asks for all columns of the rows of one table that a condition accepts. Its plan pulls
batches from a scan through a filter. What comes out are the rows that the filter keeps of the whole
table, and when a row cannot be judged, the error of the first such row (`rows_selection`), however
the scan cuts the table into batches.

The account of the pulls is exact: it also says which error a failing pull reports. It can be so
because a scan never fails, so that no second stage has an error of its own to report first.
-/

namespace TableQuery

namespace Pull

variable {σ : Type}

/-- What an answer says of the rows left before it and after it: the end means that nothing was
left, a batch is the front of what was left, and an error is the one that the rows fail with. -/
def Tells (pending : σ → Nat) (left : σ → Result (List Row)) (s : σ) : Pull × σ → Prop
  | (.ok none, _) => left s = .ok []
  | (.ok (some batch), s') => left s = (left s').map (batch ++ ·) ∧ pending s' < pending s
  | (.error e, _) => left s = .error e

variable {pull : σ → Pull × σ} {pending : σ → Nat} {left : σ → Result (List Row)}

/-- An answer also fits an earlier state from which the same rows are left. -/
lemma Tells.of_eq {s s' : σ} {answer : Pull × σ} (h : Tells pending left s' answer)
    (hleft : left s = left s') (hle : pending s' ≤ pending s) : Tells pending left s answer := by
  rcases answer with ⟨e | _ | batch, s''⟩
  · exact hleft.trans h
  · exact hleft.trans h
  · exact ⟨hleft.trans h.1, Nat.lt_of_lt_of_le h.2 hle⟩

/-- Draining a pull gives the rows that are left or fails as they do. -/
lemma drain_eq_left (hexhausted : ∀ s, pending s = 0 → left s = .ok [])
    (htells : ∀ s, Tells pending left s (pull s)) {bound : Nat} {s : σ} (hs : pending s ≤ bound) :
    (drain pull bound s).1 = left s := by
  induction bound generalizing s with
  | zero =>
    rw [hexhausted s (Nat.le_zero.mp hs)]
    rfl
  | succ bound ih =>
    have htold := htells s
    rcases hp : pull s with ⟨e | _ | batch, s'⟩
    · rw [hp] at htold
      simp only [drain, hp]
      exact htold.symm
    · rw [hp] at htold
      simp only [drain, hp]
      exact htold.symm
    · rw [hp] at htold
      obtain ⟨hleft, hlt⟩ := htold
      rw [hleft, ← ih (s := s') (by omega)]
      simp only [drain, hp]
      rcases drain pull bound s' with ⟨_ | rows, s''⟩ <;> rfl

end Pull

namespace Filter

/-- What is kept of the front of a list comes before what is kept of the rest. -/
lemma ofExecution_keep_append {filter : Filter} {front kept : List Row}
    (h : filter.keep front = .ok kept) (rest : List Row) :
    Result.ofExecution (filter.keep (front ++ rest)) =
      (Result.ofExecution (filter.keep rest)).map (kept ++ ·) := by
  rw [keep_append, h]
  cases filter.keep rest <;> rfl

/-- A failure at the front of a list is that of the whole list. -/
lemma keep_append_of_error {filter : Filter} {front : List Row} {e : ExecutionError}
    (h : filter.keep front = .error e) (rest : List Row) :
    filter.keep (front ++ rest) = .error e := by
  rw [keep_append, h]
  rfl

end Filter

namespace Plan

/-- A scan hands on the front of the rows that it has left, as long as there are any. -/
lemma next_scan (table : String) (rows : List Row) {state : List Row} (h : state ≠ []) :
    ∃ front back, (scan table rows).next state = (.ok (some front), back) ∧
      state = front ++ back ∧ back.length < state.length := by
  obtain ⟨row, rest, rfl⟩ := List.exists_cons_of_ne_nil h
  refine ⟨_, _, rfl, (List.take_append_drop batchSize (row :: rest)).symm, ?_⟩
  rw [List.length_drop, List.length_cons, batchSize]
  omega

/-- A scan gives the rows of its table. -/
lemma rows_scan (table : String) (rows : List Row) : (scan table rows).rows = .ok rows := by
  have hexhausted : ∀ state : List Row, state.length = 0 →
      (Except.ok state : Result (List Row)) = .ok [] := by
    intro state hstate
    rw [List.eq_nil_of_length_eq_zero hstate]
  have htells : ∀ state, Pull.Tells List.length .ok state ((scan table rows).next state) := by
    intro state
    by_cases h : state = []
    · rw [h]
      rfl
    · obtain ⟨front, back, hnext, hcut, hshorter⟩ := next_scan table rows h
      rw [hnext]
      exact ⟨congrArg Except.ok hcut, hshorter⟩
  exact Pull.drain_eq_left hexhausted htells (Nat.le_refl _)

/-- Pulling from a scan until a filter keeps something tells what it keeps of the rows left. -/
lemma tells_sift_scan (table : String) (rows : List Row) (test : Filter) {bound : Nat}
    {state : List Row} (hs : state.length ≤ bound) :
    let keep (_ : Unit) (batch : List Row) := (Result.ofExecution (test.keep batch), ())
    let found := Pull.sift (scan table rows).next keep bound state ()
    Pull.Tells List.length (fun state => Result.ofExecution (test.keep state)) state
      (found.1, found.2.1) := by
  intro keep found
  induction bound generalizing state with
  | zero =>
    obtain rfl := List.eq_nil_of_length_eq_zero (Nat.le_zero.mp hs)
    rfl
  | succ bound ih =>
    by_cases h : state = []
    · subst h
      rfl
    obtain ⟨front, back, hnext, hcut, hshorter⟩ := next_scan table rows h
    cases hkept : test.keep front with
    | error e =>
      have hfailed := Filter.keep_append_of_error hkept back
      rw [← hcut] at hfailed
      simp only [found, Pull.sift, hnext, keep, hkept]
      exact congrArg Result.ofExecution hfailed
    | ok kept =>
      have hleft := Filter.ofExecution_keep_append hkept back
      rw [← hcut] at hleft
      cases kept with
      | nil =>
        -- nothing of the batch is kept, and the next pull answers for this one
        have hskip : Result.ofExecution (test.keep state) =
            Result.ofExecution (test.keep back) := by
          rw [hleft]
          cases test.keep back <;> rfl
        simp only [found, Pull.sift, hnext, keep, hkept]
        have hback : back.length ≤ bound := by omega
        exact (ih hback).of_eq hskip (Nat.le_of_lt hshorter)
      | cons first others =>
        simp only [found, Pull.sift, hnext, keep, hkept]
        exact ⟨hleft, hshorter⟩

/-- A filtered scan gives the rows that the filter keeps of its table, and fails as the filter
does. -/
lemma rows_filter_scan (table : String) (rows : List Row) (test : Filter) :
    (filter (scan table rows) test).rows = Result.ofExecution (test.keep rows) := by
  have hexhausted : ∀ state : List Row, state.length = 0 →
      Result.ofExecution (test.keep state) = .ok [] := by
    intro state hstate
    rw [List.eq_nil_of_length_eq_zero hstate]
    rfl
  have htells : ∀ state, Pull.Tells List.length
      (fun state => Result.ofExecution (test.keep state)) state
      ((filter (scan table rows) test).next state) := by
    intro state
    exact tells_sift_scan table rows test (Nat.le_refl _)
  exact Pull.drain_eq_left hexhausted htells (Nat.le_refl _)

/-- Asking for all columns hands on every answer as it is. -/
lemma next_project_none (input : Plan) : (project input none).next = input.next := by
  funext state
  rcases hp : input.next state with ⟨e | _ | batch, state'⟩
  · simp only [next, hp]
  · simp only [next, hp]
  · simp only [next, hp]
    rfl

/-- Asking for all columns gives the rows of the input. -/
lemma rows_project_none (input : Plan) : (project input none).rows = input.rows := by
  unfold rows collect
  rw [next_project_none]
  rfl

end Plan

namespace SelectStatement

/-- The query for all columns of the rows of a table that a condition accepts. -/
def selection (table : String) (condition : Option Condition) : SelectStatement :=
  ⟨[.star], table, condition, none, none, false, none, none, false⟩

/-- A selection gives the rows that its condition keeps of the table, and fails with the error of
the first row that cannot be judged. -/
theorem rows_selection (table : String) (condition : Option Condition) (base : Table)
    (joined : Option Table) (settings : Settings) :
    (selection table condition).rows base joined settings =
      Result.ofExecution (Filter.keep ⟨condition, settings.filterOptions⟩ base.rows) := by
  cases condition with
  | none =>
    have hplan : (selection table none).rows base joined settings =
        (Plan.project (.traced (.scan table base.rows)) none).rows := rfl
    rw [hplan, Plan.rows_project_none, Filter.keep_of_condition_none rfl]
    exact Plan.rows_scan table base.rows
  | some condition =>
    have hplan : (selection table (some condition)).rows base joined settings =
        (Plan.project (.traced (.filter (.traced (.scan table base.rows))
          ⟨some condition, settings.filterOptions⟩)) none).rows := rfl
    rw [hplan, Plan.rows_project_none]
    exact Plan.rows_filter_scan table base.rows ⟨some condition, settings.filterOptions⟩

end SelectStatement

end TableQuery
