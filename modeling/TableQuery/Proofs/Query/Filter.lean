import TableQuery.Proofs.Result

/-!
# Filters on lists of rows

A filter judges every row, and the first row that it cannot judge fails the whole list. Otherwise
`Filter.keep` gives the rows that it accepts, and it can be applied to the parts of a list one after
the other.
-/

namespace TableQuery

namespace Filter

/-- Whether a filter can judge a row and accepts it. -/
def isAccepted (filter : Filter) (row : Row) : Bool := filter.accepts row matches .ok true

/-- A filter that consists of one comparison judges by this comparison in both modes. -/
lemma accepts_compare (comparison : Comparison) (options : FilterOptions) (row : Row) :
    accepts ⟨some (.compare comparison), options⟩ row =
      comparison.holds options.ignoreCase row := by
  obtain ⟨mode, ignoreCase⟩ := options
  cases mode with
  | boolean => rfl
  | conjunctive =>
    change (comparison.holds ignoreCase row >>= fun holds =>
      if holds then Except.ok true else Except.ok false) = comparison.holds ignoreCase row
    cases comparison.holds ignoreCase row with
    | error e => rfl
    | ok holds => cases holds <;> rfl

/-- The rows that a filter accepts, after all of them have been judged. -/
def acceptedRows (filter : Filter) (rows : List Row) : Except ExecutionError (List Row) := do
  let verdicts ← rows.mapM filter.accepts
  return ((rows.zip verdicts).filter Prod.snd).map Prod.fst

/-- Judging the rows one by one keeps the accepted ones. -/
lemma keep_eq_acceptedRows (filter : Filter) (rows : List Row) :
    filter.keep rows = filter.acceptedRows rows := by
  induction rows with
  | nil => rfl
  | cons row rows ih =>
    simp only [keep, ih, acceptedRows, List.mapM_cons, bind_assoc, pure_bind]
    refine congrArg _ (funext fun accepted => congrArg _ (funext fun verdicts => ?_))
    cases accepted <;> rfl

/-- Without a condition all rows are kept. -/
lemma keep_of_condition_none {filter : Filter} (h : filter.condition = none) (rows : List Row) :
    filter.keep rows = .ok rows := by
  induction rows with
  | nil => rfl
  | cons row rows ih =>
    simp only [keep, accepts, h, ih]
    rfl

/-- Without a condition all rows are accepted. -/
lemma acceptedRows_of_condition_none {filter : Filter} (h : filter.condition = none)
    (rows : List Row) : filter.acceptedRows rows = .ok rows := by
  rw [← keep_eq_acceptedRows, keep_of_condition_none h]

/-- Two lists of rows are filtered one after the other. -/
lemma keep_append (filter : Filter) (front rest : List Row) :
    filter.keep (front ++ rest) = do
      let kept ← filter.keep front
      return kept ++ (← filter.keep rest) := by
  induction front with
  | nil => exact (bind_pure (filter.keep rest)).symm
  | cons row front ih =>
    simp only [List.cons_append, keep, ih, bind_assoc, pure_bind]
    refine congrArg _ (funext fun accepted => congrArg _ (funext fun kept => ?_))
    cases accepted <;> rfl

/-- The verdict on a row that can be judged. -/
lemma accepts_eq_ok {filter : Filter} {row : Row}
    (h : ∃ accepted, filter.accepts row = .ok accepted) :
    filter.accepts row = .ok (filter.isAccepted row) := by
  obtain ⟨accepted, h⟩ := h
  cases accepted <;> simp [isAccepted, h]

/-- When all rows can be judged the verdicts say which of them are accepted. -/
lemma mapM_accepts {filter : Filter} {rows : List Row}
    (h : ∀ row ∈ rows, ∃ accepted, filter.accepts row = .ok accepted) :
    rows.mapM filter.accepts = .ok (rows.map filter.isAccepted) :=
  Result.mapM_eq_ok fun row hrow => accepts_eq_ok (h row hrow)

/-- All rows of a list can be judged, or the first that cannot be judged is reported. -/
lemma mapM_accepts_cases (filter : Filter) (rows : List Row) :
    (rows.mapM filter.accepts = .ok (rows.map filter.isAccepted) ∧
      ∀ row ∈ rows, ∃ accepted, filter.accepts row = .ok accepted) ∨
    ∃ e, rows.mapM filter.accepts = .error e ∧ ∃ row ∈ rows, filter.accepts row = .error e := by
  cases hfirst : Result.firstError? filter.accepts rows with
  | some e =>
    refine .inr ⟨e, ?_, Result.exists_of_firstError? hfirst⟩
    rw [Result.mapM_eq, hfirst]
  | none =>
    have hjudged := Result.firstError?_eq_none_iff.mp hfirst
    exact .inl ⟨mapM_accepts hjudged, hjudged⟩

/-! ## Accepted and rejected items -/

section Verdicts

variable {α : Type} (verdict : α → Bool) (items : List α)

/-- Keeping the items whose verdict is positive keeps the accepted ones. -/
lemma map_filter_zip_map :
    ((items.zip (items.map verdict)).filter Prod.snd).map Prod.fst = items.filter verdict := by
  induction items with
  | nil => rfl
  | cons item items ih =>
    simp only [List.map_cons, List.zip_cons_cons, List.filter_cons]
    cases verdict item <;> simp [ih]

/-- Dropping the items whose verdict is positive keeps those with a negative one. -/
lemma filterMap_zip_map :
    (((items.map verdict).zip items).filterMap fun (accepted, item) =>
      if accepted then none else some item) = items.filter fun item => !verdict item := by
  induction items with
  | nil => rfl
  | cons item items ih =>
    simp only [List.map_cons, List.zip_cons_cons, List.filterMap_cons, List.filter_cons, ih]
    cases verdict item <;> rfl

/-- The items that are not kept are the accepted ones. -/
lemma length_sub_length_filter :
    items.length - (items.filter fun item => !verdict item).length = items.countP verdict := by
  have hall := items.length_eq_countP_add_countP verdict
  have hrest : (items.filter fun item => !verdict item).length =
      items.countP fun item => ¬ verdict item = true := by
    rw [← List.countP_eq_length_filter]
    simp
  rw [hrest]
  omega

end Verdicts

/-- The rows that a filter accepts are kept when all of them can be judged. -/
lemma keep_of_judged {filter : Filter} {rows : List Row}
    (h : ∀ row ∈ rows, ∃ accepted, filter.accepts row = .ok accepted) :
    filter.keep rows = .ok (rows.filter filter.isAccepted) := by
  rw [keep_eq_acceptedRows, acceptedRows, mapM_accepts h]
  exact congrArg Except.ok (map_filter_zip_map filter.isAccepted rows)

/-- Nothing is kept of the rows that a filter does not accept. -/
lemma keep_rejected {filter : Filter} {rows : List Row}
    (h : ∀ row ∈ rows, ∃ accepted, filter.accepts row = .ok accepted) :
    filter.keep (rows.filter fun row => !filter.isAccepted row) = .ok [] := by
  have hjudged : ∀ row ∈ rows.filter fun row => !filter.isAccepted row,
      ∃ accepted, filter.accepts row = .ok accepted := by
    intro row hrow
    exact h row (List.mem_filter.mp hrow).1
  rw [keep_of_judged hjudged, List.filter_eq_nil_iff.mpr]
  intro row hrow
  simpa using (List.mem_filter.mp hrow).2

/-- No rows are kept when one of them cannot be judged. -/
lemma keep_of_error {filter : Filter} {rows : List Row} {e : ExecutionError}
    (h : rows.mapM filter.accepts = .error e) : filter.keep rows = .error e := by
  rw [keep_eq_acceptedRows, acceptedRows, h]
  rfl

end Filter

end TableQuery
