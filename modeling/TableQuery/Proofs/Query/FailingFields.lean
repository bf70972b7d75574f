import TableQuery.Proofs.Query.Verdicts

/-!
# Fields that cannot be looked up

Read as a tree, a condition looks up the fields of all its comparisons in the order written, and the
first that cannot be looked up fails it, whatever the others say. Read as a list, its comparisons
are looked at up to the first that does not hold only, so a field that stands behind it may be
missing without notice (`exists_failing_field_unnoticed`). `holds_fails_iff` says when a condition
fails, and with which error; a row in which some field cannot be looked up is accepted in neither
mode.
-/

namespace TableQuery

/-- The first of some comparisons whose field cannot be looked up in a row: the comparisons before
it, and the error of its lookup. -/
def Row.FirstFailure (row : Row) (comparisons before : List Comparison) (e : ExecutionError) :
    Prop :=
  ∃ comparison after, comparisons = before ++ comparison :: after ∧
    row.lookup comparison.field = .error e ∧ row.Resolves (Comparison.fields before)

/-- A comparison fails as the lookup of its field does. -/
lemma Comparison.holds_of_error {comparison : Comparison} {row : Row} {e : ExecutionError}
    (h : row.lookup comparison.field = .error e) (ignoreCase : Bool) :
    comparison.holds ignoreCase row = .error e := by
  rw [holds, h]
  rfl

namespace Row

open Comparison (fields)

variable {row : Row} {comparisons others before : List Comparison} {e : ExecutionError}

/-- Where a field cannot be looked up there is a first one. -/
lemma exists_firstFailure {comparison : Comparison} (hmem : comparison ∈ comparisons)
    (h : row.lookup comparison.field = .error e) :
    ∃ before e', row.FirstFailure comparisons before e' := by
  induction comparisons with
  | nil => cases hmem
  | cons first rest ih =>
    rcases hfirst : row.lookup first.field with e' | value
    · exact ⟨[], e', first, rest, rfl, hfirst, List.forall_mem_nil _⟩
    · rcases List.mem_cons.mp hmem with rfl | hmem
      · rw [hfirst] at h
        cases h
      · obtain ⟨before, e', failing, after, rfl, herror, hbefore⟩ := ih hmem
        refine ⟨first :: before, e', failing, after, rfl, herror, ?_⟩
        exact List.forall_mem_cons.mpr ⟨⟨value, hfirst⟩, hbefore⟩

/-- The first failure in two lists is in the first of them, or there is none in that one. -/
lemma FirstFailure.of_append (h : row.FirstFailure (comparisons ++ others) before e) :
    row.FirstFailure comparisons before e ∨
    row.Resolves (fields comparisons) ∧ ∃ between, row.FirstFailure others between e := by
  obtain ⟨failing, after, hsplit, herror, hbefore⟩ := h
  rcases List.append_eq_append_iff.mp hsplit with ⟨between, rfl, hothers⟩ | ⟨tail, rfl, htail⟩
  · rw [fields, List.map_append] at hbefore
    refine .inr ⟨hbefore.mono (List.subset_append_left _ _), between, failing, after, hothers,
      herror, hbefore.mono (List.subset_append_right _ _)⟩
  · rcases List.cons_eq_append_iff.mp htail with ⟨rfl, rfl⟩ | ⟨rest, rfl, -⟩
    · rw [List.append_nil]
      exact .inr ⟨hbefore, [], failing, after, rfl, herror, List.forall_mem_nil _⟩
    · exact .inl ⟨failing, rest, rfl, herror, hbefore⟩

/-- The comparisons before the first failure can all be judged. -/
lemma FirstFailure.all_hold_iff (h : row.FirstFailure comparisons before e) (ignoreCase : Bool) :
    (∀ earlier ∈ before, earlier.holds ignoreCase row = .ok true) ↔
      before.all (Comparison.verdict ignoreCase row) = true := by
  obtain ⟨failing, after, -, -, hbefore⟩ := h
  rw [List.all_eq_true]
  refine forall₂_congr fun earlier hmem => ?_
  rw [Comparison.holds_eq_verdict hbefore hmem, Except.ok.injEq]

end Row

namespace Condition

open Comparison (fields)

variable {row : Row} {before : List Comparison} {e : ExecutionError}

/-- Two conditions that are judged one after the other fail with the first failure in both. -/
lemma both_of_firstFailure {left right : Condition} {ignoreCase : Bool}
    (combine : Bool → Bool → Bool)
    (hleft : ∀ {before}, row.FirstFailure left.comparisons before e →
      left.holdsTree ignoreCase row = .error e)
    (hright : ∀ {before}, row.FirstFailure right.comparisons before e →
      right.holdsTree ignoreCase row = .error e)
    (h : row.FirstFailure (left.comparisons ++ right.comparisons) before e) :
    (do
      let l ← left.holdsTree ignoreCase row
      let r ← right.holdsTree ignoreCase row
      return combine l r) = .error e := by
  rcases h.of_append with hfirst | ⟨hresolves, between, hsecond⟩
  · rw [hleft hfirst]
    rfl
  · rw [holdsTree_eq_verdict hresolves, hright hsecond]
    rfl

/-- Read as a tree, a condition fails with its first failure. -/
lemma holdsTree_of_firstFailure {condition : Condition}
    (h : row.FirstFailure condition.comparisons before e) (ignoreCase : Bool) :
    condition.holdsTree ignoreCase row = .error e := by
  induction condition generalizing before with
  | compare comparison =>
    obtain ⟨failing, after, hsplit, herror, -⟩ := h
    have hmem : failing ∈ (compare comparison).comparisons :=
      hsplit ▸ List.mem_append_right before List.mem_cons_self
    obtain rfl := List.mem_singleton.mp hmem
    exact Comparison.holds_of_error herror ignoreCase
  | and left right ihleft ihright => exact both_of_firstFailure (· && ·) ihleft ihright h
  | or left right ihleft ihright => exact both_of_firstFailure (· || ·) ihleft ihright h

/-- Read as a list, comparisons fail with their first failure if those before it all hold, and are
answered by the first that does not hold otherwise. -/
lemma holdAll_of_firstFailure {comparisons : List Comparison}
    (h : row.FirstFailure comparisons before e) (ignoreCase : Bool) :
    holdAll ignoreCase row comparisons =
      if before.all (Comparison.verdict ignoreCase row) then .error e else .ok false := by
  obtain ⟨failing, after, rfl, herror, hbefore⟩ := h
  induction before with
  | nil =>
    rw [List.nil_append, holdAll, Comparison.holds_of_error herror]
    rfl
  | cons first before ih =>
    have hrest := hbefore.mono (List.map_subset _ (List.subset_cons_self first before))
    rw [List.cons_append, holdAll, Comparison.holds_eq_verdict hbefore List.mem_cons_self,
      ih hrest, List.all_cons]
    cases first.verdict ignoreCase row <;> rfl

variable {condition : Condition} {options : FilterOptions}

/-- With a first failure, a condition fails unless it is read as a list and a comparison before the
failure does not hold. -/
lemma holds_of_firstFailure (h : row.FirstFailure condition.comparisons before e) :
    condition.holds options row =
      if options.mode = .boolean ∨
          ∀ earlier ∈ before, earlier.holds options.ignoreCase row = .ok true then .error e
      else .ok false := by
  unfold holds
  rcases options.mode with _ | _
  · rw [if_pos (.inl rfl)]
    exact holdsTree_of_firstFailure h options.ignoreCase
  · simp only [h.all_hold_iff, reduceCtorEq, false_or]
    exact holdAll_of_firstFailure h options.ignoreCase

/-- A condition that fails has a first failure. -/
lemma exists_firstFailure_of_fails (h : condition.holds options row = .error e) :
    ∃ before e', row.FirstFailure condition.comparisons before e' := by
  by_contra hnone
  have hresolves : row.Resolves (fields condition.comparisons) := by
    intro field hfield
    obtain ⟨comparison, hmem, rfl⟩ := List.mem_map.mp hfield
    rcases hlookup : row.lookup comparison.field with e' | value
    · exact absurd (Row.exists_firstFailure hmem hlookup) hnone
    · exact ⟨value, rfl⟩
  obtain ⟨accepted, haccepted⟩ : ∃ accepted, condition.holds options row = .ok accepted :=
    exists_holds_of_resolves hresolves
  rw [haccepted] at h
  cases h

/-- A condition fails with the error of the first of its fields that cannot be looked up, if it is
read as a tree or the comparisons before that field all hold. So, read as a tree, it fails when any
of its fields cannot be looked up. In neither mode a row is accepted in which one cannot. -/
theorem holds_fails_iff (condition : Condition) (options : FilterOptions) (row : Row) :
    (∀ e, condition.holds options row = .error e ↔
      ∃ before, row.FirstFailure condition.comparisons before e ∧
        (options.mode = .boolean ∨
          ∀ earlier ∈ before, earlier.holds options.ignoreCase row = .ok true)) ∧
    (options.mode = .boolean →
      ((∃ e, condition.holds options row = .error e) ↔
        ∃ comparison ∈ condition.comparisons, ∃ e, row.lookup comparison.field = .error e)) ∧
    ∀ comparison ∈ condition.comparisons, ∀ e, row.lookup comparison.field = .error e →
      condition.holds options row ≠ .ok true := by
  refine ⟨fun e => ⟨fun h => ?_, ?_⟩, fun hmode => ⟨?_, ?_⟩, ?_⟩
  · obtain ⟨before, e', hfirst⟩ := exists_firstFailure_of_fails h
    rw [holds_of_firstFailure hfirst] at h
    split at h
    · rename_i hreached
      obtain rfl := Except.error.inj h
      exact ⟨before, hfirst, hreached⟩
    · cases h
  · rintro ⟨before, hfirst, hreached⟩
    rw [holds_of_firstFailure hfirst, if_pos hreached]
  · rintro ⟨e, h⟩
    obtain ⟨before, e', failing, after, hsplit, herror, -⟩ := exists_firstFailure_of_fails h
    refine ⟨failing, ?_, e', herror⟩
    rw [hsplit]
    exact List.mem_append_right before List.mem_cons_self
  · rintro ⟨comparison, hmem, e, herror⟩
    obtain ⟨before, e', hfirst⟩ := Row.exists_firstFailure hmem herror
    exact ⟨e', by rw [holds_of_firstFailure hfirst, if_pos (.inl hmode)]⟩
  · -- an accepted row has looked up every field, those behind the first failure too
    intro comparison hmem e herror haccepted
    obtain ⟨value, hvalue⟩ := resolves_of_holds haccepted _ (List.mem_map_of_mem hmem)
    rw [herror] at hvalue
    cases hvalue

/-- Behind a comparison that holds, a missing field fails a list of comparisons, and behind one that
does not hold, it fails a tree. -/
theorem holds_fails_iff_of_missing :
    let row := Row.ofList [("x", .int64 1)]
    let isOne (field : String) : Comparison := ⟨field, .eq, .int64 1⟩
    let isTwo : Comparison := ⟨"x", .eq, .int64 2⟩
    let tree := or (compare (isOne "x")) (and (compare (isOne "y")) (compare (isOne "z")))
    tree.holds ⟨.conjunctive, false⟩ row = .error (.missingField "y") ∧
      ∃ e, (and (compare isTwo) (compare (isOne "y"))).holds {} row = .error e := by
  intro row isOne isTwo tree
  obtain ⟨hfails, -, -⟩ := holds_fails_iff tree ⟨.conjunctive, false⟩ row
  obtain ⟨-, htree, -⟩ := holds_fails_iff (and (compare isTwo) (compare (isOne "y"))) {} row
  have hmissing : row.lookup "y" = .error (.missingField "y") := rfl
  have hfirst : row.FirstFailure tree.comparisons [isOne "x"] (.missingField "y") :=
    ⟨isOne "y", [isOne "z"], rfl, hmissing, by decide⟩
  refine ⟨(hfails _).mpr ⟨_, hfirst, .inr ?_⟩, (htree rfl).mpr ?_⟩
  · intro earlier hmem
    rw [List.mem_singleton.mp hmem]
    rfl
  · exact ⟨isOne "y", by decide, .missingField "y", hmissing⟩

/-- A missing field behind a comparison that does not hold goes unnoticed in a list of comparisons,
but not in a tree. -/
theorem exists_failing_field_unnoticed :
    let row := Row.ofList [("x", .int64 1)]
    let condition := and (compare ⟨"x", .eq, .int64 2⟩) (compare ⟨"y", .eq, .int64 1⟩)
    row.lookup "y" = .error (.missingField "y") ∧
    condition.holds ⟨.conjunctive, false⟩ row = .ok false ∧
    condition.holds ⟨.boolean, false⟩ row = .error (.missingField "y") := by
  exact ⟨rfl, rfl, rfl⟩

end Condition

end TableQuery
