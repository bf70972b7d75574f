import TableQuery.Proofs.Row
import TableQuery.Query.Filter

/-!
# Verdicts of conditions

On a row in which the fields of all comparisons resolve, each comparison has a verdict. Read as a
tree, a condition combines the verdicts as its connectives say (`holdsTree_eq_verdict`); read as a
list, its comparisons have to hold all together (`holdAll_eq_all`). Of a row it depends on nothing
but what its comparisons say (`holds_congr`).
-/

namespace TableQuery

namespace Comparison

/-- What a comparison says of a row in which its field resolves. -/
def verdict (ignoreCase : Bool) (row : Row) (comparison : Comparison) : Bool :=
  (row.value comparison.field).satisfies comparison.operator comparison.value ignoreCase

/-- The fields of some comparisons. -/
def fields (comparisons : List Comparison) : List String := comparisons.map Comparison.field

/-- A comparison whose field resolves has its verdict. -/
lemma holds_eq_verdict {comparisons : List Comparison} {row : Row}
    (h : row.Resolves (fields comparisons)) {comparison : Comparison}
    (hmem : comparison ∈ comparisons) (ignoreCase : Bool) :
    comparison.holds ignoreCase row = .ok (comparison.verdict ignoreCase row) := by
  rw [holds, h.lookup_eq (List.mem_map_of_mem hmem)]
  rfl

end Comparison

namespace Condition

open Comparison (fields)

/-! ## Trees -/

/-- The verdict of a condition, given those of its comparisons. -/
def verdict (judge : Comparison → Bool) : Condition → Bool
  | compare comparison => judge comparison
  | and left right => left.verdict judge && right.verdict judge
  | or left right => left.verdict judge || right.verdict judge

/-- Conjuncts that are joined from the left have to hold all together. -/
lemma verdict_foldl_and (judge : Comparison → Bool) (first : Condition)
    (conjuncts : List Condition) :
    (conjuncts.foldl and first).verdict judge = (first :: conjuncts).all (verdict judge) := by
  induction conjuncts generalizing first with
  | nil => simp
  | cons second conjuncts ih =>
    rw [List.foldl_cons, ih]
    simp [verdict, Bool.and_assoc]

/-- Of disjuncts that are joined from the left one has to hold. -/
lemma verdict_foldl_or (judge : Comparison → Bool) (first : Condition)
    (disjuncts : List Condition) :
    (disjuncts.foldl or first).verdict judge = (first :: disjuncts).any (verdict judge) := by
  induction disjuncts generalizing first with
  | nil => simp
  | cons second disjuncts ih =>
    rw [List.foldl_cons, ih]
    simp [verdict, Bool.or_assoc]

variable {row : Row}

/-- Read as a tree, a condition has the verdict that its connectives make of the others. -/
lemma holdsTree_eq_verdict {condition : Condition} (h : row.Resolves (fields condition.comparisons))
    (ignoreCase : Bool) :
    condition.holdsTree ignoreCase row =
      .ok (condition.verdict (Comparison.verdict ignoreCase row)) := by
  induction condition with
  | compare comparison => exact Comparison.holds_eq_verdict h List.mem_cons_self ignoreCase
  | and left right ihleft ihright =>
    have hleft := h.mono (List.map_subset _ (List.subset_append_left _ _))
    have hright := h.mono (List.map_subset _ (List.subset_append_right _ _))
    rw [holdsTree, ihleft hleft, ihright hright]
    rfl
  | or left right ihleft ihright =>
    have hleft := h.mono (List.map_subset _ (List.subset_append_left _ _))
    have hright := h.mono (List.map_subset _ (List.subset_append_right _ _))
    rw [holdsTree, ihleft hleft, ihright hright]
    rfl

/-! ## Lists -/

/-- Read as a list, comparisons have to hold all together. -/
lemma holdAll_eq_all {comparisons : List Comparison} (h : row.Resolves (fields comparisons))
    (ignoreCase : Bool) :
    holdAll ignoreCase row comparisons =
      .ok (comparisons.all (Comparison.verdict ignoreCase row)) := by
  induction comparisons with
  | nil => rfl
  | cons comparison comparisons ih =>
    have hrest := h.mono (List.map_subset _ (List.subset_cons_self comparison comparisons))
    rw [holdAll, Comparison.holds_eq_verdict h List.mem_cons_self, ih hrest, List.all_cons]
    cases comparison.verdict ignoreCase row <;> rfl

/-! ## Rows that are judged alike -/

variable {other : Row} {condition : Condition} {options : FilterOptions} {ignoreCase : Bool}

/-- Read as a tree, a condition depends on what its comparisons say of the row only. -/
lemma holdsTree_congr (h : ∀ comparison ∈ condition.comparisons,
      comparison.holds ignoreCase row = comparison.holds ignoreCase other) :
    condition.holdsTree ignoreCase row = condition.holdsTree ignoreCase other := by
  induction condition with
  | compare comparison => exact h comparison List.mem_cons_self
  | and left right ihleft ihright =>
    rw [holdsTree, holdsTree, ihleft fun c hc => h c (List.mem_append_left _ hc),
      ihright fun c hc => h c (List.mem_append_right _ hc)]
  | or left right ihleft ihright =>
    rw [holdsTree, holdsTree, ihleft fun c hc => h c (List.mem_append_left _ hc),
      ihright fun c hc => h c (List.mem_append_right _ hc)]

/-- Read as a list, comparisons depend on what each of them says of the row only. -/
lemma holdAll_congr {comparisons : List Comparison} (h : ∀ comparison ∈ comparisons,
      comparison.holds ignoreCase row = comparison.holds ignoreCase other) :
    holdAll ignoreCase row comparisons = holdAll ignoreCase other comparisons := by
  induction comparisons with
  | nil => rfl
  | cons comparison comparisons ih =>
    rw [holdAll, holdAll, h comparison List.mem_cons_self,
      ih fun c hc => h c (List.mem_cons_of_mem comparison hc)]

/-- A condition says the same of two rows of which all its comparisons say the same. -/
lemma holds_congr (h : ∀ comparison ∈ condition.comparisons,
      comparison.holds options.ignoreCase row = comparison.holds options.ignoreCase other) :
    condition.holds options row = condition.holds options other := by
  unfold holds
  cases options.mode with
  | boolean => exact holdsTree_congr h
  | conjunctive => exact holdAll_congr h

/-! ## Fields that have to resolve -/

/-- The field of a comparison that gives an answer resolves. -/
lemma resolves_of_comparison_holds {comparison : Comparison} {accepted : Bool}
    (h : comparison.holds ignoreCase row = .ok accepted) :
    row.Resolves (fields [comparison]) := by
  intro field hfield
  obtain rfl := List.mem_singleton.mp hfield
  obtain ⟨value, hvalue, -⟩ := Result.bind_eq_ok h
  exact ⟨value, hvalue⟩

/-- A condition that has a verdict on a row, read as a tree, has looked up all its fields. -/
lemma resolves_of_holdsTree {accepted : Bool}
    (h : condition.holdsTree ignoreCase row = .ok accepted) :
    row.Resolves (fields condition.comparisons) := by
  induction condition generalizing accepted with
  | compare comparison => exact resolves_of_comparison_holds h
  | and left right ihleft ihright =>
    rw [holdsTree] at h
    obtain ⟨l, hleft, h⟩ := Result.bind_eq_ok h
    obtain ⟨r, hright, -⟩ := Result.bind_eq_ok h
    rw [comparisons, fields, List.map_append]
    exact (ihleft hleft).append (ihright hright)
  | or left right ihleft ihright =>
    rw [holdsTree] at h
    obtain ⟨l, hleft, h⟩ := Result.bind_eq_ok h
    obtain ⟨r, hright, -⟩ := Result.bind_eq_ok h
    rw [comparisons, fields, List.map_append]
    exact (ihleft hleft).append (ihright hright)

/-- Comparisons that hold of a row one after the other have looked up all their fields. -/
lemma resolves_of_holdAll {comparisons : List Comparison}
    (h : holdAll ignoreCase row comparisons = .ok true) : row.Resolves (fields comparisons) := by
  induction comparisons with
  | nil =>
    intro field hfield
    cases hfield
  | cons comparison comparisons ih =>
    rw [holdAll] at h
    obtain ⟨accepted, hfirst, h⟩ := Result.bind_eq_ok h
    cases accepted with
    | false => cases h
    | true => exact (resolves_of_comparison_holds hfirst).append (ih h)

/-- All fields of a condition resolve in a row that it accepts. In a row that it does not accept
they need not: a list of comparisons is read up to the first that does not hold. -/
lemma resolves_of_holds (h : condition.holds options row = .ok true) :
    row.Resolves (fields condition.comparisons) := by
  unfold holds at h
  cases hmode : options.mode with
  | boolean =>
    rw [hmode] at h
    exact resolves_of_holdsTree h
  | conjunctive =>
    rw [hmode] at h
    exact resolves_of_holdAll h

/-- A condition has a verdict on a row in which all its fields resolve. -/
lemma exists_holds_of_resolves (h : row.Resolves (fields condition.comparisons)) :
    ∃ accepted, condition.holds options row = .ok accepted := by
  unfold holds
  cases options.mode with
  | boolean => exact ⟨_, holdsTree_eq_verdict h options.ignoreCase⟩
  | conjunctive => exact ⟨_, holdAll_eq_all h options.ignoreCase⟩

end Condition

end TableQuery
