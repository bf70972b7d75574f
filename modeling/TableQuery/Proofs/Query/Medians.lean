import Mathlib.Data.List.Sort
import TableQuery.Proofs.Query.Sums

/-!
# Medians

The median of a column is the middle one of the numbers that its values read as, or the mean of the
two in the middle (`IsMedian`). Numbers that are level in the total order are the same, so that the
sorted numbers do not depend on the order of the rows, and neither does the median
(`aggregateRows_median_perm`). Of an odd number of numbers it is one, with half of them or more on
either side (`InMiddle`).
-/

namespace TableQuery

namespace Binary64

/-- Whether a number is not above another one in the total order. -/
def atMost (x y : Binary64) : Bool := x.totalCompare y != .gt

/-- One number is at most another exactly when its rank is. -/
lemma atMost_iff {x y : Binary64} : x.atMost y = true ↔ x.rank ≤ y.rank := by
  rw [atMost, totalCompare_eq, bne_iff_ne, ne_eq, ← compare_le_iff_le]

/-- Every number is at most itself. -/
lemma atMost_refl (x : Binary64) : x.atMost x = true := atMost_iff.mpr le_rfl

/-- Sorted numbers ascend in the total order. -/
lemma pairwise_mergeSort_atMost (numbers : List Binary64) :
    (numbers.mergeSort atMost).Pairwise fun x y => x.atMost y = true := by
  refine List.pairwise_mergeSort ?_ ?_ numbers
  · intro x y z
    simp only [atMost_iff]
    exact le_trans
  · intro x y
    simp only [Bool.or_eq_true, atMost_iff]
    exact le_total _ _

/-- The order of some numbers does not matter to their sorting. -/
lemma mergeSort_atMost_perm {numbers others : List Binary64} (h : others.Perm numbers) :
    others.mergeSort atMost = numbers.mergeSort atMost := by
  refine List.Perm.eq_of_pairwise ?_ (pairwise_mergeSort_atMost others)
    (pairwise_mergeSort_atMost numbers) ?_
  · intro x y _ _ hxy hyx
    exact rank_injective (le_antisymm (atMost_iff.mp hxy) (atMost_iff.mp hyx))
  · exact (List.mergeSort_perm _ _).trans (h.trans (List.mergeSort_perm _ _).symm)

end Binary64

namespace AggregateCall

variable {numbers : List Binary64} {value : Value} {column : String} {rows : List Row}

/-! ## The middle of some numbers -/

/-- A value is the median of some numbers: empty if there are none, the middle one of an odd number
of them, and the mean of the two in the middle of an even number. -/
inductive IsMedian (numbers : List Binary64) : Value → Prop
  | empty (h : numbers = []) : IsMedian numbers .null
  | odd (x : Binary64) (below above : List Binary64) (hperm : numbers.Perm (below ++ x :: above))
      (hlength : below.length = above.length) (hbelow : ∀ y ∈ below, y.atMost x = true)
      (habove : ∀ y ∈ above, x.atMost y = true) : IsMedian numbers (.float64 x)
  | even (lower upper : Binary64) (below above : List Binary64)
      (hperm : numbers.Perm (below ++ lower :: upper :: above))
      (hlength : below.length = above.length) (hbelow : ∀ y ∈ below, y.atMost lower = true)
      (hmiddle : lower.atMost upper = true) (habove : ∀ y ∈ above, upper.atMost y = true) :
      IsMedian numbers (.float64 ((lower + upper) / .ofInt 2))

/-- A list is split at any place that it has. -/
lemma exists_split {sorted : List Binary64} {i : ℕ} {x : Binary64} (h : sorted[i]? = some x) :
    ∃ below above, sorted = below ++ x :: above ∧ below.length = i := by
  obtain ⟨hi, rfl⟩ := List.getElem?_eq_some_iff.mp h
  refine ⟨sorted.take i, sorted.drop (i + 1), ?_, ?_⟩
  · rw [List.getElem_cons_drop, List.take_append_drop]
  · exact List.length_take_of_le hi.le

/-- A list is split at any two neighbouring places that it has. -/
lemma exists_split_pair {sorted : List Binary64} {i : ℕ} {lower upper : Binary64}
    (hlower : sorted[i]? = some lower) (hupper : sorted[i + 1]? = some upper) :
    ∃ below above, sorted = below ++ lower :: upper :: above ∧ below.length = i := by
  obtain ⟨below, rest, rfl, rfl⟩ := exists_split hlower
  rw [List.getElem?_append_right (Nat.le_add_right _ 1), Nat.add_sub_cancel_left,
    List.getElem?_cons_succ, ← List.head?_eq_getElem?, List.head?_eq_some_iff] at hupper
  obtain ⟨above, rfl⟩ := hupper
  exact ⟨below, above, rfl, rfl⟩

/-- What the aggregate computes is the median. -/
lemma isMedian_median (numbers : List Binary64) : IsMedian numbers (median numbers) := by
  have hperm : (numbers.mergeSort fun x y => x.totalCompare y != .gt).Perm numbers :=
    List.mergeSort_perm numbers _
  have hsorted : (numbers.mergeSort fun x y => x.totalCompare y != .gt).Pairwise fun x y =>
      x.atMost y = true :=
    Binary64.pairwise_mergeSort_atMost numbers
  unfold median
  -- from here on only that the list is sorted and a permutation counts
  generalize (numbers.mergeSort fun x y => x.totalCompare y != .gt) = sorted at hperm hsorted ⊢
  dsimp only
  split
  · rename_i hnone
    have hlength := List.getElem?_eq_none_iff.mp hnone
    have hnil : sorted = [] := List.length_eq_zero_iff.mp (by omega)
    rw [hnil] at hperm
    exact .empty hperm.symm.eq_nil
  · rename_i upper hupper
    obtain ⟨hmiddle, -⟩ := List.getElem?_eq_some_iff.mp hupper
    split
    · obtain ⟨below, above, rfl, hbelow⟩ := exists_split hupper
      rw [List.pairwise_append, List.pairwise_cons] at hsorted
      refine .odd upper below above hperm.symm ?_ ?_ ?_
      · rw [List.length_append, List.length_cons] at *
        omega
      · exact fun y hy => hsorted.2.2 y hy upper List.mem_cons_self
      · exact hsorted.2.1.1
    · rename_i heven
      split
      · rename_i hnone
        have hlength := List.getElem?_eq_none_iff.mp hnone
        omega
      · rename_i lower hlower
        have hnext : sorted.length / 2 = sorted.length / 2 - 1 + 1 := by omega
        rw [hnext] at hupper
        obtain ⟨below, above, rfl, hbelow⟩ := exists_split_pair hlower hupper
        rw [List.pairwise_append, List.pairwise_cons, List.pairwise_cons] at hsorted
        refine .even lower upper below above hperm.symm ?_ ?_ ?_ ?_
        · simp only [List.length_append, List.length_cons] at *
          omega
        · exact fun y hy => hsorted.2.2 y hy lower List.mem_cons_self
        · exact hsorted.2.1.1 upper List.mem_cons_self
        · exact hsorted.2.1.2.1

/-- A number is in the middle of some numbers if it is one of them, half of them or more are not
above it, and half or more are not below it. -/
structure InMiddle (numbers : List Binary64) (x : Binary64) : Prop where
  mem : x ∈ numbers
  below : numbers.length ≤ 2 * numbers.countP (·.atMost x)
  above : numbers.length ≤ 2 * numbers.countP (x.atMost ·)

/-- The middle of some numbers does not depend on their order. -/
lemma InMiddle.perm {others : List Binary64} {x : Binary64} (h : InMiddle numbers x)
    (hperm : others.Perm numbers) : InMiddle others x where
  mem := hperm.mem_iff.mpr h.mem
  below := by rw [hperm.length_eq, hperm.countP_eq]; exact h.below
  above := by rw [hperm.length_eq, hperm.countP_eq]; exact h.above

/-- The median of an odd number of numbers is in their middle. -/
lemma IsMedian.exists_inMiddle (h : IsMedian numbers value) (hodd : numbers.length % 2 = 1) :
    ∃ x, value = .float64 x ∧ InMiddle numbers x := by
  cases h with
  | empty h =>
    rw [h] at hodd
    cases hodd
  | odd x below above hperm hlength hbelow habove =>
    have hsplit : InMiddle (below ++ x :: above) x := by
      have hself := x.atMost_refl
      refine ⟨by simp, ?_, ?_⟩
      · rw [List.countP_append, List.countP_eq_length.mpr hbelow,
          List.countP_cons_of_pos (p := fun y : Binary64 => y.atMost x) hself, List.length_append,
          List.length_cons]
        omega
      · rw [List.countP_append, List.countP_cons_of_pos (p := fun y : Binary64 => x.atMost y) hself,
          List.countP_eq_length.mpr habove, List.length_append, List.length_cons]
        omega
    exact ⟨x, rfl, hsplit.perm hperm⟩
  | even lower upper below above hperm hlength =>
    rw [hperm.length_eq, List.length_append, List.length_cons, List.length_cons] at hodd
    omega

/-- The median of some numbers does not depend on their order. -/
lemma median_perm {others : List Binary64} (h : others.Perm numbers) :
    median others = median numbers := by
  have hsort : (others.mergeSort fun x y => x.totalCompare y != .gt) =
      numbers.mergeSort fun x y => x.totalCompare y != .gt :=
    Binary64.mergeSort_atMost_perm h
  rw [median, hsort, ← median]

/-! ## The median of a column -/

/-- Whether a column can be looked up in all rows, and all its values read as numbers. -/
structure OfNumbers (column : String) (rows : List Row) : Prop where
  resolves : ∀ row ∈ rows, row.Resolves [column]
  numeric : ∀ value ∈ presentValues column rows, value.asBinary64?.isSome = true

/-- Whether a column is one of numbers can be computed. -/
instance (column : String) (rows : List Row) : Decidable (OfNumbers column rows) :=
  decidable_of_iff ((∀ row ∈ rows, row.Resolves [column]) ∧
      ∀ value ∈ presentValues column rows, value.asBinary64?.isSome = true)
    ⟨fun h => ⟨h.1, h.2⟩, fun h => ⟨h.resolves, h.numeric⟩⟩

/-- A column of numbers stays one in another order of the rows. -/
lemma OfNumbers.perm {reordered : List Row} (h : OfNumbers column rows)
    (hperm : reordered.Perm rows) : OfNumbers column reordered where
  resolves row hrow := h.resolves row (hperm.mem_iff.mp hrow)
  numeric value hvalue := h.numeric value ((presentValues_perm hperm).mem_iff.mp hvalue)

/-- The aggregate of a column of numbers is the median of what its values read as. -/
lemma value_median (h : OfNumbers column rows) :
    (⟨.median, .column column⟩ : AggregateCall).value rows =
      .ok (median (readings column rows)) := by
  rw [value_of_resolves .median h.resolves]
  dsimp only
  rw [numbers_eq _ h.numeric]
  rfl

/-- The aggregate fails when the column cannot be looked up or some value is no number. -/
lemma exists_error_of_not_ofNumbers (h : ¬ OfNumbers column rows) :
    ∃ e, (⟨.median, .column column⟩ : AggregateCall).value rows = .error e := by
  by_cases hresolves : ∀ row ∈ rows, row.Resolves [column]
  · have hnumeric : ¬ ∀ value ∈ presentValues column rows, value.asBinary64?.isSome = true :=
      fun hnumeric => h ⟨hresolves, hnumeric⟩
    push Not at hnumeric
    obtain ⟨value, hvalue, hnone⟩ := hnumeric
    have hreading := Option.not_isSome_iff_eq_none.mp hnone
    obtain ⟨e, he⟩ : ∃ e, numbers ⟨.median, .column column⟩ (presentValues column rows) =
        .error e := by
      refine Result.exists_error_of_mapM hvalue ?_
      rw [hreading]
      exact ⟨_, rfl⟩
    refine ⟨e, ?_⟩
    rw [value_of_resolves .median hresolves]
    dsimp only
    rw [he]
    rfl
  · exact exists_error_of_not_resolves .median hresolves

/-- A query for an aggregate alone gives one row with its value. -/
lemma aggregateRows_single (call : AggregateCall) (rows : List Row) :
    aggregateRows [] [.aggregate call] rows =
      (fun value => [Row.ofList [(call.toText, value)]]) <$> call.value rows := by
  cases h : call.value rows <;>
    simp [aggregateRows, groupRows, groupRow, SelectItem.groupCell?, h]

/-- The median of a column over all rows is the same in every order of the rows, or fails in all of
them. It fails unless the column can be looked up in all rows and its values read as numbers, of
which it is the median. The median of an odd number of values is in the middle of their numbers. -/
theorem aggregateRows_median_perm (column : String) {rows reordered : List Row}
    (hperm : reordered.Perm rows) :
    let call : AggregateCall := ⟨.median, .column column⟩
    (aggregateRows [] [.aggregate call] reordered).toOption =
      (aggregateRows [] [.aggregate call] rows).toOption ∧
    ((∃ out, aggregateRows [] [.aggregate call] rows = .ok out) ↔ OfNumbers column rows) ∧
    ∀ out, aggregateRows [] [.aggregate call] rows = .ok out →
      ∃ value, out = [Row.ofList [(call.toText, value)]] ∧ IsMedian (readings column rows) value ∧
        ((presentValues column rows).length % 2 = 1 →
          ∃ x, value = .float64 x ∧ InMiddle (readings column rows) x) := by
  intro call
  simp only [aggregateRows_single]
  by_cases h : OfNumbers column rows
  · rw [value_median h, value_median (h.perm hperm), median_perm (readings_perm hperm)]
    refine ⟨rfl, iff_of_true ⟨_, rfl⟩ h, fun out hout => ?_⟩
    obtain rfl := Except.ok.inj hout
    have hmedian := isMedian_median (readings column rows)
    refine ⟨_, rfl, hmedian, fun hodd => hmedian.exists_inMiddle ?_⟩
    rw [length_readings h.numeric, hodd]
  · have hreordered : ¬ OfNumbers column reordered := fun h' => h (h'.perm hperm.symm)
    obtain ⟨e, he⟩ := exists_error_of_not_ofNumbers h
    obtain ⟨e', he'⟩ := exists_error_of_not_ofNumbers hreordered
    rw [he, he']
    refine ⟨rfl, iff_of_false ?_ h, ?_⟩
    · rintro ⟨out, hout⟩
      cases hout
    · intro out hout
      cases hout

/-- The median of `3`, the text `1`, an empty cell and the text `2.5` is the last of them, in the
reverse order of the rows as well. -/
theorem aggregateRows_median_perm_of_three :
    let cell (value : Value) : Row := .ofList [("x", value)]
    let call : AggregateCall := ⟨.median, .column "x"⟩
    let rows := [cell (.int64 3), cell (.text "1"), cell .null, cell (.text "2.5")]
    let out := [Row.ofList [(call.toText, .float64 (.ofRatio false 5 2))]]
    rows.reverse.Perm rows ∧ (aggregateRows [] [.aggregate call] rows).toOption = some out ∧
      (aggregateRows [] [.aggregate call] rows.reverse).toOption = some out := by
  intro cell call rows out
  have hperm : rows.reverse.Perm rows := rows.reverse_perm
  have hreadings : readings "x" rows = [.ofInt 3, .ofInt 1, .ofRatio false 5 2] := by
    decide
  obtain ⟨hsame, hexists, hmedian⟩ := aggregateRows_median_perm "x" hperm
  obtain ⟨found, hfound⟩ := hexists.mpr (by decide)
  obtain ⟨value, rfl, -, hodd⟩ := hmedian found hfound
  obtain ⟨x, rfl, hx, hbelow, habove⟩ := hodd (by decide)
  -- too few of the numbers are not above the least one, or not below the greatest one
  have hmiddle : x = .ofRatio false 5 2 := by
    rw [hreadings] at hx hbelow habove
    simp only [List.mem_cons, List.not_mem_nil, or_false] at hx
    rcases hx with rfl | rfl | rfl
    · exact absurd habove (by decide +kernel)
    · exact absurd hbelow (by decide +kernel)
    · rfl
  subst hmiddle
  rw [hfound] at hsame ⊢
  exact ⟨hperm, rfl, hsame⟩

end AggregateCall

end TableQuery
