import Mathlib.Algebra.Order.BigOperators.Group.List
import Mathlib.Data.List.Infix
import TableQuery.Proofs.Row
import TableQuery.Proofs.Value.Number
import TableQuery.Query.Aggregate

/-!
# Sums of integers

The sum of values that read as integers is taken from the first row to the last. It is exact while
no partial sum leaves 64 bits; when one does, the sum is taken anew in floating point, even where
the sum of all values has 64 bits (`exists_sum_inexact`). So it depends on the order of the rows,
unless the positive values by themselves and the negative ones by themselves have sums of 64 bits
(`sum_exact_iff`).
-/

namespace TableQuery

namespace AggregateCall

/-! ## Partial sums -/

/-- The exact sum of some 64-bit integers. -/
def total (integers : List Int64) : Int := (integers.map Int64.toInt).sum

/-- No integers sum to zero. -/
@[simp] lemma total_nil : total [] = 0 := rfl

/-- One integer more in front is added to the sum. -/
@[simp] lemma total_cons (i : Int64) (integers : List Int64) :
    total (i :: integers) = i.toInt + total integers := rfl

/-- The sum of two lists is that of their sums. -/
lemma total_append (first rest : List Int64) :
    total (first ++ rest) = total first + total rest := by
  rw [total, List.map_append, List.sum_append]
  rfl

/-- The exact sum does not depend on the order of the integers. -/
lemma total_perm {integers others : List Int64} (h : integers.Perm others) :
    total integers = total others :=
  (h.map Int64.toInt).sum_eq

/-- Whether every sum of the first integers, however many they are, has 64 bits. -/
def PartialSumsFit (integers : List Int64) : Prop :=
  ∀ first ∈ integers.inits, Literal.fitsInt64 (total first) = true

/-- Whether all partial sums fit can be computed. -/
instance (integers : List Int64) : Decidable (PartialSumsFit integers) :=
  inferInstanceAs (Decidable (∀ first ∈ integers.inits, _))

/-- The whole sum is the last of the partial ones. -/
lemma PartialSumsFit.total_fits {integers : List Int64} (h : PartialSumsFit integers) :
    Literal.fitsInt64 (total integers) = true :=
  h integers ((List.mem_inits integers integers).mpr List.prefix_rfl)

/-- Adding up from a start fails if a partial sum leaves 64 bits, and else gives the exact sum. -/
lemma foldlM_checked (start : Int64) (integers : List Int64) :
    integers.foldlM (fun total i =>
      let next := total.toInt + i.toInt
      if Literal.fitsInt64 next then some (Int64.ofInt next) else none) start =
    if ∀ first ∈ integers.inits, Literal.fitsInt64 (start.toInt + total first) = true then
      some (Int64.ofInt (start.toInt + total integers))
    else none := by
  -- the start is what has been added up so far
  induction integers generalizing start with
  | nil => simp [Literal.fitsInt64_toInt]
  | cons i integers ih =>
    have hinits : (∀ first ∈ (i :: integers).inits,
        Literal.fitsInt64 (start.toInt + total first) = true) ↔
        ∀ first ∈ integers.inits,
          Literal.fitsInt64 (start.toInt + i.toInt + total first) = true := by
      simp [Literal.fitsInt64_toInt, Int.add_assoc]
    rw [List.foldlM_cons]
    by_cases hnext : Literal.fitsInt64 (start.toInt + i.toInt) = true
    · have hstart := Literal.toInt_ofInt_of_fits hnext
      simp only [hinits, hnext, if_true, Option.bind_eq_bind, Option.bind_some, ih, hstart,
        total_cons, Int.add_assoc]
    · have hfails : ¬ ∀ first ∈ integers.inits,
          Literal.fitsInt64 (start.toInt + i.toInt + total first) = true := by
        intro h
        have hfirst := h [] ((List.mem_inits [] integers).mpr List.nil_prefix)
        rw [total_nil, Int.add_zero] at hfirst
        exact hnext hfirst
      rw [if_neg (mt hinits.mp hfails)]
      simp only [hnext]
      rfl

/-- The checked sum is the exact one if no partial sum leaves 64 bits, and fails otherwise. -/
lemma checkedSum_eq (integers : List Int64) :
    checkedSum integers =
      if PartialSumsFit integers then some (Int64.ofInt (total integers)) else none := by
  have hsum := foldlM_checked 0 integers
  simp only [Int64.toInt_zero, Int.zero_add] at hsum
  exact hsum

/-! ## The sum of a column -/

/-- The values of a column in the rows of a group, without the empty cells. -/
def presentValues (column : String) (group : List Row) : List Value :=
  (group.map fun row => row.value column).filter fun value => !value.isNull

/-- Whether a column can be looked up in all rows of a group and its values, of which there are
some, all read as integers. -/
structure OfIntegers (column : String) (group : List Row) : Prop where
  resolves : ∀ row ∈ group, row.Resolves [column]
  integral : ∀ value ∈ presentValues column group, value.asInt64?.isSome = true
  present : presentValues column group ≠ []

/-- Whether a column is one of integers can be computed. -/
instance (column : String) (group : List Row) : Decidable (OfIntegers column group) :=
  decidable_of_iff ((∀ row ∈ group, row.Resolves [column]) ∧
      (∀ value ∈ presentValues column group, value.asInt64?.isSome = true) ∧
        presentValues column group ≠ [])
    ⟨fun h => ⟨h.1, h.2.1, h.2.2⟩, fun h => ⟨h.resolves, h.integral, h.present⟩⟩

/-- The integers that the values of a column read as, in the order of the rows. -/
def integers (column : String) (group : List Row) : List Int64 :=
  (presentValues column group).filterMap Value.asInt64?

/-- The numbers that the values of a column read as, in the order of the rows. -/
def readings (column : String) (group : List Row) : List Binary64 :=
  (presentValues column group).filterMap Value.asBinary64?

/-- In another order of the rows a column has the same values in another order. -/
lemma presentValues_perm {column : String} {group reordered : List Row}
    (h : reordered.Perm group) :
    (presentValues column reordered).Perm (presentValues column group) :=
  (h.map _).filter _

/-- Empty cells give no integer. -/
lemma integers_eq (column : String) (group : List Row) :
    integers column group = group.filterMap fun row => (row.value column).asInt64? := by
  rw [integers, presentValues, List.filterMap_filter, List.filterMap_map]
  refine congrArg (List.filterMap · group) (funext fun row => ?_)
  rw [Function.comp_apply]
  cases row.value column <;> rfl

/-- The integers of two groups of rows stand one behind the other. -/
lemma integers_append (column : String) (first rest : List Row) :
    integers column (first ++ rest) = integers column first ++ integers column rest := by
  rw [integers_eq, integers_eq, integers_eq, List.filterMap_append]

/-- In another order of the rows a column has the same integers in another order. -/
lemma integers_perm {column : String} {group reordered : List Row} (h : reordered.Perm group) :
    (integers column reordered).Perm (integers column group) :=
  (presentValues_perm h).filterMap _

/-- In another order of the rows a column has the same numbers in another order. -/
lemma readings_perm {column : String} {group reordered : List Row} (h : reordered.Perm group) :
    (readings column reordered).Perm (readings column group) :=
  (presentValues_perm h).filterMap _

/-- A column of numbers has as many of them as it has values. -/
lemma length_readings {column : String} {group : List Row}
    (h : ∀ value ∈ presentValues column group, value.asBinary64?.isSome = true) :
    (readings column group).length = (presentValues column group).length :=
  List.filterMap_length_eq_length.mpr h

/-- A column of integers stays one in another order of the rows. -/
lemma OfIntegers.perm {column : String} {group reordered : List Row}
    (h : OfIntegers column group) (hperm : reordered.Perm group) :
    OfIntegers column reordered where
  resolves row hrow := h.resolves row (hperm.mem_iff.mp hrow)
  integral value hvalue := h.integral value ((presentValues_perm hperm).mem_iff.mp hvalue)
  present hnil := h.present ((hnil ▸ presentValues_perm hperm).symm.eq_nil)

/-- Values that all read as integers are read one by one. -/
lemma mapM_asInt64? {values : List Value}
    (h : ∀ value ∈ values, value.asInt64?.isSome = true) :
    values.mapM Value.asInt64? = some (values.filterMap Value.asInt64?) := by
  induction values with
  | nil => rfl
  | cons value values ih =>
    obtain ⟨i, hi⟩ := Option.isSome_iff_exists.mp (h value List.mem_cons_self)
    have hrest := ih fun other hother => h other (List.mem_cons_of_mem value hother)
    rw [List.mapM_cons, hi, hrest, List.filterMap_cons_some hi]
    rfl

/-- Values are not read as integers when some of them is none. -/
lemma mapM_asInt64?_eq_none {values : List Value}
    (h : ¬ ∀ value ∈ values, value.asInt64?.isSome = true) :
    values.mapM Value.asInt64? = none := by
  induction values with
  | nil => exact absurd (List.forall_mem_nil _) h
  | cons value values ih =>
    rw [List.mapM_cons]
    cases hi : value.asInt64? with
    | none => rfl
    | some i =>
      rw [ih fun hrest => h (List.forall_mem_cons.mpr ⟨by rw [hi, Option.isSome_some], hrest⟩)]
      rfl

/-- Values that all read as numbers are read one by one. -/
lemma numbers_eq (call : AggregateCall) {values : List Value}
    (h : ∀ value ∈ values, value.asBinary64?.isSome = true) :
    call.numbers values = .ok (values.filterMap Value.asBinary64?) := by
  induction values with
  | nil => rfl
  | cons value values ih =>
    obtain ⟨x, hx⟩ := Option.isSome_iff_exists.mp (h value List.mem_cons_self)
    have hrest := ih fun other hother => h other (List.mem_cons_of_mem value hother)
    rw [numbers] at hrest ⊢
    rw [List.mapM_cons, hrest, List.filterMap_cons_some hx]
    simp only [hx]
    rfl

/-- Values that read as integers read as numbers. -/
lemma numbers_of_integers (call : AggregateCall) {values : List Value}
    (h : ∀ value ∈ values, value.asInt64?.isSome = true) :
    call.numbers values = .ok (values.filterMap Value.asBinary64?) := by
  refine call.numbers_eq fun value hvalue => ?_
  obtain ⟨i, hi⟩ := Option.isSome_iff_exists.mp (h value hvalue)
  obtain ⟨x, hx, -⟩ := Value.asBinary64?_of_asInt64? hi
  rw [hx, Option.isSome_some]

/-- A column that can be looked up in all rows gives their values. -/
lemma mapM_lookup {column : String} {group : List Row} (h : ∀ row ∈ group, row.Resolves [column]) :
    (group.mapM fun row => row.lookup column) = .ok (group.map fun row => row.value column) :=
  Result.mapM_eq_ok fun row hrow => (h row hrow).lookup_eq List.mem_cons_self

/-- What an aggregate makes of a column that can be looked up in all rows of a group. -/
lemma value_of_resolves (function : AggregateFunction) {column : String} {group : List Row}
    (h : ∀ row ∈ group, row.Resolves [column]) :
    (⟨function, .column column⟩ : AggregateCall).value group =
      match function with
      | .count => .ok (.int64 (Int64.ofNat group.length))
      | .sum => sum ⟨.sum, .column column⟩ (presentValues column group)
      | .avg => mean <$> numbers ⟨.avg, .column column⟩ (presentValues column group)
      | .min => .ok (extremum .lt (presentValues column group))
      | .max => .ok (extremum .gt (presentValues column group))
      | .median => median <$> numbers ⟨.median, .column column⟩ (presentValues column group) := by
  simp only [value, mapM_lookup h]
  cases function <;> rfl

/-- No aggregate has a value when its column cannot be looked up in some row. -/
lemma exists_error_of_not_resolves (function : AggregateFunction) {column : String}
    {group : List Row} (h : ¬ ∀ row ∈ group, row.Resolves [column]) :
    ∃ e, (⟨function, .column column⟩ : AggregateCall).value group = .error e := by
  push Not at h
  obtain ⟨row, hrow, hfails⟩ := h
  obtain ⟨e, he⟩ : ∃ e, (group.mapM fun row => row.lookup column) = .error e := by
    refine Result.exists_error_of_mapM hrow ?_
    cases hlookup : row.lookup column with
    | error e => exact ⟨e, rfl⟩
    | ok value =>
      refine absurd (fun other hother => ?_) hfails
      exact ⟨value, by rw [List.mem_singleton.mp hother, hlookup]⟩
  refine ⟨e, ?_⟩
  simp only [value, he]
  rfl

/-- An aggregate that has a value has looked its column up in all rows. -/
lemma resolves_of_value {function : AggregateFunction} {column : String} {group : List Row}
    {found : Value} (h : (⟨function, .column column⟩ : AggregateCall).value group = .ok found) :
    ∀ row ∈ group, row.Resolves [column] := by
  by_contra hfails
  obtain ⟨e, he⟩ := exists_error_of_not_resolves function hfails
  rw [he] at h
  cases h

/-- The sum of a column of integers is exact if no partial sum leaves 64 bits, and otherwise it is
the sum in floating point. -/
lemma value_sum_of_integers {column : String} {group : List Row} (h : OfIntegers column group) :
    (⟨.sum, .column column⟩ : AggregateCall).value group = .ok
      (if PartialSumsFit (integers column group) then
        .int64 (Int64.ofInt (total (integers column group)))
      else .float64 (Binary64.sum (readings column group))) := by
  have hempty : (presentValues column group).isEmpty = false := by
    rw [List.isEmpty_eq_false_iff]
    exact h.present
  rw [value_of_resolves .sum h.resolves]
  dsimp only
  rw [sum, hempty, if_neg Bool.false_ne_true, mapM_asInt64? h.integral,
    numbers_of_integers _ h.integral, Option.bind_some, checkedSum_eq, ← integers, ← readings]
  split_ifs <;> rfl

/-! ## Every order of the rows -/

/-- The positive ones of some integers. -/
def positives (integers : List Int64) : List Int64 := integers.filter fun i => 0 < i.toInt

/-- The negative ones of some integers. -/
def negatives (integers : List Int64) : List Int64 := integers.filter fun i => i.toInt < 0

/-- A sum lies between those of its negative and its positive terms. -/
lemma total_mem_sides (integers : List Int64) :
    total (negatives integers) ≤ total integers ∧ total integers ≤ total (positives integers) := by
  induction integers with
  | nil => exact ⟨le_rfl, le_rfl⟩
  | cons i integers ih =>
    simp only [negatives, positives, List.filter_cons, decide_eq_true_eq] at ih ⊢
    split_ifs <;> simp only [total_cons] <;> omega

/-- The positive terms sum to no negative number. -/
lemma total_positives_nonneg (integers : List Int64) : 0 ≤ total (positives integers) := by
  refine List.sum_nonneg fun n hn => ?_
  obtain ⟨i, hi, rfl⟩ := List.mem_map.mp hn
  exact Int.le_of_lt (of_decide_eq_true (List.mem_filter.mp hi).2)

/-- The negative terms sum to no positive number. -/
lemma total_negatives_nonpos (integers : List Int64) : total (negatives integers) ≤ 0 := by
  have hterms : ∀ n ∈ (negatives integers).map Int64.toInt, n ≤ 0 := by
    intro n hn
    obtain ⟨i, hi, rfl⟩ := List.mem_map.mp hn
    exact Int.le_of_lt (of_decide_eq_true (List.mem_filter.mp hi).2)
  rw [total]
  simpa using List.sum_le_card_nsmul _ 0 hterms

/-- No partial sum leaves 64 bits when the sums of the positive and of the negative terms do not. -/
lemma partialSumsFit_of_sides {integers : List Int64}
    (hpositives : Literal.fitsInt64 (total (positives integers)) = true)
    (hnegatives : Literal.fitsInt64 (total (negatives integers)) = true) :
    PartialSumsFit integers := by
  intro first hfirst
  obtain ⟨rest, rfl⟩ := (List.mem_inits first integers).mp hfirst
  obtain ⟨hlow, hhigh⟩ := total_mem_sides first
  have hrestlow := total_negatives_nonpos rest
  have hresthigh := total_positives_nonneg rest
  rw [positives, List.filter_append, total_append, Literal.fitsInt64_iff] at hpositives
  rw [negatives, List.filter_append, total_append, Literal.fitsInt64_iff] at hnegatives
  rw [positives] at hhigh hresthigh
  rw [negatives] at hlow hrestlow
  exact Literal.fitsInt64_iff.mpr ⟨by omega, by omega⟩

/-- Whether the sum of a column over some rows is the integer `exact`. -/
def SumsTo (column : String) (rows : List Row) (exact : Int) : Prop :=
  ∃ i : Int64, (⟨.sum, .column column⟩ : AggregateCall).value rows = .ok (.int64 i) ∧
    i.toInt = exact

/-- The sum of a column of integers is exact when no partial sum leaves 64 bits, and only then. -/
lemma sumsTo_iff {column : String} {group : List Row} (h : OfIntegers column group) :
    SumsTo column group (total (integers column group)) ↔
      PartialSumsFit (integers column group) := by
  unfold SumsTo
  rw [value_sum_of_integers h]
  split_ifs with hfit
  · have hexact := Literal.toInt_ofInt_of_fits hfit.total_fits
    exact iff_of_true ⟨_, rfl, hexact⟩ hfit
  · refine iff_of_false ?_ hfit
    rintro ⟨i, hi, -⟩
    cases hi

/-- A group whose sum is exact in every order of its rows has a sum of 64 bits for its integers of
any kind. -/
lemma fits_filter_of_sumsTo {column : String} {group : List Row} (h : OfIntegers column group)
    (hexact : ∀ reordered : List Row, reordered.Perm group →
      SumsTo column reordered (total (integers column group))) (kind : Int64 → Bool) :
    Literal.fitsInt64 (total ((integers column group).filter kind)) = true := by
  -- with the integers of this kind in the first rows, their sum is a partial sum
  let isFirst (row : Row) : Bool := (row.value column).asInt64?.any kind
  have hperm := List.filter_append_perm isFirst group
  have hfirst : integers column (group.filter isFirst) =
      (integers column group).filter kind := by
    have hreading (reading : Option Int64) :
        (if reading.any kind = true then reading else none) = reading.filter kind := by
      cases reading with
      | none => rfl
      | some i => rfl
    rw [integers_eq, integers_eq, List.filterMap_filter, List.filter_filterMap]
    exact congrArg (List.filterMap · group) (funext fun row => hreading _)
  have hfit := hexact _ hperm
  rw [← total_perm (integers_perm hperm), sumsTo_iff (h.perm hperm), integers_append,
    hfirst] at hfit
  exact hfit _ ((List.mem_inits _ _).mpr (List.prefix_append _ _))

/-- The sum of values that read as integers is exact if no partial sum leaves 64 bits, and is taken
in floating point otherwise. It is exact in every order of the rows if and only if the positive
values and the negative values have sums of 64 bits. -/
theorem sum_exact_iff (column : String) (group : List Row) (h : OfIntegers column group) :
    let exact := total (integers column group)
    (SumsTo column group exact ↔ PartialSumsFit (integers column group)) ∧
    (¬ PartialSumsFit (integers column group) →
      (⟨.sum, .column column⟩ : AggregateCall).value group =
        .ok (.float64 (Binary64.sum (readings column group)))) ∧
    ((∀ reordered : List Row, reordered.Perm group → SumsTo column reordered exact) ↔
      Literal.fitsInt64 (total (positives (integers column group))) = true ∧
        Literal.fitsInt64 (total (negatives (integers column group))) = true) := by
  intro exact
  refine ⟨sumsTo_iff h, fun hoverflow => ?_, fun hexact => ?_, fun hsides reordered hperm => ?_⟩
  · rw [value_sum_of_integers h, if_neg hoverflow]
  · exact ⟨fits_filter_of_sumsTo h hexact _, fits_filter_of_sumsTo h hexact _⟩
  · have hintegers : (integers column reordered).Perm (integers column group) :=
      integers_perm hperm
    have hpositives := total_perm (hintegers.filter fun i => 0 < i.toInt)
    have hnegatives := total_perm (hintegers.filter fun i => i.toInt < 0)
    have hfit : PartialSumsFit (integers column reordered) := by
      refine partialSumsFit_of_sides ?_ ?_
      · rw [positives, hpositives]
        exact hsides.1
      · rw [negatives, hnegatives]
        exact hsides.2
    rw [← sumsTo_iff (h.perm hperm), total_perm hintegers] at hfit
    exact hfit

/-- The greatest integer, the text `-1`, an empty cell and `1` are summed up exactly in this order,
but not in every other. -/
theorem sum_exact_iff_of_amounts :
    let group : List Row := [.ofList [("x", .int64 Int64.maxValue)], .ofList [("x", .text "-1")],
      .ofList [("x", .null)], .ofList [("x", .int64 1)]]
    OfIntegers "x" group ∧ SumsTo "x" group Int64.maxValue.toInt ∧
      ¬ ∀ reordered : List Row, reordered.Perm group →
        SumsTo "x" reordered Int64.maxValue.toInt := by
  intro group
  have hgroup : OfIntegers "x" group := by decide
  obtain ⟨hsum, -, horders⟩ := sum_exact_iff "x" group hgroup
  have hexact : total (integers "x" group) = Int64.maxValue.toInt := by decide
  rw [hexact] at hsum horders
  refine ⟨hgroup, hsum.mpr (by decide), fun hall => ?_⟩
  exact absurd (horders.mp hall).1 (by decide)

/-- With `1` before `-1` the sum is not exact, although it has 64 bits. -/
theorem exists_sum_inexact :
    let group : List Row := [.ofList [("x", .int64 Int64.maxValue)], .ofList [("x", .int64 1)],
      .ofList [("x", .int64 (-1))]]
    OfIntegers "x" group ∧ Literal.fitsInt64 (total (integers "x" group)) = true ∧
      ¬ SumsTo "x" group (total (integers "x" group)) := by
  intro group
  have hgroup : OfIntegers "x" group := by decide
  refine ⟨hgroup, by decide, ?_⟩
  rw [sumsTo_iff hgroup]
  decide

end AggregateCall

end TableQuery
