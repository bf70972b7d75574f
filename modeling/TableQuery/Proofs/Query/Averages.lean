import TableQuery.Proofs.Query.Partition
import TableQuery.Proofs.Query.Sums
import TableQuery.Proofs.Value.Whole

/-!
# Averages

Where a query asks for the sum, the count and the average of a column, the average is the sum
divided by the number of values, in every group whose values and their partial sums are integers of
at most 53 bits (`aggregateRows_average`). The sum may be an integer or not, and the average is
taken from numbers in any case; but numbers that small are added up without rounding
(`OfSmallWholes.exists_sum`).

The count is that of the rows. So it is the divisor if no cell is empty, and not in general
(`exists_average_ne_sum_div_count`).
-/

namespace TableQuery

/-! ## What the row of a group shows -/

/-- An aggregate has a value over a group, and the row of the group shows it, unless a group field
has the name of the aggregate. -/
structure Row.ShowsAggregate (groupBy : List String) (group : List Row) (row : Row)
    (call : AggregateCall) (value : Value) : Prop where
  value_eq : call.value group = .ok value
  get?_eq : call.toText ∉ groupBy → row.get? call.toText = some value

/-- A cell of the row of a group is the value of an aggregate under its name, or that of a group
field. -/
lemma cell_of_groupCell? {groupBy : List String} {group : List Row} {item : SelectItem}
    {cell : String × Value} (h : item.groupCell? groupBy group = .ok (some cell)) :
    (∃ call : AggregateCall, cell.1 = call.toText ∧ call.value group = .ok cell.2) ∨
      cell.1 ∈ groupBy := by
  cases item with
  | star => cases h
  | aggregate call =>
    obtain ⟨value, hvalue, hpure⟩ := Result.bind_eq_ok h
    obtain rfl := Option.some.inj (Except.ok.inj hpure)
    exact .inl ⟨call, rfl, hvalue⟩
  | column name =>
    cases hfirst : group.head? with
    | none =>
      simp only [SelectItem.groupCell?, hfirst] at h
      cases h
    | some first =>
      simp only [SelectItem.groupCell?, hfirst] at h
      split at h
      · rename_i hcontains
        obtain ⟨value, -, hpure⟩ := Result.bind_eq_ok h
        obtain rfl := Option.some.inj (Except.ok.inj hpure)
        exact .inr (List.contains_iff_mem.mp hcontains)
      · cases h

/-- The row of a group shows all aggregates of the select list. -/
lemma exists_showsAggregate {groupBy : List String} {fields : List SelectItem} {group : List Row}
    {row : Row} (hrow : groupRow groupBy fields group = .ok row) {call : AggregateCall}
    (hcall : .aggregate call ∈ fields) : ∃ value, row.ShowsAggregate groupBy group call value := by
  obtain ⟨cells, hcells, hrow⟩ := Result.bind_eq_ok hrow
  obtain rfl := Except.ok.inj hrow
  obtain ⟨hshown, hitems⟩ := Result.exists_of_mapM hcells
  obtain ⟨cell, hcell, hgroupCell⟩ := hshown _ hcall
  obtain ⟨value, hvalue, hpure⟩ := Result.bind_eq_ok hgroupCell
  obtain rfl := Except.ok.inj hpure
  refine ⟨value, hvalue, fun hname => Row.get?_ofList_eq ?_ fun shown hmem hsame => ?_⟩
  · exact List.mem_map.mpr ⟨_, List.mem_filterMap.mpr ⟨_, hcell, rfl⟩, rfl⟩
  · obtain ⟨item, -, hitem⟩ := hitems (some shown) (by simpa using hmem)
    rcases cell_of_groupCell? hitem with ⟨other, hother, hvalue'⟩ | hmem
    · exact AggregateCall.value_eq_of_toText (hother.symm.trans hsame) hvalue' hvalue
    · exact absurd (hsame ▸ hmem) hname

namespace AggregateCall

/-! ## Columns of small integers -/

/-- The integers that the values of a column read as, in the order of the rows, be they written as
integers or as numbers. -/
def wholes (column : String) (group : List Row) : List ℤ :=
  (presentValues column group).filterMap Value.whole?

/-- Whether a column has values in a group, and they and their partial sums are integers of at most
53 bits. -/
structure OfSmallWholes (column : String) (group : List Row) : Prop where
  present : presentValues column group ≠ []
  whole : ∀ value ∈ presentValues column group, value.whole?.isSome = true
  small : ∀ k ∈ wholes column group, k.natAbs ≤ 2 ^ 53
  partialSums : ∀ first ∈ (wholes column group).inits, first.sum.natAbs ≤ 2 ^ 53

/-- Whether a column is one of small integers can be computed. -/
instance (column : String) (group : List Row) : Decidable (OfSmallWholes column group) :=
  decidable_of_iff (presentValues column group ≠ [] ∧
      (∀ value ∈ presentValues column group, value.whole?.isSome = true) ∧
      (∀ k ∈ wholes column group, k.natAbs ≤ 2 ^ 53) ∧
        ∀ first ∈ (wholes column group).inits, first.sum.natAbs ≤ 2 ^ 53)
    ⟨fun h => ⟨h.1, h.2.1, h.2.2.1, h.2.2.2⟩, fun h => ⟨h.present, h.whole, h.small, h.partialSums⟩⟩

variable {column : String} {group : List Row}

/-- The readings of values that are small integers are these integers. -/
lemma forall₂_readings {values : List Value} (hwhole : ∀ value ∈ values, value.whole?.isSome = true)
    (hsmall : ∀ k ∈ values.filterMap Value.whole?, k.natAbs ≤ 2 ^ 53) :
    List.Forall₂ (fun x k => x.rational? = some ((k : ℤ) : ℚ)) (values.filterMap Value.asBinary64?)
      (values.filterMap Value.whole?) := by
  induction values with
  | nil => exact .nil
  | cons value values ih =>
    obtain ⟨hvalue, hrest⟩ := List.forall_mem_cons.mp hwhole
    obtain ⟨k, hk⟩ := Option.isSome_iff_exists.mp hvalue
    rw [List.filterMap_cons_some hk, List.forall_mem_cons] at hsmall
    obtain ⟨x, hx, hrational⟩ := Value.exists_of_whole? hk hsmall.1
    rw [List.filterMap_cons_some hk, List.filterMap_cons_some hx]
    exact .cons hrational (ih hrest hsmall.2)

/-- The numbers that the values read as are the integers, one by one. -/
lemma OfSmallWholes.forall₂ (h : OfSmallWholes column group) :
    List.Forall₂ (fun x k => x.rational? = some ((k : ℤ) : ℚ)) (readings column group)
      (wholes column group) :=
  forall₂_readings h.whole h.small

/-- The values all read as numbers. -/
lemma OfSmallWholes.numeric (h : OfSmallWholes column group) :
    ∀ value ∈ presentValues column group, value.asBinary64?.isSome = true := by
  intro value hvalue
  obtain ⟨k, hk⟩ := Option.isSome_iff_exists.mp (h.whole value hvalue)
  have hsmall := h.small k (List.mem_filterMap.mpr ⟨value, hvalue, hk⟩)
  obtain ⟨x, hx, -⟩ := Value.exists_of_whole? hk hsmall
  rw [hx, Option.isSome_some]

/-- Adding the numbers up is exact, since no partial sum has more than 53 bits. -/
lemma OfSmallWholes.rational?_sum (h : OfSmallWholes column group) :
    (Binary64.sum (readings column group)).rational? =
      some (((wholes column group).sum : ℤ) : ℚ) :=
  Binary64.rational?_sum h.forall₂ h.partialSums

/-- Integers are read as they are. -/
lemma wholes_eq (h : ∀ value ∈ presentValues column group, value.asInt64?.isSome = true) :
    wholes column group = (integers column group).map Int64.toInt := by
  rw [wholes, integers, List.map_filterMap]
  refine List.filterMap_congr fun value hvalue => ?_
  obtain ⟨i, hi⟩ := Option.isSome_iff_exists.mp (h value hvalue)
  rw [Value.whole?, hi]
  rfl

/-- Partial sums of at most 53 bits also fit into the 64 bits of an integer sum. -/
lemma OfSmallWholes.partialSumsFit (h : OfSmallWholes column group)
    (hintegral : ∀ value ∈ presentValues column group, value.asInt64?.isSome = true) :
    PartialSumsFit (integers column group) := by
  intro first hfirst
  have hmem : first.map Int64.toInt ∈ (wholes column group).inits := by
    rw [wholes_eq hintegral, List.mem_inits] at *
    exact hfirst.map _
  have hsmall := h.partialSums _ hmem
  have hlow : Int64.minValue.toInt = -2 ^ 63 := rfl
  have hhigh : Int64.maxValue.toInt = 2 ^ 63 - 1 := rfl
  rw [total, Literal.fitsInt64_iff]
  omega

/-- The sum reads as the sum of the integers, whether it is taken in integers or not. -/
lemma OfSmallWholes.exists_sum (h : OfSmallWholes column group)
    (hresolves : ∀ row ∈ group, row.Resolves [column]) :
    ∃ sum x, (⟨.sum, .column column⟩ : AggregateCall).value group = .ok sum ∧
      sum.asBinary64? = some x ∧ x.rational? = some (((wholes column group).sum : ℤ) : ℚ) := by
  by_cases hintegral : ∀ value ∈ presentValues column group, value.asInt64?.isSome = true
  · have hfit := h.partialSumsFit hintegral
    have htotal : total (integers column group) = (wholes column group).sum := by
      rw [wholes_eq hintegral, total]
    have hsum := value_sum_of_integers ⟨hresolves, hintegral, h.present⟩
    rw [if_pos hfit] at hsum
    refine ⟨_, _, hsum, rfl, ?_⟩
    rw [Literal.toInt_ofInt_of_fits hfit.total_fits, htotal]
    exact Binary64.rational?_ofInt (h.partialSums _ ((List.mem_inits _ _).mpr List.prefix_rfl))
  · refine ⟨.float64 (Binary64.sum (readings column group)), _, ?_, rfl, h.rational?_sum⟩
    rw [value_of_resolves .sum hresolves]
    dsimp only
    rw [sum, List.isEmpty_eq_false_iff.mpr h.present, if_neg Bool.false_ne_true,
      mapM_asInt64?_eq_none hintegral, numbers_eq _ h.numeric]
    rfl

/-! ## The average of a column -/

/-- The average is the sum of the numbers divided by how many there are. -/
lemma OfSmallWholes.value_avg (h : OfSmallWholes column group)
    (hresolves : ∀ row ∈ group, row.Resolves [column]) :
    (⟨.avg, .column column⟩ : AggregateCall).value group = .ok (.float64
      (Binary64.sum (readings column group) /
        .ofInt (presentValues column group).length)) := by
  have hne : (readings column group).isEmpty = false := by
    rw [List.isEmpty_eq_false_iff, ← List.length_pos_iff, length_readings h.numeric,
      List.length_pos_iff]
    exact h.present
  have hmean : mean (readings column group) = .float64 (Binary64.sum (readings column group) /
      .ofInt (readings column group).length) := by
    rw [mean, hne, if_neg Bool.false_ne_true]
  rw [value_of_resolves .avg hresolves]
  dsimp only
  rw [numbers_eq _ h.numeric, ← length_readings h.numeric, ← hmean]
  rfl

/-- Whether the count is the number of rows, those with an empty cell among them, and the average of
a column is the sum divided by the number of values, and so by the count if no cell is empty and 64
bits are enough to count the rows. -/
def DividesSum (column : String) (group : List Row) (sum count average : Value) : Prop :=
  ∃ total rows mean, sum.asBinary64? = some total ∧ count = .int64 (.ofNat group.length) ∧
    count.asBinary64? = some rows ∧ average = .float64 mean ∧
    mean.same (total / .ofInt (presentValues column group).length) = true ∧
    ((∀ row ∈ group, (row.value column).isNull = false) → group.length < 2 ^ 63 →
      mean.same (total / rows) = true)

/-- The values of the three aggregates of a column of small integers stand in the relation. -/
lemma OfSmallWholes.dividesSum (h : OfSmallWholes column group) {sum count average : Value}
    (hsum : (⟨.sum, .column column⟩ : AggregateCall).value group = .ok sum)
    (hcount : (⟨.count, .column column⟩ : AggregateCall).value group = .ok count)
    (haverage : (⟨.avg, .column column⟩ : AggregateCall).value group = .ok average) :
    DividesSum column group sum count average := by
  have hresolves := resolves_of_value hsum
  obtain ⟨sum', total, hsum', htotal, hrational⟩ := h.exists_sum hresolves
  obtain rfl := Except.ok.inj (hsum.symm.trans hsum')
  obtain rfl := Except.ok.inj (haverage.symm.trans (h.value_avg hresolves))
  have hsame := Binary64.same_div_ofInt h.rational?_sum hrational
    (List.length_pos_iff.mpr h.present)
  obtain rfl := value_of_count rfl hcount
  refine ⟨_, _, _, htotal, rfl, rfl, rfl, hsame, fun hfull hlength => ?_⟩
  have hpresent : (presentValues column group).length = group.length := by
    rw [presentValues, List.filter_eq_self.mpr, List.length_map]
    simpa using hfull
  rw [Int64.toInt_ofNat_of_lt hlength, ← hpresent]
  exact hsame

end AggregateCall

open AggregateCall in
/-- In every group of a query for the sum, the count and the average of a column, the average is the
sum divided by the number of values, if these and their partial sums are integers of at most 53
bits. The count is that of the rows, and so the divisor when no cell is empty. -/
theorem aggregateRows_average (groupBy : List String) (fields : List SelectItem) (rows : List Row)
    (column : String) (out : List Row) (hsum : .aggregate ⟨.sum, .column column⟩ ∈ fields)
    (hcount : .aggregate ⟨.count, .column column⟩ ∈ fields)
    (haverage : .aggregate ⟨.avg, .column column⟩ ∈ fields)
    (hout : aggregateRows groupBy fields rows = .ok out) :
    ∃ groups, groupRows groupBy rows = .ok groups ∧
      List.Forall₂ (fun group row => ∃ sum count average,
        row.ShowsAggregate groupBy group ⟨.sum, .column column⟩ sum ∧
        row.ShowsAggregate groupBy group ⟨.count, .column column⟩ count ∧
        row.ShowsAggregate groupBy group ⟨.avg, .column column⟩ average ∧
        (OfSmallWholes column group → DividesSum column group sum count average)) groups out := by
  obtain ⟨groups, hgroups, hrows⟩ := Result.bind_eq_ok hout
  refine ⟨groups, hgroups, (Result.forall₂_of_mapM hrows).imp fun group row hrow => ?_⟩
  obtain ⟨sum, hsum⟩ := exists_showsAggregate hrow hsum
  obtain ⟨count, hcount⟩ := exists_showsAggregate hrow hcount
  obtain ⟨average, haverage⟩ := exists_showsAggregate hrow haverage
  exact ⟨sum, count, average, hsum, hcount, haverage,
    fun h => h.dividesSum hsum.value_eq hcount.value_eq haverage.value_eq⟩

open AggregateCall in
/-- Of `1`, the texts `2` and `4.0` and an empty cell the average is a third of the sum, and the
count is four. -/
theorem aggregateRows_average_of_three :
    let fields : List SelectItem := [.aggregate ⟨.sum, .column "x"⟩,
      .aggregate ⟨.count, .column "x"⟩, .aggregate ⟨.avg, .column "x"⟩]
    let rows : List Row := [.ofList [("x", .int64 1)], .ofList [("x", .text "2")],
      .ofList [("x", .null)], .ofList [("x", .text "4.0")]]
    ∃ row : Row, aggregateRows [] fields rows = .ok [row] ∧ OfSmallWholes "x" rows ∧
      ∃ sum average, row.get? "SUM(x)" = some sum ∧ row.get? "COUNT(x)" = some (.int64 4) ∧
        row.get? "AVG(x)" = some average ∧ DividesSum "x" rows sum (.int64 4) average := by
  intro fields rows
  have hsmall : OfSmallWholes "x" rows := by decide +kernel
  have hsome : (aggregateRows [] fields rows).toOption.isSome = true := by decide
  obtain ⟨out, hout⟩ := Option.isSome_iff_exists.mp hsome
  obtain ⟨groups, hgroups, hrows⟩ := aggregateRows_average [] fields rows "x" out
    (by simp [fields]) (by simp [fields]) (by simp [fields]) (Result.eq_ok_of_toOption hout)
  obtain rfl := Except.ok.inj hgroups
  obtain ⟨row, others, hrow, hothers, rfl⟩ := List.forall₂_cons_left_iff.mp hrows
  obtain rfl := List.forall₂_nil_left_iff.mp hothers
  obtain ⟨sum, count, average, hsum, hcount, haverage, hdivides⟩ := hrow
  obtain ⟨-, -, -, -, rfl, -⟩ := hdivides hsmall
  exact ⟨row, Result.eq_ok_of_toOption hout, hsmall, sum, average, hsum.get?_eq (by decide),
    hcount.get?_eq (by decide), haverage.get?_eq (by decide), hdivides hsmall⟩

open AggregateCall in
/-- With an empty cell beside `4` the average is not the sum divided by the count. -/
theorem exists_average_ne_sum_div_count :
    let fields : List SelectItem := [.aggregate ⟨.sum, .column "x"⟩,
      .aggregate ⟨.count, .column "x"⟩, .aggregate ⟨.avg, .column "x"⟩]
    let rows : List Row := [.ofList [("x", .int64 4)], .ofList [("x", .null)]]
    OfSmallWholes "x" rows ∧
      (aggregateRows [] fields rows).toOption = some [.ofList [("SUM(x)", .int64 4),
        ("COUNT(x)", .int64 2), ("AVG(x)", .float64 (.ofInt 4))]] ∧
      (Binary64.ofInt 4).same (.ofInt 4 / .ofInt 2) = false := by
  refine ⟨?_, ?_, ?_⟩
  · decide
  · decide +kernel
  · decide +kernel

end TableQuery
