import TableQuery.Proofs.Value.Number

/-!
# The order of values

The order of sorting is reflexive and turns around when its sides are swapped, whatever the values
are. It is transitive on values that are alike (`Value.Alike`): at most one of them reads as a
number, or all of them do, with two exceptions (`sortCompare_preorder`).

Values that are not alike can go round in a circle (`exists_sortCompare_not_transitive`). Two
numbers are ordered by size, a number and a word by their texts. What is not a number is level with
all numbers. Integers beyond 53 bits are level with the number that they are rounded to, and not
with one another.
-/

namespace TableQuery

namespace Value

variable {a b c : Value} {x y z : Binary64}

/-! ## How two values are compared -/

/-- A value that reads as a number is present. -/
lemma isNull_of_asBinary64? (h : a.asBinary64? = some x) : a.isNull = false := by
  cases a with
  | null => cases h
  | int64 | float64 | text => rfl

/-- A value that reads as no number reads as no integer. -/
lemma asInt64?_eq_none (h : a.asBinary64? = none) : a.asInt64? = none := by
  cases hi : a.asInt64? with
  | none => rfl
  | some i =>
    obtain ⟨x, hx, -⟩ := asBinary64?_of_asInt64? hi
    rw [h] at hx
    cases hx

/-- Values are compared as integers when both read as integers. -/
lemma compare?_eq_of_ints {i j : Int64} (ha : a.asInt64? = some i) (hb : b.asInt64? = some j) :
    a.compare? b = some (compare i.toInt j.toInt) := by
  obtain ⟨x, hx, -⟩ := asBinary64?_of_asInt64? ha
  obtain ⟨y, hy, -⟩ := asBinary64?_of_asInt64? hb
  unfold compare?
  rw [isNull_of_asBinary64? hx, isNull_of_asBinary64? hy, ha, hb]
  rfl

/-- Values are compared as numbers when both read as numbers and one does not read as an integer. -/
lemma compare?_eq_of_numbers (ha : a.asBinary64? = some x) (hb : b.asBinary64? = some y)
    (h : a.asInt64? = none ∨ b.asInt64? = none) :
    a.compare? b = some ((x.compare? y).getD .eq) := by
  unfold compare?
  rw [isNull_of_asBinary64? ha, isNull_of_asBinary64? hb, ha, hb]
  rcases h with h | h
  · rw [h]
    rfl
  · rw [h]
    cases a.asInt64? <;> rfl

/-- Values are compared as texts when one of them reads as no number. -/
lemma compare?_eq_of_word (ha : a.isNull = false) (hb : b.isNull = false)
    (h : a.asBinary64? = none ∨ b.asBinary64? = none) :
    a.compare? b = some (compare a.toText b.toText) := by
  unfold compare?
  rw [ha, hb]
  rcases h with h | h
  · rw [asInt64?_eq_none h, h]
    rfl
  · rw [asInt64?_eq_none h, h]
    cases a.asInt64? <;> cases a.asBinary64? <;> rfl

/-- The three ways in which two values are compared: as integers, as numbers of which one is no
integer, or as texts. -/
inductive ReadTogether (a b : Value) : Prop
  | ints (i j : Int64) (ha : a.asInt64? = some i) (hb : b.asInt64? = some j)
  | numbers (x y : Binary64) (ha : a.asBinary64? = some x) (hb : b.asBinary64? = some y)
      (h : a.asInt64? = none ∨ b.asInt64? = none)
  | texts (h : a.asBinary64? = none ∨ b.asBinary64? = none)

/-- Two values are compared in one of these ways. -/
lemma readTogether (a b : Value) : ReadTogether a b := by
  cases ha : a.asBinary64? with
  | none => exact .texts (.inl ha)
  | some x =>
    cases hb : b.asBinary64? with
    | none => exact .texts (.inr hb)
    | some y =>
      cases hi : a.asInt64? with
      | none => exact .numbers x y ha hb (.inl hi)
      | some i =>
        cases hj : b.asInt64? with
        | none => exact .numbers x y ha hb (.inr hj)
        | some j => exact .ints i j hi hj

/-! ## Reflexivity and swapping -/

/-- A value is level with itself. -/
lemma compare?_self (h : a.isNull = false) : a.compare? a = some .eq := by
  cases readTogether a a with
  | ints i j hi hj =>
    obtain rfl : i = j := Option.some.inj (hi.symm.trans hj)
    rw [compare?_eq_of_ints hi hi, Std.ReflOrd.compare_self]
  | numbers x y hx hy hone =>
    obtain rfl : x = y := Option.some.inj (hx.symm.trans hy)
    rw [compare?_eq_of_numbers hx hx hone, x.getD_compare?_self]
  | texts hone => rw [compare?_eq_of_word h h hone, Std.ReflOrd.compare_self]

/-- The order of two values turns around when they are swapped. -/
lemma compare?_swap (ha : a.isNull = false) (hb : b.isNull = false) :
    b.compare? a = (a.compare? b).map Ordering.swap := by
  cases readTogether a b with
  | ints i j hi hj =>
    rw [compare?_eq_of_ints hi hj, compare?_eq_of_ints hj hi, Std.OrientedOrd.eq_swap]
    rfl
  | numbers x y hx hy hone =>
    rw [compare?_eq_of_numbers hx hy hone, compare?_eq_of_numbers hy hx hone.symm,
      Binary64.compare?_swap]
    cases x.compare? y <;> rfl
  | texts hone =>
    rw [compare?_eq_of_word ha hb hone, compare?_eq_of_word hb ha hone.symm,
      Std.OrientedOrd.eq_swap]
    rfl

/-! ## Transitivity -/

/-- Reading integers as numbers keeps their order, but not that they differ. -/
lemma place_le_of_ints {i j : Int64} (ha : a.asBinary64? = some x) (hb : b.asBinary64? = some y)
    (hi : a.asInt64? = some i) (hj : b.asInt64? = some j) (h : i.toInt ≤ j.toInt) :
    x.place ≤ y.place := by
  obtain ⟨x', hx', hxfinite, hxunits⟩ := asBinary64?_of_asInt64? hi
  obtain ⟨y', hy', hyfinite, hyunits⟩ := asBinary64?_of_asInt64? hj
  obtain rfl : x' = x := Option.some.inj (hx'.symm.trans ha)
  obtain rfl : y' = y := Option.some.inj (hy'.symm.trans hb)
  rw [Binary64.place_le_iff hxfinite hyfinite, hxunits, hyunits]
  exact Binary64.units_ofInt64_mono h

/-- An integer reading and the number that it is rounded to share their place. -/
lemma place_ofInt {i : Int64} (ha : a.asBinary64? = some x) (hi : a.asInt64? = some i) :
    (Binary64.ofInt i.toInt).place = x.place := by
  obtain ⟨x', hx', hxfinite, hxunits⟩ := asBinary64?_of_asInt64? hi
  obtain rfl : x' = x := Option.some.inj (hx'.symm.trans ha)
  rw [Binary64.place_of_isFinite (Binary64.isFinite_ofInt64 i),
    Binary64.place_of_isFinite hxfinite, hxunits]

/-- Numbers in order have their places in order, also where integers are rounded. -/
lemma place_le_of_compare? (ha : a.asBinary64? = some x) (hb : b.asBinary64? = some y)
    (hx : x.isNan = false) (hy : y.isNan = false) (h : a.compare? b ≠ some .gt) :
    x.place ≤ y.place := by
  cases readTogether a b with
  | ints i j hi hj =>
    rw [compare?_eq_of_ints hi hj, ne_eq, Option.some.injEq] at h
    exact place_le_of_ints ha hb hi hj (Int.compare_ne_gt.mp h)
  | numbers x' y' hx' hy' hone =>
    rw [compare?_eq_of_numbers ha hb hone, Binary64.compare?_eq_some hx hy, Option.getD_some, ne_eq,
      Option.some.injEq] at h
    exact compare_le_iff_le.mp h
  | texts hone =>
    rw [ha, hb] at hone
    rcases hone with hone | hone <;> cases hone

/-- Three values are alike when one of them is empty, when at most one of them reads as a number, or
when all of them read as numbers, none of which is not-a-number, and no two different integers are
both level with a number between them. -/
inductive Alike (a b c : Value) : Prop
  | empty (h : a.isNull ∨ b.isNull ∨ c.isNull)
  | words (h : [a, b, c].countP (fun v => v.asBinary64?.isSome) ≤ 1)
  | numbers (x y z : Binary64) (ha : a.asBinary64? = some x) (hb : b.asBinary64? = some y)
      (hc : c.asBinary64? = some z) (hx : x.isNan = false) (hy : y.isNan = false)
      (hz : z.isNan = false)
      (hmiddle : b.asInt64? = none → ∀ i k, a.asInt64? = some i → c.asInt64? = some k →
        (Binary64.ofInt i.toInt).same y → (Binary64.ofInt k.toInt).same y → i = k)

/-- Three numbers without the exceptions are ordered transitively. -/
lemma compare?_trans_of_numbers (ha : a.asBinary64? = some x) (hb : b.asBinary64? = some y)
    (hc : c.asBinary64? = some z) (hx : x.isNan = false) (hy : y.isNan = false)
    (hz : z.isNan = false)
    (hmiddle : b.asInt64? = none → ∀ i k, a.asInt64? = some i → c.asInt64? = some k →
      (Binary64.ofInt i.toInt).same y → (Binary64.ofInt k.toInt).same y → i = k)
    (hab : a.compare? b ≠ some .gt) (hbc : b.compare? c ≠ some .gt) :
    a.compare? c ≠ some .gt := by
  have hxy := place_le_of_compare? ha hb hx hy hab
  have hyz := place_le_of_compare? hb hc hy hz hbc
  cases readTogether a c with
  | ints i k hi hk =>
    rw [compare?_eq_of_ints hi hk, ne_eq, Option.some.injEq]
    refine Int.compare_ne_gt.mpr ?_
    cases hj : b.asInt64? with
    | some j =>
      rw [compare?_eq_of_ints hi hj, ne_eq, Option.some.injEq] at hab
      rw [compare?_eq_of_ints hj hk, ne_eq, Option.some.injEq] at hbc
      exact (Int.compare_ne_gt.mp hab).trans (Int.compare_ne_gt.mp hbc)
    | none =>
      -- were the integers the other way round, all three numbers would share one place
      by_contra hlt
      have hzx := place_le_of_ints hc ha hk hi (le_of_not_ge hlt)
      have hxy' : x.place = y.place := le_antisymm hxy (hyz.trans hzx)
      have hzy' : z.place = y.place := le_antisymm (hzx.trans hxy) hyz
      have hnan {l : Int64} : (Binary64.ofInt l.toInt).isNan = false :=
        Binary64.isNan_of_isFinite (Binary64.isFinite_ofInt64 l)
      have hisame : (Binary64.ofInt i.toInt).same y :=
        (Binary64.same_iff hnan hy).mpr ((place_ofInt ha hi).trans hxy')
      have hksame : (Binary64.ofInt k.toInt).same y :=
        (Binary64.same_iff hnan hy).mpr ((place_ofInt hc hk).trans hzy')
      obtain rfl := hmiddle hj i k hi hk hisame hksame
      exact hlt le_rfl
  | numbers x' z' hx' hz' hone =>
    rw [compare?_eq_of_numbers ha hc hone, Binary64.compare?_eq_some hx hz, Option.getD_some, ne_eq,
      Option.some.injEq]
    exact compare_le_iff_le.mpr (hxy.trans hyz)
  | texts hone =>
    rw [ha, hc] at hone
    rcases hone with hone | hone <;> cases hone

/-- Three values of which at most one reads as a number are ordered by their texts. -/
lemma compare?_trans_of_words (ha : a.isNull = false) (hb : b.isNull = false)
    (hc : c.isNull = false) (h : [a, b, c].countP (fun v => v.asBinary64?.isSome) ≤ 1)
    (hab : a.compare? b ≠ some .gt) (hbc : b.compare? c ≠ some .gt) :
    a.compare? c ≠ some .gt := by
  have hwords : (a.asBinary64? = none ∨ b.asBinary64? = none) ∧
      (b.asBinary64? = none ∨ c.asBinary64? = none) ∧
        (a.asBinary64? = none ∨ c.asBinary64? = none) := by
    cases hx : a.asBinary64? <;> cases hy : b.asBinary64? <;> cases hz : c.asBinary64? <;>
      simp [hx, hy, hz] at h ⊢
  obtain ⟨hwab, hwbc, hwac⟩ := hwords
  rw [compare?_eq_of_word ha hb hwab, ne_eq, Option.some.injEq, Ordering.ne_gt_iff_isLE] at hab
  rw [compare?_eq_of_word hb hc hwbc, ne_eq, Option.some.injEq, Ordering.ne_gt_iff_isLE] at hbc
  rw [compare?_eq_of_word ha hc hwac, ne_eq, Option.some.injEq, Ordering.ne_gt_iff_isLE]
  exact Std.TransOrd.isLE_trans hab hbc

/-! ## The order of sorting -/

/-- Values that are present are sorted as they are compared. -/
lemma sortCompare_of_present (nullsFirst : Bool) (ha : a.isNull = false) (hb : b.isNull = false) :
    a.sortCompare nullsFirst b = (a.compare? b).getD .eq := by
  unfold sortCompare
  rw [ha, hb]

/-- Of two values that are present one is sorted behind the other when it is greater. -/
lemma sortCompare_ne_gt_iff (nullsFirst : Bool) (ha : a.isNull = false) (hb : b.isNull = false) :
    a.sortCompare nullsFirst b ≠ .gt ↔ a.compare? b ≠ some .gt := by
  rw [sortCompare_of_present nullsFirst ha hb]
  cases a.compare? b with
  | none => simp
  | some order => simp

/-- A value is level with itself in the order of sorting, be it present or not. -/
lemma sortCompare_self (nullsFirst : Bool) (a : Value) : a.sortCompare nullsFirst a = .eq := by
  cases ha : a.isNull with
  | true => simp [sortCompare, ha]
  | false => rw [sortCompare_of_present nullsFirst ha ha, compare?_self ha, Option.getD_some]

/-- The order of sorting turns around when its sides are swapped. -/
lemma sortCompare_swap (nullsFirst : Bool) (a b : Value) :
    b.sortCompare nullsFirst a = (a.sortCompare nullsFirst b).swap := by
  cases ha : a.isNull <;> cases hb : b.isNull
  · rw [sortCompare_of_present nullsFirst hb ha, sortCompare_of_present nullsFirst ha hb,
      compare?_swap ha hb]
    cases a.compare? b <;> rfl
  all_goals cases nullsFirst <;> simp [sortCompare, ha, hb]

/-- An empty cell stands at one end of any order. -/
lemma sortCompare_trans_of_empty (nullsFirst : Bool) (h : a.isNull ∨ b.isNull ∨ c.isNull)
    (hab : a.sortCompare nullsFirst b ≠ .gt) (hbc : b.sortCompare nullsFirst c ≠ .gt) :
    a.sortCompare nullsFirst c ≠ .gt := by
  cases ha : a.isNull <;> cases hb : b.isNull <;> cases hc : c.isNull <;> cases nullsFirst <;>
    simp_all [sortCompare]

/-- The order of sorting is reflexive and turns around when its sides are swapped. It is transitive
on values that are alike. -/
theorem sortCompare_preorder (nullsFirst : Bool) (a b c : Value) :
    a.sortCompare nullsFirst a = .eq ∧
      b.sortCompare nullsFirst a = (a.sortCompare nullsFirst b).swap ∧
        (Alike a b c → a.sortCompare nullsFirst b ≠ .gt → b.sortCompare nullsFirst c ≠ .gt →
          a.sortCompare nullsFirst c ≠ .gt) := by
  refine ⟨sortCompare_self nullsFirst a, sortCompare_swap nullsFirst a b, ?_⟩
  intro halike hab hbc
  by_cases hempty : a.isNull ∨ b.isNull ∨ c.isNull
  · exact sortCompare_trans_of_empty nullsFirst hempty hab hbc
  · rw [not_or, not_or, Bool.not_eq_true, Bool.not_eq_true, Bool.not_eq_true] at hempty
    obtain ⟨ha, hb, hc⟩ := hempty
    rw [sortCompare_ne_gt_iff nullsFirst ha hb] at hab
    rw [sortCompare_ne_gt_iff nullsFirst hb hc] at hbc
    rw [sortCompare_ne_gt_iff nullsFirst ha hc]
    cases halike with
    | empty h =>
      rw [ha, hb, hc] at h
      simp at h
    | words h => exact compare?_trans_of_words ha hb hc h hab hbc
    | numbers x y z hx hy hz hxnan hynan hznan hmiddle =>
      exact compare?_trans_of_numbers hx hy hz hxnan hynan hznan hmiddle hab hbc

/-- A text that spells a number stands between an integer and an infinity by its size. -/
theorem sortCompare_preorder_of_sizes :
    (int64 2).sortCompare true (text " 3.5 ") ≠ .gt ∧
      (text " 3.5 ").sortCompare true (float64 (.infinite false)) ≠ .gt ∧
        (int64 2).sortCompare true (float64 (.infinite false)) ≠ .gt := by
  have hab : (int64 2).sortCompare true (text " 3.5 ") ≠ .gt := by decide +kernel
  have hbc : (text " 3.5 ").sortCompare true (float64 (.infinite false)) ≠ .gt := by
    decide +kernel
  have halike : Alike (int64 2) (text " 3.5 ") (float64 (.infinite false)) := by
    have hb : (text " 3.5 ").asBinary64? = some (.ofRatio false 7 2) := by decide +kernel
    have hx : (Binary64.ofInt 2).isNan = false := by decide +kernel
    have hy : (Binary64.ofRatio false 7 2).isNan = false := by decide +kernel
    refine .numbers (.ofInt 2) (.ofRatio false 7 2) (.infinite false) rfl hb rfl hx hy rfl ?_
    -- the third value reads as no integer
    intro _ i k _ hk
    cases hk
  exact ⟨hab, hbc, (sortCompare_preorder true _ _ _).2.2 halike hab hbc⟩

/-- Three values go round when the first is not above the second, nor the second above the third,
and yet the first is above the third. -/
def GoRound (a b c : Value) : Prop :=
  ∀ nullsFirst : Bool, a.sortCompare nullsFirst b ≠ .gt ∧ b.sortCompare nullsFirst c ≠ .gt ∧
    a.sortCompare nullsFirst c = .gt

/-- Whether three values go round can be computed. -/
instance (a b c : Value) : Decidable (GoRound a b c) :=
  inferInstanceAs (Decidable (∀ _, _ ∧ _))

/-- The order of sorting is not transitive: sizes and texts disagree about `9`, `10` and `1a`,
what is not a number is level with all numbers, and two integers are level with the number that
both are rounded to. -/
theorem exists_sortCompare_not_transitive :
    GoRound (int64 9) (int64 10) (text "1a") ∧
      GoRound (int64 2) (float64 (.nan false)) (int64 1) ∧
        GoRound (int64 9007199254740993) (float64 (.ofInt 9007199254740992))
          (int64 9007199254740992) := by
  refine ⟨?_, ?_, ?_⟩
  · decide +kernel
  · decide +kernel
  · decide +kernel

end Value

end TableQuery
