import TableQuery.Proofs.Value.Reading
import TableQuery.Query.Filter

/-!
# Keys against equality

The operator `=` is coarser than the keys that joins match on. It also holds between what is not a
number and any number, and between an integer beyond 53 bits and the different number that it is
rounded to. Such values blur (`Value.blurs`). Apart from them values have one key when `=` holds
between them (`joinKey?_eq_iff_of_present`).
-/

namespace TableQuery

namespace Value

open Binary64 (unitsPerOne)

/-- Whether the first value reads as an integer, the second as a number but no integer, and the
integer is rounded to this number without being it. -/
def roundsTo (a b : Value) : Bool :=
  match a.asInt64?, b.asInt64?, b.asBinary64? with
  | some i, none, some y =>
    (Binary64.ofInt i.toInt).same y && i.toInt * (unitsPerOne : ℤ) != y.units
  | _, _, _ => false

/-- Whether `=` holds between two values that read as numbers only because one of them, and not the
other, is not-a-number, or because an integer is rounded. -/
def blurs (a b : Value) : Bool :=
  match a.asBinary64?, b.asBinary64? with
  | some x, some y => x.isNan != y.isNan || a.roundsTo b || b.roundsTo a
  | _, _ => false

variable {a b v : Value} {x y : Binary64}

/-! ## Readings against the order -/

/-- Only floating-point values read as infinities or as what is not a number. -/
lemma eq_float64_of_not_finite (hi : v.asInt64? = none) (hx : v.asBinary64? = some x)
    (hfinite : x.isFinite = false) : v = float64 x := by
  cases v with
  | null => cases hx
  | int64 i => cases hi
  | float64 y => rw [Option.some.inj hx]
  | text s =>
    have hsome := (Option.filter_eq_some_iff.mp hx).2
    rw [hfinite] at hsome
    cases hsome

/-- A value that reads as a word has this word for its text. -/
lemma toText_of_reading {s : String} (h : v.reading = .word s) : v.toText = s := by
  cases readAs v with
  | int i hi =>
    rw [reading_of_int hi] at h
    cases h
  | finite x hi hx hfinite =>
    rw [reading_of_finite hi hx hfinite] at h
    cases h
  | notFinite x hi hx hfinite =>
    rw [reading_of_not_finite hi hx hfinite] at h
    rw [eq_float64_of_not_finite hi hx hfinite]
    exact Reading.word.inj h
  | word hx =>
    rw [reading_of_word hx] at h
    exact Reading.word.inj h

/-- A word is the text of no value that reads as a number, infinities and what is not a number
apart. -/
lemma reading_of_text_word {v : Value} (hv : v.isNull = false)
    (h : (text v.toText).asBinary64? = none) : v.reading = .word v.toText := by
  cases v with
  | null => cases hv
  | int64 i =>
    obtain ⟨x, hx, -⟩ := asBinary64?_of_asInt64? (asInt64?_writeInt i)
    rw [toText, hx] at h
    cases h
  | float64 x =>
    cases hfinite : x.isFinite with
    | true =>
      rw [toText, asBinary64?_toText hfinite] at h
      cases h
    | false => exact reading_of_not_finite rfl rfl hfinite
  | text s => exact reading_of_word h

/-- A word reads as the same as a value when it is its text. -/
lemma reading_eq_iff_toText (ha : a.isNull = false) (hb : b.isNull = false)
    (h : a.asBinary64? = none) : a.reading = b.reading ↔ a.toText = b.toText := by
  constructor
  · intro hread
    rw [reading_of_word h] at hread
    exact (toText_of_reading hread.symm).symm
  · intro htext
    have hword : (text b.toText).asBinary64? = none := by
      rw [← htext]
      cases a with
      | null => cases ha
      | int64 | float64 => cases h
      | text s => exact h
    rw [reading_of_text_word hb hword, reading_of_word h, htext]

/-- Numbers that are no integers read as the same when they stand in one place. -/
lemma reading_eq_iff_place (hi : a.asInt64? = none) (hj : b.asInt64? = none)
    (ha : a.asBinary64? = some x) (hb : b.asBinary64? = some y) (hx : x.isNan = false)
    (hy : y.isNan = false) : a.reading = b.reading ↔ x.place = y.place := by
  cases hxfinite : x.isFinite <;> cases hyfinite : y.isFinite
  · rw [reading_of_not_finite hi ha hxfinite, reading_of_not_finite hj hb hyfinite]
    cases x with
    | nan => cases hx
    | finite => cases hxfinite
    | infinite s =>
      cases y with
      | nan => cases hy
      | finite => cases hyfinite
      | infinite t => cases s <;> cases t <;> decide
  · have hplace := Binary64.place_ne hyfinite hxfinite
    rw [reading_of_not_finite hi ha hxfinite, reading_of_finite hj hb hyfinite]
    simp [hplace.symm]
  · have hplace := Binary64.place_ne hxfinite hyfinite
    rw [reading_of_finite hi ha hxfinite, reading_of_not_finite hj hb hyfinite]
    simp [hplace]
  · rw [reading_of_finite hi ha hxfinite, reading_of_finite hj hb hyfinite,
      Binary64.place_of_isFinite hxfinite, Binary64.place_of_isFinite hyfinite]
    simp

/-- An integer and a number that is no integer read as the same when they stand in one place and the
integer is not rounded. -/
lemma reading_eq_iff_not_roundsTo {i : Int64} (hi : a.asInt64? = some i) (hj : b.asInt64? = none)
    (ha : a.asBinary64? = some x) (hb : b.asBinary64? = some y) (hy : y.isNan = false) :
    (a.reading = b.reading ↔ x.place = y.place ∧ a.roundsTo b = false) ∧
      (a.roundsTo b = true → x.place = y.place) := by
  have hfinite := Binary64.isFinite_ofInt64 i
  have hsame : (Binary64.ofInt i.toInt).same y = true ↔ x.place = y.place := by
    rw [Binary64.same_iff (Binary64.isNan_of_isFinite hfinite) hy, place_ofInt ha hi]
  have hrounds : a.roundsTo b = true ↔
      x.place = y.place ∧ i.toInt * (unitsPerOne : ℤ) ≠ y.units := by
    unfold roundsTo
    rw [hi, hj, hb, Bool.and_eq_true, hsame, bne_iff_ne]
  refine ⟨?_, fun h => (hrounds.mp h).1⟩
  rw [← Bool.not_eq_true, hrounds, reading_of_int hi]
  cases hyfinite : y.isFinite with
  | false =>
    have hplace : x.place ≠ y.place := by
      rw [← place_ofInt ha hi]
      exact Binary64.place_ne hfinite hyfinite
    rw [reading_of_not_finite hj hb hyfinite]
    simp [hplace]
  | true =>
    rw [reading_of_finite hj hb hyfinite, Reading.number.injEq]
    constructor
    · intro hunits
      have hplace : x.place = y.place := by
        rw [← place_ofInt ha hi, Binary64.place_of_isFinite hfinite,
          Binary64.place_of_isFinite hyfinite, Binary64.units_ofInt_eq hyfinite hunits.symm]
      exact ⟨hplace, fun h => h.2 hunits⟩
    · rintro ⟨hplace, hnot⟩
      by_contra hne
      exact hnot ⟨hplace, hne⟩

/-- Nothing is rounded to a value that reads as an integer. -/
lemma roundsTo_of_int {j : Int64} (hj : b.asInt64? = some j) : a.roundsTo b = false := by
  unfold roundsTo
  rw [hj]
  cases a.asInt64? <;> rfl

/-- Only values that read as integers are rounded. -/
lemma roundsTo_of_not_int (hi : a.asInt64? = none) : a.roundsTo b = false := by
  unfold roundsTo
  rw [hi]

/-- Two numbers blur when exactly one of them is not a number, or when one of them is an integer
that is rounded to the other. -/
lemma blurs_of_numbers (ha : a.asBinary64? = some x) (hb : b.asBinary64? = some y) :
    a.blurs b = (x.isNan != y.isNan || a.roundsTo b || b.roundsTo a) := by
  unfold blurs
  rw [ha, hb]

/-- What is not a number reads as one word. -/
lemma reading_of_nan (ha : a.asBinary64? = some x) (hx : x.isNan = true) :
    a.asInt64? = none ∧ a.reading = .word "NaN" := by
  have hfinite : x.isFinite = false := by
    cases x with
    | nan => rfl
    | infinite | finite => cases hx
  have hi : a.asInt64? = none := by
    cases hi : a.asInt64? with
    | none => rfl
    | some i =>
      obtain ⟨x', hx', hfinite', -⟩ := asBinary64?_of_asInt64? hi
      rw [Option.some.inj (ha.symm.trans hx'), hfinite'] at hfinite
      cases hfinite
  refine ⟨hi, ?_⟩
  rw [reading_of_not_finite hi ha hfinite]
  cases x with
  | nan => rfl
  | infinite | finite => cases hx

/-- No number reads as the word for what is not a number. -/
lemma reading_ne_of_not_nan (hb : b.asBinary64? = some y) (hy : y.isNan = false) :
    b.reading ≠ .word "NaN" := by
  cases readAs b with
  | int j hj =>
    rw [reading_of_int hj]
    exact Reading.noConfusion
  | finite z hj hz hfinite =>
    rw [reading_of_finite hj hz hfinite]
    exact Reading.noConfusion
  | notFinite z hj hz hfinite =>
    obtain rfl : y = z := Option.some.inj (hb.symm.trans hz)
    rw [reading_of_not_finite hj hz hfinite]
    cases y with
    | nan => cases hy
    | infinite s => cases s <;> decide
    | finite => cases hfinite
  | word hz =>
    rw [hb] at hz
    cases hz

/-- Numbers read as the same when they are level and do not blur. -/
lemma reading_eq_iff_of_numbers (ha : a.asBinary64? = some x) (hb : b.asBinary64? = some y)
    (hone : a.asInt64? = none ∨ b.asInt64? = none) :
    (a.reading = b.reading ↔ (x.compare? y).getD .eq = .eq ∧ a.blurs b = false) ∧
      (a.blurs b = true → (x.compare? y).getD .eq = .eq) := by
  rw [blurs_of_numbers ha hb]
  cases hx : x.isNan <;> cases hy : y.isNan
  · rw [Binary64.compare?_eq_some hx hy, Option.getD_some, compare_eq_iff_eq]
    cases hi : a.asInt64? with
    | some i =>
      have hj : b.asInt64? = none := hone.resolve_left (by rw [hi]; exact Option.some_ne_none i)
      obtain ⟨hread, hblur⟩ := reading_eq_iff_not_roundsTo hi hj ha hb hy
      rw [roundsTo_of_not_int (b := a) hj]
      simpa using ⟨hread, hblur⟩
    | none =>
      cases hj : b.asInt64? with
      | some j =>
        obtain ⟨hread, hblur⟩ := reading_eq_iff_not_roundsTo hj hi hb ha hx
        have hread' : a.reading = b.reading ↔ x.place = y.place ∧ b.roundsTo a = false := by
          rw [eq_comm, hread, eq_comm (a := y.place)]
        have hblur' : b.roundsTo a = true → x.place = y.place := fun h => (hblur h).symm
        rw [roundsTo_of_not_int (b := b) hi]
        simpa using ⟨hread', hblur'⟩
      | none =>
        rw [roundsTo_of_not_int (b := b) hi, roundsTo_of_not_int (b := a) hj]
        simpa using reading_eq_iff_place hi hj ha hb hx hy
  · rw [Binary64.compare?_eq_none (.inr hy), (reading_of_nan hb hy).2]
    simp [reading_ne_of_not_nan ha hx]
  · rw [Binary64.compare?_eq_none (.inl hx), (reading_of_nan ha hx).2]
    simp [(reading_ne_of_not_nan hb hy).symm]
  · obtain ⟨hi, hread⟩ := reading_of_nan ha hx
    obtain ⟨hj, hread'⟩ := reading_of_nan hb hy
    rw [Binary64.compare?_eq_none (.inl hx), hread, hread', roundsTo_of_not_int hi,
      roundsTo_of_not_int hj]
    simp

/-- Values read as the same when they are level and do not blur. -/
lemma reading_eq_iff (ha : a.isNull = false) (hb : b.isNull = false) :
    (a.reading = b.reading ↔ a.compare? b = some .eq ∧ a.blurs b = false) ∧
      (a.blurs b = true → a.compare? b = some .eq) := by
  have hpos : unitsPerOne ≠ 0 := Binary64.unitsPerOne_pos.ne'
  -- readings and comparisons agree within each way of comparing
  cases readTogether a b with
  | ints i j hi hj =>
    have hblurs : a.blurs b = false := by
      obtain ⟨x, hx, hxfinite, -⟩ := asBinary64?_of_asInt64? hi
      obtain ⟨y, hy, hyfinite, -⟩ := asBinary64?_of_asInt64? hj
      rw [blurs_of_numbers hx hy, Binary64.isNan_of_isFinite hxfinite,
        Binary64.isNan_of_isFinite hyfinite, roundsTo_of_int hi, roundsTo_of_int hj]
      rfl
    rw [hblurs, reading_of_int hi, reading_of_int hj, compare?_eq_of_ints hi hj]
    simp [hpos]
  | numbers x y hx hy hone =>
    rw [compare?_eq_of_numbers hx hy hone, Option.some.injEq]
    exact reading_eq_iff_of_numbers hx hy hone
  | texts hone =>
    have hblurs : a.blurs b = false := by
      unfold blurs
      rcases hone with hone | hone
      · rw [hone]
      · rw [hone]
        cases a.asBinary64? <;> rfl
    have hread : a.reading = b.reading ↔ a.toText = b.toText := by
      rcases hone with hone | hone
      · exact reading_eq_iff_toText ha hb hone
      · rw [eq_comm, reading_eq_iff_toText hb ha hone, eq_comm]
    rw [hblurs, hread, compare?_eq_of_word ha hb hone]
    simp

/-- The operator `=` holds between values that are level. -/
lemma satisfies_eq_iff (ha : a.isNull = false) (hb : b.isNull = false) (ignoreCase : Bool) :
    a.satisfies .eq b ignoreCase = true ↔ a.compare? b = some .eq := by
  unfold satisfies
  rw [ha, hb]
  cases a.compare? b with
  | none => simp
  | some order => simp [ComparisonOperator.accepts]

/-- Values have one key when `=` holds between them and they do not blur. -/
lemma joinKey?_eq_iff_of_present (ha : a.isNull = false) (hb : b.isNull = false)
    (ignoreCase : Bool) :
    (a.joinKey? = b.joinKey? ↔ a.satisfies .eq b ignoreCase = true ∧ a.blurs b = false) ∧
      (a.blurs b = true → a.satisfies .eq b ignoreCase = true) := by
  rw [joinKey?_eq_iff_reading ha hb, satisfies_eq_iff ha hb]
  exact reading_eq_iff ha hb

/-- An integer beside the different number that it is rounded to, and what is not a number beside a
number: `=` holds, and the keys differ. -/
theorem exists_satisfies_joinKey?_ne :
    ((int64 9007199254740993).satisfies .eq (float64 (.ofInt 9007199254740992)) false = true ∧
      (int64 9007199254740993).joinKey? ≠ (float64 (.ofInt 9007199254740992)).joinKey?) ∧
    ((float64 (.nan false)).satisfies .eq (int64 1) false = true ∧
      (float64 (.nan false)).joinKey? ≠ (int64 1).joinKey?) := by
  constructor
  · decide +kernel
  · decide +kernel

/-- An empty cell has no key. -/
lemma joinKey?_of_null (h : v.isNull = true) : v.joinKey? = none := by
  unfold joinKey?
  rw [h]
  rfl

/-- No comparison holds of an empty cell. -/
lemma satisfies_of_null (operator : ComparisonOperator) (ignoreCase : Bool)
    (h : a.isNull = true ∨ b.isNull = true) : a.satisfies operator b ignoreCase = false := by
  unfold satisfies
  rw [← Bool.or_eq_true] at h
  rw [if_pos h]

end Value

end TableQuery
