import TableQuery.Proofs.Value.Order

/-!
# What keys tell

A value reads as a number known exactly, or as a word (`Value.reading`). Its key tells this and
nothing else. A reading can be read back from its key (`HasKey.reading_eq`), since the texts of
numbers read back as these numbers, and it has one key only (`HasKey.unique`). So two values have
the same key when they read as the same (`joinKey?_eq_iff_reading`).
-/

namespace TableQuery

/-- What a value reads as: a number in units, or a word. -/
inductive Reading where
  | number (units : ℤ)
  | word (s : String)
  deriving DecidableEq

namespace Value

open Binary64 (unitsPerOne)

/-- The number or the word that a value reads as. Infinities and what is not a number count as
words. -/
def reading (v : Value) : Reading :=
  match v.asInt64? with
  | some i => .number (i.toInt * unitsPerOne)
  | none =>
    match v.asBinary64? with
    | some x => if x.isFinite then .number x.units else .word x.toText
    | none => .word v.toText

variable {a b v : Value} {x y : Binary64}

/-! ## Readings -/

/-- A value that reads as an integer reads as this number of ones. -/
lemma reading_of_int {i : Int64} (h : v.asInt64? = some i) :
    v.reading = .number (i.toInt * unitsPerOne) := by
  unfold reading
  rw [h]

/-- A value that reads as a number only reads as its units, or as its text if it is not finite. -/
lemma reading_of_number (hi : v.asInt64? = none) (hx : v.asBinary64? = some x) :
    v.reading = if x.isFinite then .number x.units else .word x.toText := by
  unfold reading
  rw [hi, hx]

/-- A finite number reads as its units. -/
lemma reading_of_finite (hi : v.asInt64? = none) (hx : v.asBinary64? = some x)
    (hfinite : x.isFinite) : v.reading = .number x.units := by
  rw [reading_of_number hi hx, if_pos hfinite]

/-- Infinities and what is not a number read as their texts. -/
lemma reading_of_not_finite (hi : v.asInt64? = none) (hx : v.asBinary64? = some x)
    (hfinite : x.isFinite = false) : v.reading = .word x.toText := by
  rw [reading_of_number hi hx, hfinite, if_neg (by decide)]

/-- A value that reads as no number reads as its text. -/
lemma reading_of_word (h : v.asBinary64? = none) : v.reading = .word v.toText := by
  unfold reading
  rw [asInt64?_eq_none h, h]

/-! ## Keys -/

/-- A value that reads as an integer has the digits of the integer for its key. -/
lemma joinKey?_of_int {i : Int64} (h : v.asInt64? = some i) :
    v.joinKey? = some (Literal.writeInt i.toInt) := by
  obtain ⟨x, hx, -⟩ := asBinary64?_of_asInt64? h
  unfold joinKey?
  rw [isNull_of_asBinary64? hx, h]
  rfl

/-- A finite number that is a 64-bit integer has the key of this integer. -/
lemma joinKey?_of_whole (hi : v.asInt64? = none) (hx : v.asBinary64? = some x)
    (hfinite : x.isFinite) {i : Int64} (hunits : x.units = i.toInt * unitsPerOne) :
    v.joinKey? = some (Literal.writeInt i.toInt) := by
  have hwhole := (Binary64.isWhole_and_isInt64Range_iff hfinite).mpr ⟨i, hunits⟩
  unfold joinKey?
  rw [isNull_of_asBinary64? hx, hi, hx]
  dsimp only
  rw [hwhole, Binary64.truncate_eq hunits]
  rfl

/-- The other numbers have their texts for keys. -/
lemma joinKey?_of_not_whole (hi : v.asInt64? = none) (hx : v.asBinary64? = some x)
    (hwhole : (x.isWhole && x.isInt64Range) = false) : v.joinKey? = some x.toText := by
  unfold joinKey?
  rw [isNull_of_asBinary64? hx, hi, hx]
  dsimp only
  rw [hwhole]
  rfl

/-- A value that reads as no number has its text for its key. -/
lemma joinKey?_of_word (hv : v.isNull = false) (h : v.asBinary64? = none) :
    v.joinKey? = some v.toText := by
  unfold joinKey?
  rw [hv, asInt64?_eq_none h, h]
  rfl

/-- Infinities are not whole, and neither is what is not a number. -/
lemma not_whole_of_not_finite (h : x.isFinite = false) :
    (x.isWhole && x.isInt64Range) = false := by
  unfold Binary64.isWhole
  rw [h]
  rfl

/-- The text of a number that is no 64-bit integer reads as no 64-bit integer. -/
lemma asInt64?_toText (hfinite : x.isFinite) (hwhole : (x.isWhole && x.isInt64Range) = false) :
    (text x.toText).asInt64? = none := by
  cases hi : (text x.toText).asInt64? with
  | none => rfl
  | some i =>
    obtain ⟨x', hx', -, hunits⟩ := asBinary64?_of_asInt64? hi
    obtain rfl : x = x' := Option.some.inj ((asBinary64?_toText hfinite).symm.trans hx')
    rcases Binary64.units_ofInt_int64 i with ⟨j, hj⟩ | htop
    · have hwhole' := (Binary64.isWhole_and_isInt64Range_iff hfinite).mpr ⟨j, hunits.trans hj⟩
      rw [hwhole] at hwhole'
      cases hwhole'
    · -- the number just above all 64-bit integers is printed with other digits
      have hne : x.units ≠ 0 := by
        rw [hunits, htop]
        decide +kernel
      have htopfinite : (Binary64.ofInt (2 ^ 63)).isFinite := by decide +kernel
      have hx : x = .ofInt (2 ^ 63) :=
        Binary64.eq_of_units_eq hfinite htopfinite (hunits.trans htop) hne
      have hnone : (text (Binary64.ofInt (2 ^ 63)).toText).asInt64? = none := by decide +kernel
      rw [hx, hnone] at hi
      cases hi

/-- The four ways in which one value is read. -/
inductive ReadAs (v : Value) : Prop
  | int (i : Int64) (hi : v.asInt64? = some i)
  | finite (x : Binary64) (hi : v.asInt64? = none) (hx : v.asBinary64? = some x)
      (hfinite : x.isFinite)
  | notFinite (x : Binary64) (hi : v.asInt64? = none) (hx : v.asBinary64? = some x)
      (hfinite : x.isFinite = false)
  | word (h : v.asBinary64? = none)

/-- A value is read in one of these ways. -/
lemma readAs (v : Value) : ReadAs v := by
  cases hx : v.asBinary64? with
  | none => exact .word hx
  | some x =>
    cases hi : v.asInt64? with
    | some i => exact .int i hi
    | none =>
      cases hfinite : x.isFinite with
      | true => exact .finite x hi hx hfinite
      | false => exact .notFinite x hi hx hfinite

/-! ## Keys of readings -/

/-- A key belongs to a reading in one of three ways: it spells a 64-bit integer, it is the text of
another number, or it is a word. -/
inductive HasKey (r : Reading) (key : String) : Prop
  | int (i : Int64) (hr : r = .number (i.toInt * unitsPerOne))
      (hkey : key = Literal.writeInt i.toInt)
  | number (x : Binary64) (hfinite : x.isFinite) (hwhole : (x.isWhole && x.isInt64Range) = false)
      (hr : r = .number x.units) (hkey : key = x.toText)
  | word (h : (text key).asBinary64? = none) (hr : r = .word key)

/-- The key of a value belongs to what the value reads as. -/
lemma exists_hasKey (hv : v.isNull = false) :
    ∃ key, v.joinKey? = some key ∧ HasKey v.reading key := by
  cases readAs v with
  | int i hi => exact ⟨_, joinKey?_of_int hi, .int i (reading_of_int hi) rfl⟩
  | finite x hi hx hfinite =>
    have hr := reading_of_finite hi hx hfinite
    cases hwhole : x.isWhole && x.isInt64Range with
    | true =>
      obtain ⟨i, hunits⟩ := (Binary64.isWhole_and_isInt64Range_iff hfinite).mp hwhole
      rw [hunits] at hr
      exact ⟨_, joinKey?_of_whole hi hx hfinite hunits, .int i hr rfl⟩
    | false => exact ⟨_, joinKey?_of_not_whole hi hx hwhole, .number x hfinite hwhole hr rfl⟩
  | notFinite x hi hx hfinite =>
    have hkey := joinKey?_of_not_whole hi hx (not_whole_of_not_finite hfinite)
    have hword := asBinary64?_toText_of_not_finite hfinite
    exact ⟨_, hkey, .word hword (reading_of_not_finite hi hx hfinite)⟩
  | word hx =>
    cases v with
    | null => cases hv
    | int64 | float64 => cases hx
    | text s => exact ⟨s, joinKey?_of_word rfl hx, .word hx (reading_of_word hx)⟩

/-- The reading that a key belongs to is that of the key as a text. -/
lemma HasKey.reading_eq {r : Reading} {key : String} (h : HasKey r key) :
    (text key).reading = r := by
  cases h with
  | int i hr hkey => rw [hr, hkey, reading_of_int (asInt64?_writeInt i)]
  | number x hfinite hwhole hr hkey =>
    rw [hr, hkey,
      reading_of_finite (asInt64?_toText hfinite hwhole) (asBinary64?_toText hfinite) hfinite]
  | word hword hr =>
    rw [hr, reading_of_word hword]
    rfl

/-- A reading has one key. -/
lemma HasKey.unique {r : Reading} {key key' : String} (h : HasKey r key) (h' : HasKey r key') :
    key = key' := by
  have hpos : (unitsPerOne : ℤ) ≠ 0 := by exact_mod_cast Binary64.unitsPerOne_pos.ne'
  -- a number that is not a 64-bit integer has other units than every such integer
  have hnot {x : Binary64} (hfinite : x.isFinite)
      (hwhole : (x.isWhole && x.isInt64Range) = false) (i : Int64) :
      x.units ≠ i.toInt * unitsPerOne := by
    intro hunits
    rw [(Binary64.isWhole_and_isInt64Range_iff hfinite).mpr ⟨i, hunits⟩] at hwhole
    cases hwhole
  cases h with
  | int i hr hkey =>
    cases h' with
    | int j hr' hkey' =>
      have hij := mul_right_cancel₀ hpos (Reading.number.inj (hr.symm.trans hr'))
      rw [hkey, hkey', hij]
    | number x hfinite hwhole hr' hkey' =>
      exact absurd (Reading.number.inj (hr'.symm.trans hr)) (hnot hfinite hwhole i)
    | word hword hr' => cases hr.symm.trans hr'
  | number x hfinite hwhole hr hkey =>
    cases h' with
    | int j hr' hkey' =>
      exact absurd (Reading.number.inj (hr.symm.trans hr')) (hnot hfinite hwhole j)
    | number y hfinite' hwhole' hr' hkey' =>
      have hne : x.units ≠ 0 := by
        intro hzero
        exact hnot hfinite hwhole 0 (by rw [hzero, Int64.toInt_zero, zero_mul])
      have hunits : x.units = y.units := Reading.number.inj (hr.symm.trans hr')
      rw [hkey, hkey', Binary64.eq_of_units_eq hfinite hfinite' hunits hne]
    | word hword hr' => cases hr.symm.trans hr'
  | word hword hr =>
    cases h' with
    | int j hr' hkey' => cases hr.symm.trans hr'
    | number y hfinite' hwhole' hr' hkey' => cases hr.symm.trans hr'
    | word hword' hr' => exact Reading.word.inj (hr.symm.trans hr')

/-- Two values have the same key when they read as the same. -/
theorem joinKey?_eq_iff_reading (ha : a.isNull = false) (hb : b.isNull = false) :
    a.joinKey? = b.joinKey? ↔ a.reading = b.reading := by
  obtain ⟨key, hkey, hbelongs⟩ := exists_hasKey ha
  obtain ⟨key', hkey', hbelongs'⟩ := exists_hasKey hb
  rw [hkey, hkey', Option.some.injEq]
  constructor
  · intro h
    rw [← hbelongs.reading_eq, ← hbelongs'.reading_eq, h]
  · intro h
    rw [h] at hbelongs
    exact hbelongs.unique hbelongs'

end Value

end TableQuery
