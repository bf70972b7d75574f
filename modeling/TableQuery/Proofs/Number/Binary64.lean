import Mathlib.Data.Prod.Lex
import TableQuery.Proofs.Number.Rounding

/-!
# Binary floating point, in units

A finite number other than zero is known by its units (`eq_of_units_eq`). The number nearest to an
integer of at most 64 bits is finite, keeps the order of integers (`units_ofInt_mono`) and is the
integer itself where the format has it (`units_ofInt_eq`). The numbers that are 64-bit integers are
those whose units are a 64-bit multiple of one (`isWhole_and_isInt64Range_iff`). Numbers are
compared by their places (`compare?_eq_some`). In the total order they are compared by their ranks
(`totalCompare_eq`), which no two of them share (`rank_injective`).
-/

namespace TableQuery

namespace Binary64

/-- How many units make up one. -/
@[irreducible] def unitsPerOne : ℕ := Nat.pow 2 1074

/-- One is a positive number of units. -/
lemma unitsPerOne_pos : 0 < unitsPerOne := by
  unfold unitsPerOne
  -- the power is too large to be computed, so its exponent is made a variable
  generalize 1074 = k
  exact Nat.two_pow_pos k

/-- An integer and its number of units have one sign. -/
lemma mul_unitsPerOne_neg_iff {i : ℤ} : i * unitsPerOne < 0 ↔ i < 0 :=
  ⟨fun hlt => neg_of_mul_neg_left hlt (Int.natCast_nonneg _),
    fun hlt => mul_neg_of_neg_of_pos hlt (by exact_mod_cast unitsPerOne_pos)⟩

/-- A power of two is the same among natural numbers and among fractions. -/
lemma cast_pow_two (k : ℕ) : ((Nat.pow 2 k : ℕ) : ℚ) = 2 ^ (k : ℤ) := by
  rw [zpow_natCast, Nat.pow_eq]
  exact Nat.cast_pow 2 k

/-- The units of one, as a power of two among the fractions. -/
lemma cast_unitsPerOne : (unitsPerOne : ℚ) = 2 ^ ((1074 : ℕ) : ℤ) := by
  unfold unitsPerOne
  generalize 1074 = k
  exact cast_pow_two k

/-- The two readings of being canonical agree. -/
lemma canonical_iff {m : ℕ} {e : ℤ} :
    Canonical m e ↔
      BinaryFormat.double.Canonical (m, e) ∧ e ≤ BinaryFormat.double.maxExponent := by
  constructor
  · rintro ⟨hlt, hleast, hmost, hfull⟩
    exact ⟨⟨hlt, hleast, hfull⟩, hmost⟩
  · rintro ⟨⟨hlt, hleast, hfull⟩, hmost⟩
    exact ⟨hlt, hleast, hmost, hfull⟩

/-- A double keeps at least one bit. -/
lemma precision_pos : 0 < BinaryFormat.double.precision := by decide

/-- The units of a finite number, without its sign. -/
lemma magnitude_finite (negative : Bool) {m : ℕ} {e : ℤ} (h : Canonical m e) :
    ((finite negative m e h).magnitude : ℚ) = BinaryFormat.size (m, e) * unitsPerOne := by
  obtain ⟨-, hleast, -, -⟩ := h
  have hpow : ((Nat.pow 2 (e + 1074).toNat : ℕ) : ℚ) = 2 ^ e * unitsPerOne := by
    rw [cast_pow_two, cast_unitsPerOne, ← zpow_add₀ (by norm_num)]
    congr 1
    push_cast
    omega
  rw [magnitude, BinaryFormat.size, Nat.cast_mul, hpow, mul_assoc]

/-- Without their sign the units are the magnitude. -/
lemma natAbs_units (x : Binary64) : x.units.natAbs = x.magnitude := by
  unfold units
  split <;> omega

/-- The sign of a number other than zero is that of its units. -/
lemma isNegative_eq {x : Binary64} (h : x.units ≠ 0) : x.isNegative = decide (x.units < 0) := by
  unfold units at h ⊢
  cases hsign : x.isNegative
  · have hpos : ¬ ((x.magnitude : ℤ) < 0) := by omega
    exact (decide_eq_false hpos).symm
  · rw [hsign, if_pos rfl] at h
    have hneg : -(x.magnitude : ℤ) < 0 := by omega
    exact (decide_eq_true hneg).symm

/-- A finite number other than zero is known by its units. -/
lemma eq_of_units_eq {x y : Binary64} (hx : x.isFinite) (hy : y.isFinite)
    (h : x.units = y.units) (hne : x.units ≠ 0) : x = y := by
  cases x with
  | nan => cases hx
  | infinite => cases hx
  | finite negative m e hcanonical =>
    cases y with
    | nan => cases hy
    | infinite => cases hy
    | finite negative' m' e' hcanonical' =>
      have hmagnitude : (finite negative m e hcanonical).magnitude =
          (finite negative' m' e' hcanonical').magnitude := by
        rw [← natAbs_units, h, natAbs_units]
      have hsign : negative = negative' := by
        have hneg := isNegative_eq hne
        rw [h] at hne hneg
        exact hneg.trans (isNegative_eq hne).symm
      subst hsign
      -- equal units are equal sizes, and a size has one canonical form
      have hsizes : BinaryFormat.size (m, e) = BinaryFormat.size (m', e') := by
        have hcast : ((finite negative m e hcanonical).magnitude : ℚ) =
          (finite negative m' e' hcanonical').magnitude := by rw [hmagnitude]
        rw [magnitude_finite, magnitude_finite] at hcast
        exact mul_right_cancel₀ (by exact_mod_cast unitsPerOne_pos.ne') hcast
      have hpair := (canonical_iff.mp hcanonical).1.eq_of_size_eq precision_pos
        (canonical_iff.mp hcanonical').1 hsizes
      obtain ⟨rfl, rfl⟩ := Prod.mk.inj hpair
      rfl

/-! ## Numbers from fractions -/

/-- The fraction that is a number of the format gives this number. -/
lemma ofRatio_eq_finite (negative : Bool) {m : ℕ} {e : ℤ} (h : Canonical m e) {num den : ℕ}
    (hpos : 0 < m) (hden : 0 < den) (hsize : (num : ℚ) / den = BinaryFormat.size (m, e)) :
    ofRatio negative num den = finite negative m e h := by
  obtain ⟨hcanonical, hmost⟩ := canonical_iff.mp h
  have hround := BinaryFormat.round_eq_some precision_pos hcanonical hpos hmost hden hsize
  rw [ofRatio, hround]
  exact dif_pos h

/-- The number nearest to a positive integer of at most 64 bits is finite. -/
lemma exists_ofRatio_eq (negative : Bool) {n : ℕ} (hpos : 0 < n) (hle : n ≤ 2 ^ 64) :
    ∃ m e, ∃ h : Canonical m e, ofRatio negative n 1 = finite negative m e h ∧
      BinaryFormat.double.Rounds n (m, e) := by
  obtain ⟨⟨m, e⟩, hrounds, hround⟩ :=
    BinaryFormat.exists_round_eq precision_pos hpos Nat.one_pos
  rw [Nat.cast_one, div_one] at hrounds
  have htop : BinaryFormat.double.Canonical (2 ^ 52, 12) := ⟨by decide, by decide, by decide⟩
  have htopsize : BinaryFormat.size (2 ^ 52, 12) = 2 ^ 64 := by
    norm_num [BinaryFormat.size]
  have hn : (0 : ℚ) < n := by exact_mod_cast hpos
  have hn' : (n : ℚ) ≤ 2 ^ 64 := by exact_mod_cast hle
  have hsize := hrounds.mono hn (htop.rounds_size precision_pos (by decide))
    (by rw [htopsize]; exact hn')
  have hmost : e ≤ BinaryFormat.double.maxExponent :=
    (hrounds.canonical.exponent_le precision_pos htop hsize).trans (by decide)
  have hcanonical : Canonical m e := canonical_iff.mpr ⟨hrounds.canonical, hmost⟩
  refine ⟨m, e, hcanonical, ?_, hrounds⟩
  rw [ofRatio, hround, if_pos hmost]
  exact dif_pos hcanonical

/-- The sign that a fraction is read with is that of the number. -/
@[simp] lemma isNegative_ofRatio (negative : Bool) (num den : ℕ) :
    (ofRatio negative num den).isNegative = negative := by
  unfold ofRatio
  split
  · unfold pack
    split <;> rfl
  · rfl

/-- A fraction with numerator zero is rounded to the zero of its sign. -/
@[simp] lemma ofRatio_zero (negative : Bool) (den : ℕ) : ofRatio negative 0 den = zero negative :=
  rfl

/-- A number with significand zero has magnitude zero. -/
lemma magnitude_eq_zero {negative : Bool} {e : ℤ} (h : Canonical 0 e) :
    (finite negative 0 e h).magnitude = 0 :=
  Nat.zero_mul _

/-- Zero has magnitude zero, whatever its sign. -/
@[simp] lemma magnitude_zero (negative : Bool) : (zero negative).magnitude = 0 :=
  magnitude_eq_zero _

/-- The magnitude of a rounded fraction does not depend on its sign. -/
lemma magnitude_ofRatio (negative : Bool) (num den : ℕ) :
    (ofRatio negative num den).magnitude = (ofRatio false num den).magnitude := by
  unfold ofRatio
  split
  · unfold pack
    split <;> rfl
  · rfl

/-- Larger integers of at most 64 bits are not rounded to smaller numbers. -/
lemma magnitude_ofRatio_mono {n n' : ℕ} (h : n ≤ n') (hle : n' ≤ 2 ^ 64) :
    (ofRatio false n 1).magnitude ≤ (ofRatio false n' 1).magnitude := by
  rcases Nat.eq_zero_or_pos n with rfl | hpos
  · rw [ofRatio_zero, magnitude_zero]
    exact Nat.zero_le _
  · obtain ⟨m, e, hcanonical, heq, hrounds⟩ := exists_ofRatio_eq false hpos (h.trans hle)
    obtain ⟨m', e', hcanonical', heq', hrounds'⟩ := exists_ofRatio_eq false (hpos.trans_le h) hle
    have hn : (0 : ℚ) < n := by exact_mod_cast hpos
    have hn' : (n : ℚ) ≤ n' := by exact_mod_cast h
    have hcast : ((finite false m e hcanonical).magnitude : ℚ) ≤
        (finite false m' e' hcanonical').magnitude := by
      rw [magnitude_finite, magnitude_finite]
      exact mul_le_mul_of_nonneg_right (hrounds.mono hn hrounds' hn') (Nat.cast_nonneg _)
    rw [heq, heq']
    exact_mod_cast hcast

/-! ## Numbers from integers -/

/-- An integer of at most 64 bits is rounded to a finite number. -/
lemma isFinite_ofRatio (negative : Bool) {n : ℕ} (hn : n ≤ 2 ^ 64) :
    (ofRatio negative n 1).isFinite := by
  rcases Nat.eq_zero_or_pos n with rfl | hpos
  · rw [ofRatio_zero]
    rfl
  · obtain ⟨m, e, hcanonical, heq, -⟩ := exists_ofRatio_eq negative hpos hn
    rw [heq]
    rfl

/-- The number nearest to an integer of at most 64 bits is finite. -/
lemma isFinite_ofInt {i : ℤ} (hi : i.natAbs ≤ 2 ^ 64) : (ofInt i).isFinite :=
  isFinite_ofRatio _ hi

/-- The units of a rounded fraction are its magnitude under its sign. -/
lemma units_ofRatio (negative : Bool) (num den : ℕ) :
    (ofRatio negative num den).units =
      if negative then -((ofRatio false num den).magnitude : ℤ)
      else (ofRatio false num den).magnitude := by
  unfold units
  rw [isNegative_ofRatio, magnitude_ofRatio]

/-- The units of a rounded integer are the magnitude of its absolute value under its sign. -/
lemma units_ofInt (i : ℤ) :
    (ofInt i).units =
      if i < 0 then -((ofRatio false i.natAbs 1).magnitude : ℤ)
      else (ofRatio false i.natAbs 1).magnitude := by
  unfold ofInt
  rw [units_ofRatio]
  simp only [decide_eq_true_eq]

/-- An integer is rounded to a whole number. -/
lemma exists_units_ofInt {i : ℤ} (hi : i.natAbs ≤ 2 ^ 64) :
    ∃ k : ℤ, (ofInt i).units = k * unitsPerOne := by
  have hmagnitude : ∃ k : ℕ, (ofRatio false i.natAbs 1).magnitude = k * unitsPerOne := by
    rcases Nat.eq_zero_or_pos i.natAbs with hzero | hpos
    · refine ⟨0, ?_⟩
      rw [hzero, ofRatio_zero, magnitude_zero, Nat.zero_mul]
    · obtain ⟨m, e, hcanonical, heq, hrounds⟩ := exists_ofRatio_eq false hpos hi
      obtain ⟨k, hk⟩ := hrounds.whole
      have hcast := magnitude_finite false hcanonical
      rw [hk] at hcast
      refine ⟨k, ?_⟩
      rw [heq]
      exact_mod_cast hcast
  obtain ⟨k, hk⟩ := hmagnitude
  rw [units_ofInt, hk]
  split
  · refine ⟨-k, ?_⟩
    push_cast
    ring
  · exact ⟨k, Nat.cast_mul k unitsPerOne⟩

/-- A sign and a whole number give the units of the integer that they are. -/
lemma units_ofRatio_one (negative : Bool) (n : ℕ) :
    (ofRatio negative n 1).units = (ofInt (if negative then -(n : ℤ) else n)).units := by
  rw [units_ofRatio, units_ofInt]
  cases negative with
  | false =>
    have hsign : ¬ ((n : ℤ) < 0) := by omega
    simp only [Bool.false_eq_true, ↓reduceIte, hsign, Int.natAbs_natCast]
  | true =>
    rcases Nat.eq_zero_or_pos n with rfl | hpos
    · rw [ofRatio_zero, magnitude_zero]
      simp
    · have hsign : -(n : ℤ) < 0 := by omega
      simp only [↓reduceIte, hsign, Int.natAbs_neg, Int.natAbs_natCast]

/-- Rounding integers keeps their order. -/
lemma units_ofInt_mono {i j : ℤ} (h : i ≤ j) (hi : i.natAbs ≤ 2 ^ 64) (hj : j.natAbs ≤ 2 ^ 64) :
    (ofInt i).units ≤ (ofInt j).units := by
  rw [units_ofInt, units_ofInt]
  split_ifs with hineg hjneg hjneg
  · have hmono := magnitude_ofRatio_mono (by omega : j.natAbs ≤ i.natAbs) hi
    omega
  · omega
  · omega
  · have hmono := magnitude_ofRatio_mono (by omega : i.natAbs ≤ j.natAbs) hj
    omega

/-- The absolute value of a 64-bit integer is at most 2 ^ 64. -/
lemma natAbs_toInt_le (i : Int64) : i.toInt.natAbs ≤ 2 ^ 64 := by
  have hlow := i.le_toInt
  have hhigh := i.toInt_lt
  omega

/-- A 64-bit integer is rounded to a finite number. -/
lemma isFinite_ofInt64 (i : Int64) : (ofInt i.toInt).isFinite :=
  isFinite_ofInt (natAbs_toInt_le i)

/-- Rounding keeps the order of 64-bit integers. -/
lemma units_ofInt64_mono {i j : Int64} (h : i.toInt ≤ j.toInt) :
    (ofInt i.toInt).units ≤ (ofInt j.toInt).units :=
  units_ofInt_mono h (natAbs_toInt_le i) (natAbs_toInt_le j)

/-- An integer that is a number of the format is not rounded. -/
lemma units_ofInt_eq {x : Binary64} (hx : x.isFinite) {i : ℤ} (h : x.units = i * unitsPerOne) :
    (ofInt i).units = x.units := by
  cases x with
  | nan => cases hx
  | infinite => cases hx
  | finite negative m e hcanonical =>
    rcases eq_or_ne i 0 with rfl | hi
    · rw [h, units_ofInt]
      simp
    · have hpos := unitsPerOne_pos
      have hunits : (finite negative m e hcanonical).units ≠ 0 := by
        rw [h]
        exact mul_ne_zero hi (by exact_mod_cast hpos.ne')
      have hsign : negative = decide (i < 0) := by
        have hneg := isNegative_eq hunits
        rw [h, decide_eq_decide.mpr mul_unitsPerOne_neg_iff] at hneg
        exact hneg
      have hmagnitude : (finite negative m e hcanonical).magnitude = i.natAbs * unitsPerOne := by
        rw [← natAbs_units, h, Int.natAbs_mul, Int.natAbs_natCast]
      have hsize : ((i.natAbs : ℕ) : ℚ) / (1 : ℕ) = BinaryFormat.size (m, e) := by
        have hcast := magnitude_finite negative hcanonical
        rw [hmagnitude, Nat.cast_mul] at hcast
        rw [Nat.cast_one, div_one]
        exact mul_right_cancel₀ (by exact_mod_cast hpos.ne') hcast
      have hm : 0 < m := by
        rcases Nat.eq_zero_or_pos m with rfl | hm
        · have hzero : (finite negative 0 e hcanonical).units.natAbs = 0 := by
            rw [natAbs_units, magnitude_eq_zero]
          exact absurd (Int.natAbs_eq_zero.mp hzero) hunits
        · exact hm
      rw [ofInt, ← hsign, ofRatio_eq_finite negative hcanonical hm Nat.one_pos hsize]

/-! ## Whole numbers -/

/-- A finite number is whole exactly when its units are a multiple of those of one. -/
lemma isWhole_iff {x : Binary64} (hx : x.isFinite) :
    x.isWhole = true ↔ ∃ k : ℤ, x.units = k * unitsPerOne := by
  have hmod : x.isWhole = (x.magnitude % unitsPerOne == 0) := by
    unfold isWhole unitsPerOne
    generalize 1074 = k
    rw [hx, Bool.true_and]
  rw [hmod, beq_iff_eq, ← Nat.dvd_iff_mod_eq_zero, ← natAbs_units, ← Int.natCast_dvd]
  constructor
  · rintro ⟨k, hk⟩
    exact ⟨k, hk.trans (mul_comm _ _)⟩
  · rintro ⟨k, hk⟩
    exact ⟨k, hk.trans (mul_comm _ _)⟩

/-- A finite number is in the range of 64-bit integers exactly when its units are. -/
lemma isInt64Range_iff {x : Binary64} (hx : x.isFinite) :
    x.isInt64Range = true ↔
      -(2 ^ 63 * unitsPerOne) ≤ x.units ∧ x.units < 2 ^ 63 * unitsPerOne := by
  have hbound : ((Nat.pow 2 (63 + 1074) : ℕ) : ℤ) = 2 ^ 63 * unitsPerOne := by
    unfold unitsPerOne
    generalize 1074 = k
    rw [Nat.pow_eq, Nat.pow_eq, pow_add]
    push_cast
    rfl
  unfold isInt64Range
  rw [hx, hbound]
  simp only [Bool.true_and, Bool.and_eq_true, decide_eq_true_eq]

/-- The numbers that are 64-bit integers are those whose units are a 64-bit multiple of one. -/
lemma isWhole_and_isInt64Range_iff {x : Binary64} (hx : x.isFinite) :
    (x.isWhole && x.isInt64Range) = true ↔ ∃ i : Int64, x.units = i.toInt * unitsPerOne := by
  have hpos : (0 : ℤ) < unitsPerOne := by exact_mod_cast unitsPerOne_pos
  rw [Bool.and_eq_true, isWhole_iff hx, isInt64Range_iff hx]
  constructor
  · rintro ⟨⟨k, hk⟩, hlow, hhigh⟩
    rw [hk] at hlow hhigh
    have hlow' : -2 ^ 63 ≤ k := by
      rw [← neg_mul] at hlow
      exact le_of_mul_le_mul_right hlow hpos
    have hhigh' : k < 2 ^ 63 := lt_of_mul_lt_mul_right hhigh hpos.le
    refine ⟨Int64.ofInt k, ?_⟩
    rw [hk, Int64.toInt_ofInt_of_le hlow' hhigh']
  · rintro ⟨i, hi⟩
    have hlow := i.le_toInt
    have hhigh := i.toInt_lt
    refine ⟨⟨i.toInt, hi⟩, ?_, ?_⟩
    · rw [hi, ← neg_mul]
      exact mul_le_mul_of_nonneg_right hlow hpos.le
    · rw [hi]
      exact mul_lt_mul_of_pos_right hhigh hpos

/-- The number just above the 64-bit integers is exact. -/
lemma units_ofInt_two_pow : (ofInt (2 ^ 63)).units = 2 ^ 63 * unitsPerOne := by
  decide +kernel

/-- The least 64-bit integer is exact. -/
lemma units_ofInt_neg_two_pow : (ofInt (-2 ^ 63)).units = -2 ^ 63 * unitsPerOne := by
  decide +kernel

/-- A 64-bit integer is rounded to a 64-bit integer, or to the number just above them. -/
lemma units_ofInt_int64 (i : Int64) :
    (∃ j : Int64, (ofInt i.toInt).units = j.toInt * unitsPerOne) ∨
      (ofInt i.toInt).units = (ofInt (2 ^ 63)).units := by
  have hpos : (0 : ℤ) < unitsPerOne := by exact_mod_cast unitsPerOne_pos
  have hlow := i.le_toInt
  have hhigh := i.toInt_lt
  obtain ⟨k, hk⟩ := exists_units_ofInt (natAbs_toInt_le i)
  have hle := units_ofInt_mono hhigh.le (natAbs_toInt_le i) (by omega)
  have hge := units_ofInt_mono hlow (by omega) (natAbs_toInt_le i)
  rw [hk] at hle hge ⊢
  rw [units_ofInt_neg_two_pow] at hge
  rw [units_ofInt_two_pow] at hle ⊢
  have hlow' : -2 ^ 63 ≤ k := le_of_mul_le_mul_right hge hpos
  have hhigh' : k ≤ 2 ^ 63 := le_of_mul_le_mul_right hle hpos
  rcases hhigh'.lt_or_eq with hlt | heq
  · refine .inl ⟨Int64.ofInt k, ?_⟩
    rw [Int64.toInt_ofInt_of_le hlow' hlt]
  · exact .inr (by rw [heq])

/-- A whole number is cut off to itself. -/
lemma truncate_eq {x : Binary64} {i : ℤ} (h : x.units = i * unitsPerOne) : x.truncate = i := by
  have hpos : (unitsPerOne : ℤ) ≠ 0 := by exact_mod_cast unitsPerOne_pos.ne'
  have htruncate : x.truncate = x.units.tdiv unitsPerOne := by
    unfold truncate unitsPerOne
    generalize 1074 = k
    rfl
  rw [htruncate, h]
  exact Int.mul_tdiv_cancel i hpos

/-! ## Order -/

/-- Whether the number is not a number. -/
def isNan : Binary64 → Bool
  | nan _ => true
  | _ => false

/-- Where a number stands in the numeric order: by band, then by size. -/
def place (x : Binary64) : ℤ ×ₗ ℤ := toLex (x.band, x.units)

/-- Numbers are compared by their places, in which the two zeros are one. -/
lemma compare?_eq_some {x y : Binary64} (hx : x.isNan = false) (hy : y.isNan = false) :
    x.compare? y = some (compare x.place y.place) := by
  have hplaces : compare x.place y.place =
      (compare x.band y.band).then (compare x.units y.units) := rfl
  rw [hplaces]
  cases x with
  | nan => cases hx
  | infinite a =>
    cases y with
    | nan => cases hy
    | infinite b => cases a <;> cases b <;> rfl
    | finite => cases a <;> rfl
  | finite =>
    cases y with
    | nan => cases hy
    | infinite b => cases b <;> rfl
    | finite => rfl

/-- What is not a number has no order to any number. -/
lemma compare?_eq_none {x y : Binary64} (h : x.isNan = true ∨ y.isNan = true) :
    x.compare? y = none := by
  rcases h with h | h
  · cases x with
    | nan => rfl
    | infinite => cases h
    | finite => cases h
  · cases y with
    | nan => cases x <;> rfl
    | infinite => cases h
    | finite => cases h

/-- A number is level with itself, and so is what is not a number. -/
lemma getD_compare?_self (x : Binary64) : (x.compare? x).getD .eq = .eq := by
  cases hnan : x.isNan with
  | true => rw [compare?_eq_none (.inl hnan), Option.getD_none]
  | false => rw [compare?_eq_some hnan hnan, Option.getD_some, Std.ReflOrd.compare_self]

/-- The order turns around when its sides are swapped. -/
lemma compare?_swap (x y : Binary64) : y.compare? x = (x.compare? y).map Ordering.swap := by
  by_cases hnan : x.isNan = true ∨ y.isNan = true
  · rw [compare?_eq_none hnan, compare?_eq_none hnan.symm, Option.map_none]
  · rw [not_or, Bool.not_eq_true, Bool.not_eq_true] at hnan
    rw [compare?_eq_some hnan.1 hnan.2, compare?_eq_some hnan.2 hnan.1, Option.map_some,
      Std.OrientedOrd.eq_swap]

/-- Numbers are the same exactly when they stand at one place. -/
lemma same_iff {x y : Binary64} (hx : x.isNan = false) (hy : y.isNan = false) :
    x.same y = true ↔ x.place = y.place := by
  rw [same, compare?_eq_some hx hy, beq_iff_eq, Option.some.injEq, compare_eq_iff_eq]

/-- What is finite is a number. -/
lemma isNan_of_isFinite {x : Binary64} (h : x.isFinite) : x.isNan = false := by
  cases x with
  | nan => cases h
  | infinite | finite => rfl

/-- The place of a finite number is given by its units. -/
lemma place_of_isFinite {x : Binary64} (h : x.isFinite) : x.place = toLex (0, x.units) := by
  cases x with
  | nan => cases h
  | infinite => cases h
  | finite => rfl

/-- Infinities and what is not a number stand beside the finite numbers. -/
lemma place_ne {x y : Binary64} (hx : x.isFinite) (hy : y.isFinite = false) :
    x.place ≠ y.place := by
  intro h
  rw [place_of_isFinite hx] at h
  have hband : 0 = y.band := congrArg (fun place => (ofLex place).1) h
  cases y with
  | nan negative => cases negative <;> cases hband
  | infinite negative => cases negative <;> cases hband
  | finite => cases hy

/-- Finite numbers stand in the order of their units. -/
lemma place_le_iff {x y : Binary64} (hx : x.isFinite) (hy : y.isFinite) :
    x.place ≤ y.place ↔ x.units ≤ y.units := by
  rw [place_of_isFinite hx, place_of_isFinite hy, Prod.Lex.toLex_le_toLex]
  simp

/-! ## The total order -/

/-- Where a number stands in the total order: by band, then by size, and negative zero below
positive zero. -/
def rank (x : Binary64) : ℤ ×ₗ ℤ ×ₗ Bool := toLex (x.band, toLex (x.units, !x.isNegative))

/-- The total order compares ranks. -/
lemma totalCompare_eq (x y : Binary64) : x.totalCompare y = compare x.rank y.rank := by
  have hsigns : compare y.isNegative x.isNegative = compare (!x.isNegative) (!y.isNegative) := by
    cases x.isNegative <;> cases y.isNegative <;> rfl
  rw [totalCompare, hsigns]
  rfl

/-- Zero is known by its sign. -/
lemma eq_zero_of_units {x : Binary64} (hx : x.isFinite) (h : x.units = 0) :
    x = zero x.isNegative := by
  cases x with
  | nan => cases hx
  | infinite => cases hx
  | finite negative m e hcanonical =>
    have hmagnitude : (finite negative m e hcanonical).magnitude = 0 := by
      rw [← natAbs_units, h, Int.natAbs_zero]
    obtain rfl : m = 0 := (Nat.mul_eq_zero.mp hmagnitude).resolve_right (Nat.two_pow_pos _).ne'
    obtain rfl : e = -1074 := hcanonical.2.2.2.resolve_left (by simp)
    rfl

/-- No two numbers have one rank. -/
lemma rank_injective : Function.Injective rank := by
  intro x y h
  have hband : x.band = y.band := congrArg (fun rank => (ofLex rank).1) h
  have hunits : x.units = y.units := congrArg (fun rank => (ofLex (ofLex rank).2).1) h
  have hsign : x.isNegative = y.isNegative :=
    Bool.not_inj (congrArg (fun rank => (ofLex (ofLex rank).2).2) h)
  have hplace : x.place = y.place := congrArg toLex (Prod.ext hband hunits)
  cases hx : x.isFinite with
  | true =>
    have hy : y.isFinite = true := by
      by_contra hy
      exact place_ne hx (Bool.eq_false_iff.mpr hy) hplace
    by_cases hzero : x.units = 0
    · rw [eq_zero_of_units hx hzero, eq_zero_of_units hy (hunits ▸ hzero), hsign]
    · exact eq_of_units_eq hx hy hunits hzero
  | false =>
    -- the others are known by their bands
    have hy : y.isFinite = false := by
      rw [← Bool.not_eq_true]
      exact fun hy => place_ne hy hx hplace.symm
    cases x with
    | nan a => cases y with
      | nan b => exact congrArg nan hsign
      | infinite b => cases a <;> cases b <;> cases hband
      | finite => cases hy
    | infinite a => cases y with
      | nan b => cases a <;> cases b <;> cases hband
      | infinite b => exact congrArg infinite hsign
      | finite => cases hy
    | finite => cases hx

end Binary64

end TableQuery
