import TableQuery.Number.Literal
import TableQuery.Proofs.Number.Binary64

/-!
# Decimals as fractions

A decimal is rounded by its value: its digits and its exponent do not matter otherwise
(`round_congr`). Within the limits of scale it is rounded as the fraction that it stands for
(`round_eq`), and the decimal printed for a number of the double format is rounded to this number
again (`round_shortest`).
-/

namespace TableQuery

namespace Decimal

/-- The number that a decimal stands for. -/
def value (d : Decimal) : ℚ := d.digits * 10 ^ d.exponent

/-- A decimal has no sign, so its value is not negative. -/
lemma value_nonneg (d : Decimal) : 0 ≤ d.value :=
  mul_nonneg (Nat.cast_nonneg _) (zpow_nonneg (by norm_num) _)

/-- A decimal has the value zero exactly when its digits are zero. -/
lemma value_eq_zero_iff {d : Decimal} : d.value = 0 ↔ d.digits = 0 := by
  have hpow : (10 : ℚ) ^ d.exponent ≠ 0 := zpow_ne_zero _ (by norm_num)
  rw [value, mul_eq_zero_iff_right hpow, Nat.cast_eq_zero]

/-- A decimal with other digits than zero has a positive value. -/
lemma value_pos {d : Decimal} (h : d.digits ≠ 0) : 0 < d.value :=
  lt_of_le_of_ne d.value_nonneg fun hzero => h (value_eq_zero_iff.mp hzero.symm)

/-- The fraction that is rounded is the value. -/
lemma num_div_den (d : Decimal) : (d.num : ℚ) / d.den = d.value := by
  unfold num den value
  rw [Nat.pow_eq, Nat.pow_eq]
  push_cast
  rcases le_total 0 d.exponent with h | h
  · have hneg : (-d.exponent).toNat = 0 := by omega
    have hpos : (d.exponent.toNat : ℤ) = d.exponent := Int.toNat_of_nonneg h
    rw [hneg, pow_zero, div_one, ← zpow_natCast, hpos]
  · have hpos : d.exponent.toNat = 0 := by omega
    have hneg : ((-d.exponent).toNat : ℤ) = -d.exponent := Int.toNat_of_nonneg (by omega)
    rw [hpos, pow_zero, mul_one, ← zpow_natCast, hneg, zpow_neg, div_inv_eq_mul]

/-- The denominator of a decimal is a power of ten, and not zero. -/
lemma den_pos (d : Decimal) : 0 < d.den := Nat.pow_pos (by decide)

/-- The scale is one more than the whole part of the decimal logarithm. -/
lemma scale_eq {d : Decimal} (h : d.digits ≠ 0) : d.scale = Int.log 10 d.value + 1 := by
  have hlength : 0 < d.digitChars.length := Nat.length_toDigits_pos
  have hdigits : 10 ^ (d.digitChars.length - 1) ≤ d.digits := by
    rcases Nat.eq_zero_or_pos (d.digitChars.length - 1) with hone | hmore
    · rw [hone, pow_zero]
      exact Nat.pos_of_ne_zero h
    · by_contra hlt
      have hshort := (Nat.length_toDigits_le_iff (by decide) hmore).mpr (not_le.mp hlt)
      change d.digitChars.length ≤ _ at hshort
      omega
  have hdigits' : d.digits < 10 ^ d.digitChars.length :=
    (Nat.length_toDigits_le_iff (by decide) hlength).mp le_rfl
  have hpow : (0 : ℚ) < 10 ^ d.exponent := zpow_pos (by norm_num) _
  have hlow : (10 : ℚ) ^ (d.scale - 1) ≤ d.value := by
    have hsplit : d.scale - 1 = (d.digitChars.length - 1 : ℕ) + d.exponent := by
      unfold scale
      omega
    rw [hsplit, zpow_add₀ (by norm_num), zpow_natCast, value]
    refine mul_le_mul_of_nonneg_right ?_ hpow.le
    exact_mod_cast hdigits
  have hhigh : d.value < (10 : ℚ) ^ (d.scale - 1 + 1) := by
    rw [sub_add_cancel, scale, zpow_add₀ (by norm_num), zpow_natCast, value]
    refine mul_lt_mul_of_pos_right ?_ hpow
    exact_mod_cast hdigits'
  -- the value lies between two neighbouring powers of ten, which fixes its logarithm
  have hlog := BinaryFormat.log_eq (b := 10) (by norm_num) (value_pos h) hlow hhigh
  omega

/-- Decimals of the same value are rounded alike. -/
lemma round_congr {format : BinaryFormat} (hprecision : 0 < format.precision) {d d' : Decimal}
    (h : d.value = d'.value) : d.round format = d'.round format := by
  by_cases hzero : d.digits = 0
  · have hzero' : d'.digits = 0 := by
      rw [← value_eq_zero_iff, ← h, value_eq_zero_iff]
      exact hzero
    unfold round
    rw [if_pos (.inl hzero), if_pos (.inl hzero')]
  · have hzero' : d'.digits ≠ 0 := by
      rw [ne_eq, ← value_eq_zero_iff, ← h, value_eq_zero_iff]
      exact hzero
    have hscale : d.scale = d'.scale := by rw [scale_eq hzero, scale_eq hzero', h]
    have hfraction : (d.num : ℚ) / d.den = d'.num / d'.den := by
      rw [num_div_den, num_div_den, h]
    unfold round
    rw [hscale, BinaryFormat.round_congr hprecision d.den_pos d'.den_pos hfraction]
    simp only [hzero, hzero', false_or]

/-- Decimals of the same value give the same number. -/
lemma toBinary64_congr (negative : Bool) {d d' : Decimal} (h : d.value = d'.value) :
    d.toBinary64 negative = d'.toBinary64 negative := by
  unfold toBinary64
  rw [round_congr Binary64.precision_pos h]

/-- Inside the limits of scale a decimal is rounded as the fraction that it stands for. -/
lemma round_eq {format : BinaryFormat} (hprecision : 0 < format.precision) {d : Decimal}
    {num den : ℕ} (hden : 0 < den) (hvalue : d.value = num / den)
    (hlow : (10 : ℚ) ^ (-401 : ℤ) ≤ d.value) (hhigh : d.value < (10 : ℚ) ^ (400 : ℤ)) :
    d.round format = format.round num den := by
  have hpos : 0 < d.value := lt_of_lt_of_le (zpow_pos (by norm_num) _) hlow
  have hdigits : d.digits ≠ 0 := fun hzero => hpos.ne' (value_eq_zero_iff.mpr hzero)
  have hle := (Int.zpow_le_iff_le_log (b := 10) (by norm_num) hpos).mp hlow
  have hlt := (Int.lt_zpow_iff_log_lt (b := 10) (by norm_num) hpos).mp hhigh
  have hscale := scale_eq hdigits
  unfold round scaleLimit
  rw [if_neg (by omega), if_neg (by omega)]
  exact BinaryFormat.round_congr hprecision d.den_pos hden (d.num_div_den.trans hvalue)

/-- Three binary digits are less than a decimal one. -/
lemma two_zpow_le (k : ℕ) : (2 : ℚ) ^ ((3 * k : ℕ) : ℤ) ≤ 10 ^ (k : ℤ) := by
  rw [zpow_natCast, zpow_natCast, pow_mul]
  exact pow_le_pow_left₀ (by norm_num) (by norm_num) k

/-- Three binary places are less than a decimal one, also behind the point. -/
lemma le_two_zpow_neg (k : ℕ) : (10 : ℚ) ^ (-(k : ℤ)) ≤ 2 ^ (-((3 * k : ℕ) : ℤ)) := by
  rw [zpow_neg, zpow_neg]
  exact inv_anti₀ (BinaryFormat.two_zpow_pos _) (two_zpow_le k)

/-- A decimal that is an integer of at most 64 bits gives the number nearest to this integer. -/
lemma toBinary64_eq_ofRatio (negative : Bool) {d : Decimal} {n : ℕ} (hvalue : d.value = n)
    (hn : n ≤ 2 ^ 64) : d.toBinary64 negative = .ofRatio negative n 1 := by
  have hround : d.round .double = BinaryFormat.double.round n 1 := by
    rcases Nat.eq_zero_or_pos n with rfl | hpos
    · have hzero : d.digits = 0 := value_eq_zero_iff.mp (hvalue.trans Nat.cast_zero)
      unfold round
      rw [if_pos (.inl hzero)]
      rfl
    · have hone : (1 : ℚ) ≤ n := by exact_mod_cast hpos
      have hlarge : (n : ℚ) ≤ 2 ^ (64 : ℤ) := by exact_mod_cast hn
      have hlow : (10 : ℚ) ^ (-401 : ℤ) ≤ d.value := by
        rw [hvalue]
        exact (zpow_le_one_of_nonpos₀ (by norm_num) (by norm_num)).trans hone
      have hhigh : d.value < (10 : ℚ) ^ (400 : ℤ) := by
        rw [hvalue]
        refine lt_of_le_of_lt hlarge (lt_of_lt_of_le ?_ (two_zpow_le 400))
        exact zpow_lt_zpow_right₀ (by norm_num) (by norm_num)
      have hfraction : d.value = (n : ℚ) / (1 : ℕ) := by rw [hvalue, Nat.cast_one, div_one]
      exact round_eq Binary64.precision_pos Nat.one_pos hfraction hlow hhigh
  unfold toBinary64
  rw [hround]
  rfl

/-! ## The printed decimal -/

/-- A power of two is a whole number of tenths, hundredths and so on. -/
lemma value_exact (m : ℕ) (e : ℤ) : (exact m e).value = BinaryFormat.size (m, e) := by
  unfold exact value BinaryFormat.size
  rw [Nat.pow_eq, Nat.pow_eq]
  push_cast
  rcases le_total 0 e with h | h
  · have hneg : (-e).toNat = 0 := by omega
    have hpos : (e.toNat : ℤ) = e := Int.toNat_of_nonneg h
    rw [hneg, pow_zero, mul_one, min_eq_right h, zpow_zero, mul_one, ← zpow_natCast, hpos]
  · have hpos : e.toNat = 0 := by omega
    have hneg : ((-e).toNat : ℤ) = -e := Int.toNat_of_nonneg (by omega)
    have hten : (10 : ℚ) ^ e = 2 ^ e * 5 ^ e := by
      rw [← mul_zpow]
      norm_num
    have hfive : (5 : ℚ) ^ e ≠ 0 := zpow_ne_zero _ (by norm_num)
    rw [hpos, pow_zero, mul_one, min_eq_left h, ← zpow_natCast, hneg, zpow_neg, hten]
    field_simp

/-- The exact decimal of a canonical number is rounded to this number. -/
lemma round_exact {m : ℕ} {e : ℤ} (h : Binary64.Canonical m e) (hpos : 0 < m) :
    (exact m e).round .double = some (m, e) := by
  obtain ⟨hcanonical, hmost⟩ := Binary64.canonical_iff.mp h
  have hvalue := value_exact m e
  have hm : (1 : ℚ) ≤ m := by exact_mod_cast hpos
  have hm' : (m : ℚ) < 2 ^ (53 : ℤ) := by exact_mod_cast h.1
  have hlow : (10 : ℚ) ^ (-401 : ℤ) ≤ (exact m e).value := by
    have hleast : -((3 * 401 : ℕ) : ℤ) ≤ e := le_trans (by norm_num) h.2.1
    rw [hvalue, BinaryFormat.size]
    calc (10 : ℚ) ^ (-401 : ℤ) ≤ 2 ^ (-((3 * 401 : ℕ) : ℤ)) := le_two_zpow_neg 401
      _ ≤ 2 ^ e := zpow_le_zpow_right₀ (by norm_num) hleast
      _ ≤ m * 2 ^ e := le_mul_of_one_le_left (BinaryFormat.two_zpow_pos e).le hm
  have hhigh : (exact m e).value < (10 : ℚ) ^ (400 : ℤ) := by
    have hsum : 53 + e ≤ ((3 * 400 : ℕ) : ℤ) := by
      have hmost' := h.2.2.1
      omega
    rw [hvalue, BinaryFormat.size]
    calc (m : ℚ) * 2 ^ e < 2 ^ (53 : ℤ) * 2 ^ e :=
          mul_lt_mul_of_pos_right hm' (BinaryFormat.two_zpow_pos e)
      _ = 2 ^ (53 + e) := (zpow_add₀ (by norm_num) _ _).symm
      _ ≤ 2 ^ ((3 * 400 : ℕ) : ℤ) := zpow_le_zpow_right₀ (by norm_num) hsum
      _ ≤ 10 ^ (400 : ℤ) := two_zpow_le 400
  -- within these bounds the value is rounded as the fraction that it is
  have hfraction := (exact m e).num_div_den
  rw [round_eq Binary64.precision_pos (exact m e).den_pos hfraction.symm hlow hhigh]
  exact BinaryFormat.round_eq_some Binary64.precision_pos hcanonical hpos hmost
    (exact m e).den_pos (hfraction.trans hvalue)

/-- The printed decimal is rounded to the number that it is printed for. -/
lemma round_shortest (tie : Tie) {m : ℕ} {e : ℤ} (h : Binary64.Canonical m e) :
    (shortest tie m e).round .double = some (m, e) := by
  unfold shortest
  by_cases hzero : m = 0
  · have hleast : e = -1074 := by
      have hfull := h.2.2.2
      rw [hzero] at hfull
      exact hfull.resolve_left (by decide)
    rw [if_pos hzero, hzero, hleast]
    rfl
  · rw [if_neg hzero]
    dsimp only
    -- either one of the candidates was taken because it is rounded back, or the exact decimal is
    cases hfound : (List.range maxDigits).findSome? fun (count : ℕ) =>
        (neighbours tie (m * Nat.pow 2 e.toNat) (Nat.pow 2 (-e).toNat)
          (decade (m * Nat.pow 2 e.toNat) (Nat.pow 2 (-e).toNat) - count)).find? fun d =>
            decide (d.round .double = some (m, e)) with
    | none =>
      rw [Option.getD_none]
      exact round_exact h (Nat.pos_of_ne_zero hzero)
    | some d =>
      obtain ⟨count, -, hcandidate⟩ := List.exists_of_findSome?_eq_some hfound
      have hback := List.find?_some hcandidate
      rw [Option.getD_some]
      exact of_decide_eq_true hback

end Decimal

end TableQuery
