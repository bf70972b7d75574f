import Mathlib.Data.Int.Log
import Mathlib.Data.Rat.Floor
import Mathlib.Tactic.FieldSimp
import Mathlib.Tactic.Linarith
import Mathlib.Tactic.Positivity
import Mathlib.Tactic.Ring
import TableQuery.Number.Binary64

/-!
# Rounding to a binary format

What `BinaryFormat.round` does is said of the fraction `num / den` and not of its two numbers.
`Rounds format q r` holds when `r` is canonical and stands for the multiple of the last kept bit
nearest to `q`; rounding gives such an `r` or overflows (`exists_round_eq`). From this alone it
follows that rounding keeps order (`Rounds.mono`), that its result is unique (`Rounds.unique`), that
numbers of the format are kept (`round_eq_some`), and that equal fractions are rounded alike
(`round_congr`).
-/

namespace TableQuery

namespace BinaryFormat

/-! ## The nearest whole number -/

/-- A whole number is nearest to a fraction when it is at most one half away, and even if it is
exactly one half away. -/
structure IsNearest (q : ℚ) (n : ℕ) : Prop where
  close : |q - n| ≤ 1 / 2
  even_of_tie : |q - n| = 1 / 2 → n % 2 = 0

/-- A whole number is nearest to itself. -/
lemma isNearest_self (n : ℕ) : IsNearest n n := by
  have hzero : |(n : ℚ) - n| = 0 := by simp
  exact ⟨by rw [hzero]; norm_num, fun h => by rw [hzero] at h; norm_num at h⟩

/-- The larger of two fractions has the larger nearest whole number. -/
lemma IsNearest.mono {q r : ℚ} {m n : ℕ} (hm : IsNearest q m) (hn : IsNearest r n) (h : q ≤ r) :
    m ≤ n := by
  by_contra hlt
  have hsucc : (n : ℚ) + 1 ≤ m := by exact_mod_cast Nat.succ_le_of_lt (Nat.lt_of_not_le hlt)
  have hbelow := (abs_le.mp hm.close).1
  have habove := (abs_le.mp hn.close).2
  -- both fractions lie halfway between the two whole numbers, so that both of these are even
  have hmid : q - m = -(1 / 2) := by linarith
  have hmid' : r - n = 1 / 2 := by linarith
  have hm2 := hm.even_of_tie (by rw [hmid, abs_neg, abs_of_pos (by norm_num)])
  have hn2 := hn.even_of_tie (by rw [hmid', abs_of_pos (by norm_num)])
  have hnext : (m : ℚ) = n + 1 := by linarith
  have hnext' : m = n + 1 := by exact_mod_cast hnext
  omega

/-- There is one nearest whole number, since ties go to the even one. -/
lemma IsNearest.unique {q : ℚ} {m n : ℕ} (hm : IsNearest q m) (hn : IsNearest q n) : m = n :=
  le_antisymm (hm.mono hn le_rfl) (hn.mono hm le_rfl)

/-- Rounding a quotient gives the nearest whole number. -/
lemma isNearest_nearestEven (num : ℕ) {den : ℕ} (hden : 0 < den) :
    IsNearest ((num : ℚ) / den) (nearestEven num den) := by
  have hden' : (0 : ℚ) < den := by exact_mod_cast hden
  have hsplit : (num : ℚ) / den = (num / den : ℕ) + (num % den : ℕ) / (den : ℚ) := by
    rw [div_eq_iff hden'.ne', add_mul, div_mul_cancel₀ _ hden'.ne']
    exact_mod_cast (Nat.div_add_mod' num den).symm
  have hnonneg : 0 ≤ ((num % den : ℕ) : ℚ) / den := by positivity
  have hlt : ((num % den : ℕ) : ℚ) / den < 1 := by
    rw [div_lt_one hden']
    exact_mod_cast Nat.mod_lt num hden
  unfold nearestEven
  rw [hsplit]
  generalize hquotient : num / den = quotient
  generalize hrest : num % den = rest at *
  dsimp only
  -- the rest is less than one half, more than one half, or exactly one half
  split_ifs with h1 h2
  · have hhalf : (rest : ℚ) / den < 1 / 2 := by
      rw [div_lt_div_iff₀ hden' (by norm_num)]
      exact_mod_cast (by omega : rest * 2 < 1 * den)
    refine ⟨?_, fun htie => ?_⟩
    · rw [add_sub_cancel_left, abs_of_nonneg hnonneg]
      exact hhalf.le
    · rw [add_sub_cancel_left, abs_of_nonneg hnonneg] at htie
      exact absurd htie hhalf.ne
  · have hhalf : 1 / 2 < (rest : ℚ) / den := by
      rw [div_lt_div_iff₀ (by norm_num) hden']
      exact_mod_cast (by omega : 1 * den < rest * 2)
    have hdist : |(quotient : ℚ) + rest / den - (quotient + 1 : ℕ)| = 1 - rest / den := by
      push_cast
      rw [abs_of_nonpos (by linarith)]
      ring
    refine ⟨by rw [hdist]; linarith, fun htie => ?_⟩
    rw [hdist] at htie
    linarith
  · have hhalf : (rest : ℚ) / den = 1 / 2 := by
      rw [div_eq_div_iff hden'.ne' (by norm_num)]
      exact_mod_cast (by omega : rest * 2 = 1 * den)
    rw [hhalf]
    rcases Nat.mod_two_eq_zero_or_one quotient with heven | hodd
    · have hdist : |(quotient : ℚ) + 1 / 2 - quotient| = 1 / 2 := by
        rw [add_sub_cancel_left, abs_of_pos (by norm_num)]
      rw [heven, add_zero]
      exact ⟨hdist.le, fun _ => heven⟩
    · rw [hodd]
      have hdist : |(quotient : ℚ) + 1 / 2 - (quotient + 1 : ℕ)| = 1 / 2 := by
        push_cast
        rw [abs_of_nonpos (by linarith)]
        ring
      exact ⟨hdist.le, fun _ => by omega⟩

/-! ## The exponent of a fraction -/

/-- A power of two with any exponent, as the quotient that rounding works with. -/
lemma zpow_eq_div (e : ℤ) : (2 : ℚ) ^ e = (2 ^ e.toNat : ℕ) / (2 ^ (-e).toNat : ℕ) := by
  rcases le_total 0 e with h | h
  · have hneg : (-e).toNat = 0 := by omega
    have hpos : (e.toNat : ℤ) = e := Int.toNat_of_nonneg h
    rw [hneg, pow_zero, Nat.cast_one, div_one, Nat.cast_pow, Nat.cast_ofNat, ← zpow_natCast, hpos]
  · have hpos : e.toNat = 0 := by omega
    have hneg : ((-e).toNat : ℤ) = -e := Int.toNat_of_nonneg (by omega)
    rw [hpos, pow_zero, Nat.cast_one, Nat.cast_pow, Nat.cast_ofNat, ← zpow_natCast, hneg, zpow_neg,
      one_div, inv_inv]

/-- The quotient whose nearest whole number is the significand at an exponent. -/
lemma scaled_eq (num den : ℕ) (e : ℤ) :
    ((num * Nat.pow 2 (-e).toNat : ℕ) : ℚ) / (den * Nat.pow 2 e.toNat : ℕ) = num / den / 2 ^ e := by
  rw [zpow_eq_div, Nat.pow_eq, Nat.pow_eq]
  push_cast
  field_simp

/-- The whole part of a logarithm, from the two powers that a fraction lies between. -/
lemma log_eq {b : ℕ} (hb : 1 < b) {q : ℚ} (hq : 0 < q) {k : ℤ} (hlow : (b : ℚ) ^ k ≤ q)
    (hhigh : q < (b : ℚ) ^ (k + 1)) : Int.log b q = k := by
  have hle := (Int.zpow_le_iff_le_log hb hq).mp hlow
  have hlt := (Int.lt_zpow_iff_log_lt hb hq).mp hhigh
  omega

/-- The binade of a fraction is the whole part of its binary logarithm. -/
lemma binade_eq_log {num den : ℕ} (hnum : 0 < num) (hden : 0 < den) :
    binade num den = Int.log 2 ((num : ℚ) / den) := by
  have hnum' : (0 : ℚ) < num := by exact_mod_cast hnum
  have hden' : (0 : ℚ) < den := by exact_mod_cast hden
  have hq : (0 : ℚ) < num / den := by positivity
  set k : ℤ := (num.log2 : ℤ) - den.log2 with hk
  -- the lengths of the two numbers leave only two exponents
  have hlow : (2 : ℚ) ^ (k - 1) ≤ num / den := by
    have hn : (2 : ℚ) ^ (num.log2 : ℤ) ≤ num := by
      exact_mod_cast Nat.log2_self_le hnum.ne'
    have hd : (den : ℚ) ≤ 2 ^ ((den.log2 + 1 : ℕ) : ℤ) := by
      exact_mod_cast (Nat.lt_log2_self (n := den)).le
    have hsplit : (2 : ℚ) ^ (k - 1) = 2 ^ (num.log2 : ℤ) / 2 ^ ((den.log2 + 1 : ℕ) : ℤ) := by
      rw [← zpow_sub₀ (by norm_num)]
      congr 1
      push_cast
      omega
    rw [hsplit]
    gcongr
  have hhigh : (num : ℚ) / den < 2 ^ (k + 1) := by
    have hn : (num : ℚ) < 2 ^ ((num.log2 + 1 : ℕ) : ℤ) := by
      exact_mod_cast Nat.lt_log2_self (n := num)
    have hd : (2 : ℚ) ^ (den.log2 : ℤ) ≤ den := by
      exact_mod_cast Nat.log2_self_le hden.ne'
    have hsplit : (2 : ℚ) ^ (k + 1) = 2 ^ ((num.log2 + 1 : ℕ) : ℤ) / 2 ^ (den.log2 : ℤ) := by
      rw [← zpow_sub₀ (by norm_num)]
      congr 1
      push_cast
      omega
    rw [hsplit]
    exact div_lt_div₀ hn hd (zpow_nonneg (by norm_num) _) (zpow_pos (by norm_num) _)
  have htest : den * Nat.pow 2 k.toNat ≤ num * Nat.pow 2 (-k).toNat ↔ (2 : ℚ) ^ k ≤ num / den := by
    rw [zpow_eq_div, div_le_div_iff₀ (by positivity) hden', Nat.pow_eq, Nat.pow_eq,
      mul_comm den]
    exact_mod_cast Iff.rfl
  unfold binade
  dsimp only
  split_ifs with h
  · exact (log_eq (by norm_num) hq (htest.mp h) hhigh).symm
  · have hhigh' : (num : ℚ) / den < 2 ^ (k - 1 + 1) := by
      rw [sub_add_cancel]
      exact lt_of_not_ge fun hle => h (htest.mpr hle)
    exact (log_eq (by norm_num) hq hlow hhigh').symm

/-! ## Rounding to a format -/

/-- The exponent of the last bit that a format keeps of a positive fraction. -/
def lastExponent (format : BinaryFormat) (q : ℚ) : ℤ :=
  max (Int.log 2 q - (format.precision - 1 : ℕ)) format.minExponent

/-- A significand fills its bits, or its exponent is the least one. -/
structure Canonical (format : BinaryFormat) (r : ℕ × ℤ) : Prop where
  lt_pow : r.1 < 2 ^ format.precision
  minExponent_le : format.minExponent ≤ r.2
  full_or_least : 2 ^ (format.precision - 1) ≤ r.1 ∨ r.2 = format.minExponent

/-- The number that a significand and an exponent stand for. -/
def size (r : ℕ × ℤ) : ℚ := r.1 * 2 ^ r.2

/-- A canonical significand and exponent round a fraction when they stand for the nearest multiple
of the last bit that the format keeps. -/
structure Rounds (format : BinaryFormat) (q : ℚ) (r : ℕ × ℤ) : Prop where
  canonical : format.Canonical r
  size_eq : ∃ n, IsNearest (q / 2 ^ format.lastExponent q) n ∧
    size r = n * 2 ^ format.lastExponent q

variable {format : BinaryFormat}

/-- The highest bit of a fraction is not above the kept bits. -/
lemma log_le_lastExponent (q : ℚ) :
    Int.log 2 q ≤ format.lastExponent q + (format.precision - 1 : ℕ) := by
  have h := le_max_left (Int.log 2 q - (format.precision - 1 : ℕ)) format.minExponent
  rw [← lastExponent] at h
  omega

/-- The larger of two fractions has the larger exponent of its last bit. -/
lemma lastExponent_mono {q r : ℚ} (hq : 0 < q) (h : q ≤ r) :
    format.lastExponent q ≤ format.lastExponent r := by
  have hlog : Int.log 2 q ≤ Int.log 2 r := Int.log_mono_right hq h
  unfold lastExponent
  omega

/-- Above the least exponent the kept bits start with the highest one of the fraction. -/
lemma lastExponent_eq_of_lt {q : ℚ} (h : format.minExponent < format.lastExponent q) :
    format.lastExponent q + (format.precision - 1 : ℕ) = Int.log 2 q := by
  unfold lastExponent at h ⊢
  omega

/-- Powers of two are positive. -/
lemma two_zpow_pos (e : ℤ) : (0 : ℚ) < 2 ^ e := zpow_pos (by norm_num) e

/-- A power of two is a whole number of smaller powers. -/
lemma zpow_add_natCast (e : ℤ) (k : ℕ) : (2 : ℚ) ^ (e + k) = (2 ^ k : ℕ) * 2 ^ e := by
  rw [zpow_add₀ (by norm_num), zpow_natCast, mul_comm]
  push_cast
  rfl

/-- A fraction below a multiple of a power of two has no larger nearest multiple. -/
lemma nearest_le {q : ℚ} {e : ℤ} {k n : ℕ} (hn : IsNearest (q / 2 ^ e) n)
    (h : q ≤ 2 ^ (e + k)) : n ≤ 2 ^ k := by
  refine hn.mono (isNearest_self (2 ^ k)) ?_
  rw [div_le_iff₀ (two_zpow_pos e), ← zpow_add_natCast]
  exact h

/-- A fraction above a multiple of a power of two has no smaller nearest multiple. -/
lemma le_nearest {q : ℚ} {e : ℤ} {k n : ℕ} (hn : IsNearest (q / 2 ^ e) n)
    (h : 2 ^ (e + k) ≤ q) : 2 ^ k ≤ n := by
  refine (isNearest_self (2 ^ k)).mono hn ?_
  rw [le_div_iff₀ (two_zpow_pos e), ← zpow_add_natCast]
  exact h

/-- A fraction in range is rounded to the nearest canonical number, whose exponent may turn out too
large for the format. -/
lemma exists_round_eq (hprecision : 0 < format.precision) {num den : ℕ} (hnum : 0 < num)
    (hden : 0 < den) :
    ∃ r, format.Rounds (num / den) r ∧
      format.round num den = if r.2 ≤ format.maxExponent then some r else none := by
  have hq : (0 : ℚ) < num / den := by positivity
  generalize hfraction : (num : ℚ) / den = q at hq ⊢
  set e := format.lastExponent q with he
  have hnearest : IsNearest (q / 2 ^ e)
      (nearestEven (num * Nat.pow 2 (-e).toNat) (den * Nat.pow 2 e.toNat)) := by
    have hden' : 0 < den * Nat.pow 2 e.toNat := Nat.mul_pos hden (Nat.pow_pos (by decide))
    have h := isNearest_nearestEven (num * Nat.pow 2 (-e).toNat) hden'
    rwa [scaled_eq, hfraction] at h
  have hround : format.round num den =
      let significand := nearestEven (num * Nat.pow 2 (-e).toNat) (den * Nat.pow 2 e.toNat)
      let rounded := if significand = Nat.pow 2 format.precision then
        (Nat.pow 2 (format.precision - 1), e + 1) else (significand, e)
      if rounded.2 ≤ format.maxExponent then some rounded else none := by
    unfold BinaryFormat.round
    rw [if_neg hnum.ne', binade_eq_log hnum hden, hfraction, he]
    rfl
  rw [hround]
  generalize nearestEven (num * Nat.pow 2 (-e).toNat) (den * Nat.pow 2 e.toNat) = n at hnearest ⊢
  have hleast : format.minExponent ≤ e := le_max_right _ _
  have hpow : 2 * 2 ^ (format.precision - 1) = 2 ^ format.precision := by
    rw [← Nat.pow_succ']
    congr 1
    omega
  have hpos : 0 < 2 ^ (format.precision - 1) := Nat.pow_pos (by decide)
  -- the fraction lies below the power of two after its highest bit
  have hle : n ≤ 2 ^ format.precision := by
    refine nearest_le hnearest (le_trans (Int.lt_zpow_succ_log_self (b := 2) (by norm_num) q).le ?_)
    have hlog : Int.log 2 q ≤ format.lastExponent q + (format.precision - 1 : ℕ) :=
      log_le_lastExponent q
    exact zpow_le_zpow_right₀ (by norm_num) (by omega)
  have hfull : 2 ^ (format.precision - 1) ≤ n ∨ e = format.minExponent := by
    rcases hleast.lt_or_eq with hlt | heq
    · refine .inl (le_nearest hnearest ?_)
      rw [he, lastExponent_eq_of_lt hlt]
      exact Int.zpow_log_le_self (b := 2) (by norm_num) hq
    · exact .inr heq.symm
  simp only [Nat.pow_eq]
  by_cases hcarry : n = 2 ^ format.precision
  · refine ⟨(2 ^ (format.precision - 1), e + 1), ⟨⟨?_, ?_, ?_⟩, n, hnearest, ?_⟩, ?_⟩
    · dsimp only
      omega
    · dsimp only
      omega
    · exact .inl le_rfl
    · rw [hcarry, ← hpow, size]
      push_cast
      rw [zpow_add_one₀ (by norm_num)]
      ring
    · rw [if_pos hcarry]
  · refine ⟨(n, e), ⟨⟨lt_of_le_of_ne hle hcarry, hleast, hfull⟩, n, hnearest, rfl⟩, ?_⟩
    rw [if_neg hcarry]

/-- Larger fractions are rounded to larger numbers. -/
lemma Rounds.mono {q q' : ℚ} {r r' : ℕ × ℤ} (hq : 0 < q) (hr : format.Rounds q r)
    (hr' : format.Rounds q' r') (h : q ≤ q') : size r ≤ size r' := by
  obtain ⟨n, hn, hsize⟩ := hr.size_eq
  obtain ⟨n', hn', hsize'⟩ := hr'.size_eq
  rw [hsize, hsize']
  have hpos := two_zpow_pos (format.lastExponent q)
  have hpos' := two_zpow_pos (format.lastExponent q')
  have hlast : format.lastExponent q ≤ format.lastExponent q' := lastExponent_mono hq h
  rcases hlast.eq_or_lt with heq | hlt
  · rw [heq] at hn ⊢
    have hle : n ≤ n' := hn.mono hn' (div_le_div_of_nonneg_right h hpos'.le)
    have hle' : (n : ℚ) ≤ n' := by exact_mod_cast hle
    exact mul_le_mul_of_nonneg_right hle' hpos'.le
  · -- the highest bit of the larger fraction lies between the two results
    have hleast : format.minExponent ≤ format.lastExponent q := le_max_right _ _
    have htop := lastExponent_eq_of_lt (lt_of_le_of_lt hleast hlt)
    have hlog : Int.log 2 q ≤ format.lastExponent q + (format.precision - 1 : ℕ) :=
      log_le_lastExponent q
    obtain ⟨k, hk⟩ : ∃ k : ℕ, format.lastExponent q + k = Int.log 2 q' :=
      ⟨(Int.log 2 q' - format.lastExponent q).toNat, by omega⟩
    have hbelow : n ≤ 2 ^ k := by
      refine nearest_le hn (le_trans (Int.lt_zpow_succ_log_self (b := 2) (by norm_num) q).le ?_)
      exact zpow_le_zpow_right₀ (by norm_num) (by omega)
    have habove : 2 ^ (format.precision - 1) ≤ n' := by
      refine le_nearest hn' ?_
      rw [htop]
      exact Int.zpow_log_le_self (b := 2) (by norm_num) (hq.trans_le h)
    have hbelow' : (n : ℚ) ≤ (2 ^ k : ℕ) := by exact_mod_cast hbelow
    have habove' : ((2 ^ (format.precision - 1) : ℕ) : ℚ) ≤ n' := by exact_mod_cast habove
    calc (n : ℚ) * 2 ^ format.lastExponent q
        ≤ (2 ^ k : ℕ) * 2 ^ format.lastExponent q :=
          mul_le_mul_of_nonneg_right hbelow' hpos.le
      _ = (2 ^ (format.precision - 1) : ℕ) * 2 ^ format.lastExponent q' := by
          rw [← zpow_add_natCast, ← zpow_add_natCast, hk, htop]
      _ ≤ n' * 2 ^ format.lastExponent q' := mul_le_mul_of_nonneg_right habove' hpos'.le

/-- A smaller number has no larger canonical exponent: its significand would need one bit more. -/
lemma Canonical.exponent_le (hprecision : 0 < format.precision) {r r' : ℕ × ℤ}
    (hr : format.Canonical r) (hr' : format.Canonical r') (h : size r ≤ size r') : r.2 ≤ r'.2 := by
  by_contra hlt
  obtain ⟨k, hk⟩ : ∃ k : ℕ, r.2 = r'.2 + (k + 1 : ℕ) := ⟨(r.2 - r'.2 - 1).toNat, by omega⟩
  have hfull : 2 ^ (format.precision - 1) ≤ r.1 :=
    hr.full_or_least.resolve_right (by have := hr'.minExponent_le; omega)
  have hsig : r.1 * 2 ^ (k + 1) ≤ r'.1 := by
    unfold size at h
    rw [hk, zpow_add_natCast, ← mul_assoc] at h
    exact_mod_cast le_of_mul_le_mul_right h (two_zpow_pos r'.2)
  have hpow : 2 ^ format.precision = 2 ^ (format.precision - 1) * 2 := by
    rw [← Nat.pow_succ]
    congr 1
    omega
  have hlarge : 2 ^ (format.precision - 1) * 2 ≤ r.1 * 2 ^ (k + 1) :=
    Nat.mul_le_mul hfull (Nat.le_self_pow (by omega) 2)
  have hsmall := hr'.lt_pow
  omega

/-- A number has one canonical significand and exponent. -/
lemma Canonical.eq_of_size_eq (hprecision : 0 < format.precision) {r r' : ℕ × ℤ}
    (hr : format.Canonical r) (hr' : format.Canonical r') (h : size r = size r') : r = r' := by
  have hexp : r.2 = r'.2 := le_antisymm (hr.exponent_le hprecision hr' h.le)
    (hr'.exponent_le hprecision hr h.ge)
  have hsig : r.1 = r'.1 := by
    unfold size at h
    rw [hexp] at h
    exact_mod_cast mul_right_cancel₀ (two_zpow_pos r'.2).ne' h
  exact Prod.ext hsig hexp

/-- What rounds a fraction is determined by it. -/
lemma Rounds.unique (hprecision : 0 < format.precision) {q : ℚ} {r r' : ℕ × ℤ} (hq : 0 < q)
    (hr : format.Rounds q r) (hr' : format.Rounds q r') : r = r' :=
  hr.canonical.eq_of_size_eq hprecision hr'.canonical
    (le_antisymm (hr.mono hq hr' le_rfl) (hr'.mono hq hr le_rfl))

/-- A canonical number rounds itself. -/
lemma Canonical.rounds_size (hprecision : 0 < format.precision) {r : ℕ × ℤ}
    (hr : format.Canonical r) (hpos : 0 < r.1) :
    format.Rounds (size r) r := by
  have hsig : (0 : ℚ) < r.1 := by exact_mod_cast hpos
  have hsize : 0 < size r := mul_pos hsig (two_zpow_pos r.2)
  have hlast : format.lastExponent (size r) = r.2 := by
    have hhigh : size r < 2 ^ (r.2 + format.precision) := by
      rw [zpow_add_natCast, size]
      refine mul_lt_mul_of_pos_right ?_ (two_zpow_pos r.2)
      exact_mod_cast hr.lt_pow
    have hlog := (Int.lt_zpow_iff_log_lt (b := 2) (by norm_num) hsize).mp hhigh
    have hleast := hr.minExponent_le
    unfold lastExponent
    rcases hr.full_or_least with hfull | heq
    · have hlow : (2 : ℚ) ^ (r.2 + (format.precision - 1 : ℕ)) ≤ size r := by
        rw [zpow_add_natCast, size]
        refine mul_le_mul_of_nonneg_right ?_ (two_zpow_pos r.2).le
        exact_mod_cast hfull
      have hlog' := (Int.zpow_le_iff_le_log (b := 2) (by norm_num) hsize).mp hlow
      omega
    · omega
  refine ⟨hr, r.1, ?_, by rw [hlast, size]⟩
  rw [hlast, size, mul_div_cancel_right₀ _ (two_zpow_pos r.2).ne']
  exact isNearest_self r.1

/-- A whole number is rounded to a whole number. -/
lemma Rounds.whole {n : ℕ} {r : ℕ × ℤ} (h : format.Rounds n r) : ∃ k : ℕ, size r = k := by
  obtain ⟨k, hk, hsize⟩ := h.size_eq
  generalize format.lastExponent n = e at hk hsize
  rcases le_total 0 e with he | he
  · obtain ⟨j, rfl⟩ := Int.eq_ofNat_of_zero_le he
    refine ⟨k * 2 ^ j, ?_⟩
    rw [hsize, zpow_natCast]
    push_cast
    rfl
  · -- all bits of the number are kept
    obtain ⟨j, hj⟩ := Int.eq_ofNat_of_zero_le (neg_nonneg.mpr he)
    have hshift : (n : ℚ) / 2 ^ e = (n * 2 ^ j : ℕ) := by
      rw [div_eq_mul_inv, ← zpow_neg, hj, zpow_natCast]
      push_cast
      rfl
    rw [hshift] at hk
    refine ⟨n, ?_⟩
    rw [hsize, ← (isNearest_self (n * 2 ^ j)).unique hk, ← hshift,
      div_mul_cancel₀ _ (two_zpow_pos e).ne']

/-- A canonical number in range is rounded to itself. -/
lemma round_eq_some (hprecision : 0 < format.precision) {r : ℕ × ℤ} (hr : format.Canonical r)
    (hpos : 0 < r.1) (hmax : r.2 ≤ format.maxExponent) {num den : ℕ} (hden : 0 < den)
    (h : (num : ℚ) / den = size r) : format.round num den = some r := by
  have hsig : (0 : ℚ) < r.1 := by exact_mod_cast hpos
  have hsize : 0 < size r := mul_pos hsig (two_zpow_pos r.2)
  have hnum : 0 < num := by
    rcases Nat.eq_zero_or_pos num with rfl | hnum
    · rw [Nat.cast_zero, zero_div] at h
      exact absurd h hsize.ne
    · exact hnum
  obtain ⟨r', hr', hround⟩ := exists_round_eq hprecision hnum hden
  rw [h] at hr'
  have hsame := (hr.rounds_size hprecision hpos).unique hprecision hsize hr'
  rw [hround, ← hsame, if_pos hmax]

/-- Rounding depends on the fraction only and not on the two numbers that it is written with. -/
lemma round_congr (hprecision : 0 < format.precision) {num den num' den' : ℕ} (hden : 0 < den)
    (hden' : 0 < den') (h : (num : ℚ) / den = num' / den') :
    format.round num den = format.round num' den' := by
  have hd : (0 : ℚ) < den := by exact_mod_cast hden
  have hd' : (0 : ℚ) < den' := by exact_mod_cast hden'
  rcases Nat.eq_zero_or_pos num with hzero | hnum
  · have hnum' : num' = 0 := by
      rw [hzero, Nat.cast_zero, zero_div, eq_comm, div_eq_zero_iff] at h
      exact_mod_cast h.resolve_right hd'.ne'
    rw [hzero, hnum']
    rfl
  · have hq : (0 : ℚ) < num / den := by positivity
    have hnum' : 0 < num' := by
      rw [h] at hq
      exact_mod_cast (div_pos_iff_of_pos_right hd').mp hq
    obtain ⟨r, hr, hround⟩ := exists_round_eq hprecision hnum hden
    obtain ⟨r', hr', hround'⟩ := exists_round_eq hprecision hnum' hden'
    rw [← h] at hr'
    rw [hround, hround', hr.unique hprecision hq hr']

end BinaryFormat

end TableQuery
