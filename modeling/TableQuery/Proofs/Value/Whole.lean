import TableQuery.Proofs.Value.Exact

/-!
# Small whole numbers

An integer of at most 53 bits is a number of the format (`rational?_ofInt`), so that sums of
integers are not rounded as long as they stay that small (`rational?_add`, `rational?_sum`). Numbers
of one value have equal quotients (`same_div`), although they may be zeros of different signs.
`Value.whole?` is the integer that a value reads as, be it written as an integer or as a number that
is one.
-/

namespace TableQuery

namespace Binary64

variable {x y : Binary64} {i j : ℤ}

/-! ## Integers of 53 bits -/

/-- A positive integer of at most 53 bits is a number of the format. -/
lemma exists_canonical_of_le {n : ℕ} (hpos : 0 < n) (hle : n ≤ 2 ^ 53) :
    ∃ m e, 0 < m ∧ Canonical m e ∧ BinaryFormat.size (m, e) = n := by
  rcases hle.lt_or_eq with hlt | rfl
  · -- the significand is filled up with zeros
    have hlow : 2 ^ n.log2 ≤ n := Nat.log2_self_le hpos.ne'
    have hlog : n.log2 ≤ 52 := Nat.lt_succ_iff.mp ((Nat.log2_lt hpos.ne').mpr hlt)
    obtain ⟨k, hk⟩ := Nat.exists_eq_add_of_le hlog
    refine ⟨n * 2 ^ k, -k, by positivity, ⟨?_, by omega, by omega, .inl ?_⟩, ?_⟩
    · have hhigh : n < 2 ^ (n.log2 + 1) := Nat.lt_log2_self
      calc n * 2 ^ k < 2 ^ (n.log2 + 1) * 2 ^ k := Nat.mul_lt_mul_of_pos_right hhigh (by positivity)
        _ = Nat.pow 2 53 := by rw [← pow_add, Nat.pow_eq]; congr 1; omega
    · calc Nat.pow 2 52 = 2 ^ n.log2 * 2 ^ k := by rw [← pow_add, Nat.pow_eq, hk]
        _ ≤ n * 2 ^ k := Nat.mul_le_mul_right _ hlow
    · rw [BinaryFormat.size, zpow_neg, zpow_natCast]
      push_cast
      exact mul_inv_cancel_right₀ (by positivity) _
  · exact ⟨2 ^ 52, 1, by decide, by decide, by norm_num [BinaryFormat.size]⟩

/-- The units of an integer of at most 53 bits are those of one, so many times. -/
lemma units_ofInt_small (h : i.natAbs ≤ 2 ^ 53) : (ofInt i).units = i * unitsPerOne := by
  have hmagnitude : (ofRatio false i.natAbs 1).magnitude = i.natAbs * unitsPerOne := by
    rcases Nat.eq_zero_or_pos i.natAbs with hzero | hpos
    · rw [hzero, ofRatio_zero, magnitude_zero, Nat.zero_mul]
    · obtain ⟨m, e, hm, hcanonical, hsize⟩ := exists_canonical_of_le hpos h
      have hcast := magnitude_finite false hcanonical
      rw [hsize] at hcast
      rw [ofRatio_eq_finite false hcanonical hm Nat.one_pos (by rw [hsize, Nat.cast_one, div_one])]
      exact_mod_cast hcast
  rw [units_ofInt, hmagnitude, Nat.cast_mul, Int.natCast_natAbs]
  split
  · rename_i hneg
    rw [abs_of_neg hneg, neg_mul, neg_neg]
  · rename_i hnonneg
    rw [abs_of_nonneg (not_lt.mp hnonneg)]

/-- An integer of at most 53 bits is not rounded. -/
lemma rational?_ofInt (h : i.natAbs ≤ 2 ^ 53) : (ofInt i).rational? = some (i : ℚ) :=
  rational?_eq_intCast_iff.mpr ⟨isFinite_ofInt (h.trans (by norm_num)), units_ofInt_small h⟩

/-- A whole number of ones is rounded like the integer. -/
lemma ofUnits_mul (negative : Bool) (n : ℕ) :
    ofUnits negative (n * unitsPerOne) = ofRatio negative n 1 := by
  have hunits : ofUnits negative (n * unitsPerOne) =
      ofRatio negative (n * unitsPerOne) unitsPerOne := by
    unfold ofUnits unitsPerOne
    generalize 1074 = k
    rfl
  have hratio : ((n * unitsPerOne : ℕ) : ℚ) / unitsPerOne = (n : ℚ) / (1 : ℕ) := by
    rw [Nat.cast_mul, Nat.cast_one, div_one]
    exact mul_div_cancel_right₀ _ (by exact_mod_cast unitsPerOne_pos.ne')
  rw [hunits, ofRatio, BinaryFormat.round_congr precision_pos unitsPerOne_pos Nat.one_pos hratio,
    ← ofRatio]

/-! ## Sums -/

/-- The sum of two finite numbers is that of their units, rounded. A sum that is zero is negative
when both numbers are. -/
lemma add_eq (hx : x.isFinite) (hy : y.isFinite) : x + y =
    if x.units + y.units = 0 then zero (x.isNegative && y.isNegative)
    else ofUnits (decide (x.units + y.units < 0)) (x.units + y.units).natAbs := by
  cases x with
  | nan => cases hx
  | infinite => cases hx
  | finite =>
    cases y with
    | nan => cases hy
    | infinite => cases hy
    | finite => rfl

/-- The sum of two integers is not rounded if it has at most 53 bits. -/
lemma rational?_add (hx : x.rational? = some (i : ℚ)) (hy : y.rational? = some (j : ℚ))
    (h : (i + j).natAbs ≤ 2 ^ 53) : (x + y).rational? = some ((i + j : ℤ) : ℚ) := by
  obtain ⟨hxfinite, hxunits⟩ := rational?_eq_intCast_iff.mp hx
  obtain ⟨hyfinite, hyunits⟩ := rational?_eq_intCast_iff.mp hy
  rw [add_eq hxfinite hyfinite, hxunits, hyunits, ← add_mul]
  by_cases hzero : i + j = 0
  · rw [hzero, zero_mul, if_pos rfl, rational?_eq_intCast_iff]
    exact ⟨rfl, by simp [units]⟩
  · have hpos : (unitsPerOne : ℤ) ≠ 0 := by exact_mod_cast unitsPerOne_pos.ne'
    rw [if_neg (mul_ne_zero hzero hpos), decide_eq_decide.mpr mul_unitsPerOne_neg_iff,
      Int.natAbs_mul, Int.natAbs_natCast, ofUnits_mul]
    exact rational?_ofInt h

/-- A sum of integers is not rounded if all partial sums have at most 53 bits. -/
lemma rational?_foldl_add {numbers : List Binary64} {integers : List ℤ} {start : Binary64}
    (hstart : start.rational? = some (i : ℚ))
    (h : List.Forall₂ (fun x j => x.rational? = some ((j : ℤ) : ℚ)) numbers integers)
    (hpartial : ∀ first ∈ integers.inits, (i + first.sum).natAbs ≤ 2 ^ 53) :
    (numbers.foldl (· + ·) start).rational? = some ((i + integers.sum : ℤ) : ℚ) := by
  induction h generalizing start i with
  | nil => simpa using hstart
  | @cons x j numbers integers hx hrest ih =>
    have hnext : (i + j).natAbs ≤ 2 ^ 53 := by
      simpa using hpartial [j] ((List.mem_inits _ _).mpr ⟨integers, rfl⟩)
    rw [List.foldl_cons, List.sum_cons, ← add_assoc]
    refine ih (rational?_add hstart hx hnext) fun first hfirst => ?_
    have hfirst' : j :: first ∈ (j :: integers).inits :=
      (List.mem_inits _ _).mpr (List.cons_prefix_cons.mpr ⟨rfl, (List.mem_inits _ _).mp hfirst⟩)
    have hle := hpartial _ hfirst'
    rwa [List.sum_cons, ← add_assoc] at hle

/-- The sum of integers is not rounded if no partial sum has more than 53 bits. -/
lemma rational?_sum {numbers : List Binary64} {integers : List ℤ}
    (h : List.Forall₂ (fun x j => x.rational? = some ((j : ℤ) : ℚ)) numbers integers)
    (hpartial : ∀ first ∈ integers.inits, first.sum.natAbs ≤ 2 ^ 53) :
    (sum numbers).rational? = some ((integers.sum : ℤ) : ℚ) := by
  have hzero : (zero true).rational? = some ((0 : ℤ) : ℚ) :=
    rational?_eq_intCast_iff.mpr ⟨rfl, by simp [units]⟩
  have hsum := rational?_foldl_add hzero h (by simpa using hpartial)
  rwa [zero_add] at hsum

/-! ## Quotients -/

/-- A rounded fraction is a number. -/
lemma isNan_ofRatio (negative : Bool) (num den : ℕ) : (ofRatio negative num den).isNan = false := by
  unfold ofRatio pack
  split
  · split <;> rfl
  · rfl

/-- A number is the same as itself. -/
lemma same_self (h : x.isNan = false) : x.same x = true := (same_iff h h).mpr rfl

/-- A positive integer is not rounded to zero. -/
lemma magnitude_ofRatio_ne_zero {n : ℕ} (hn : 0 < n) (h : (ofRatio false n 1).isFinite) :
    (ofRatio false n 1).magnitude ≠ 0 := by
  obtain ⟨⟨m, e⟩, hrounds, hround⟩ := BinaryFormat.exists_round_eq precision_pos hn Nat.one_pos
  have hone : BinaryFormat.double.Canonical (2 ^ 52, -52) := ⟨by decide, by decide, by decide⟩
  have honesize : BinaryFormat.size (2 ^ 52, -52) = 1 := by norm_num [BinaryFormat.size]
  have hle : (1 : ℚ) ≤ BinaryFormat.size (m, e) := by
    have hrounds' := hone.rounds_size precision_pos (by decide)
    rw [honesize] at hrounds'
    rw [← honesize]
    refine hrounds'.mono one_pos hrounds ?_
    rw [Nat.cast_one, div_one]
    exact_mod_cast hn
  rw [ofRatio, hround] at h ⊢
  by_cases hmost : e ≤ BinaryFormat.double.maxExponent
  · rw [if_pos hmost] at h ⊢
    dsimp only [pack] at h ⊢
    split at h
    · rename_i hcanonical
      rw [dif_pos hcanonical, magnitude]
      refine Nat.mul_ne_zero ?_ (Nat.two_pow_pos _).ne'
      rintro rfl
      rw [BinaryFormat.size, Nat.cast_zero, zero_mul] at hle
      exact absurd hle (by norm_num)
    · cases h
  · rw [if_neg hmost] at h
    cases h

/-- The two zeros are the same number. -/
lemma same_zero (negative negative' : Bool) : (zero negative).same (zero negative') = true := by
  cases negative <;> cases negative' <;> decide

/-- A finite number divided by an infinity is zero. -/
lemma div_infinite (hx : x.isFinite) (negative : Bool) :
    x / infinite negative = zero (x.isNegative != negative) := by
  cases x with
  | nan => cases hx
  | infinite => cases hx
  | finite => rfl

/-- The quotient of two finite numbers is that of their magnitudes, under the sign of the two. -/
lemma div_finite (hx : x.isFinite) (hy : y.isFinite) (hne : y.magnitude ≠ 0) :
    x / y = ofRatio (x.isNegative != y.isNegative) x.magnitude y.magnitude := by
  cases x with
  | nan => cases hx
  | infinite => cases hx
  | finite =>
    cases y with
    | nan => cases hy
    | infinite => cases hy
    | finite => exact if_neg hne

/-- Numbers of one value have equal quotients by every number that is neither zero nor
not-a-number. -/
lemma same_div {q : ℚ} {d : Binary64} (hx : x.rational? = some q) (hy : y.rational? = some q)
    (hnan : d.isNan = false) (hd : d.isFinite → d.magnitude ≠ 0) : (x / d).same (y / d) = true := by
  obtain ⟨hxfinite, hxunits⟩ := rational?_eq_some_iff.mp hx
  obtain ⟨hyfinite, hyunits⟩ := rational?_eq_some_iff.mp hy
  have hunits : x.units = y.units := by exact_mod_cast hxunits.trans hyunits.symm
  have hmagnitude {z : Binary64} (hz : z.units = 0) : z.magnitude = 0 := by
    rw [← natAbs_units, hz, Int.natAbs_zero]
  cases d with
  | nan => cases hnan
  | infinite negative =>
    rw [div_infinite hxfinite, div_infinite hyfinite]
    exact same_zero _ _
  | finite negative m e hcanonical =>
    rw [div_finite hxfinite rfl (hd rfl), div_finite hyfinite rfl (hd rfl)]
    by_cases hzero : x.units = 0
    · -- the two may be zeros of different signs
      rw [hmagnitude hzero, hmagnitude (hunits.symm.trans hzero), ofRatio_zero, ofRatio_zero]
      exact same_zero _ _
    · rw [eq_of_units_eq hxfinite hyfinite hunits hzero]
      exact same_self (isNan_ofRatio _ _ _)

/-- Numbers of one value have equal quotients by every positive integer. -/
lemma same_div_ofInt {q : ℚ} {n : ℕ} (hx : x.rational? = some q) (hy : y.rational? = some q)
    (hn : 0 < n) : (x / ofInt n).same (y / ofInt n) = true := by
  have hsign : ofInt n = ofRatio false n 1 := by
    rw [ofInt, Int.natAbs_natCast, decide_eq_false (by omega)]
  rw [hsign]
  exact same_div hx hy (isNan_ofRatio _ _ _) (magnitude_ofRatio_ne_zero hn)

end Binary64

namespace Value

/-- The integer that a value reads as, or that the number is which it reads as; none for fractions
and words. -/
def whole? (v : Value) : Option ℤ :=
  match v.asInt64? with
  | some i => some i.toInt
  | none => (v.asBinary64?.filter Binary64.isWhole).map Binary64.truncate

/-- A value that reads as an integer of at most 53 bits reads as the number that it is. -/
lemma exists_of_whole? {v : Value} {k : ℤ} (h : v.whole? = some k) (hk : k.natAbs ≤ 2 ^ 53) :
    ∃ x, v.asBinary64? = some x ∧ x.rational? = some (k : ℚ) := by
  unfold whole? at h
  split at h
  · rename_i i hi
    obtain rfl := Option.some.inj h
    obtain ⟨x, hx, hfinite, hunits⟩ := asBinary64?_of_asInt64? hi
    refine ⟨x, hx, Binary64.rational?_eq_intCast_iff.mpr ⟨hfinite, ?_⟩⟩
    rw [hunits, Binary64.units_ofInt_small hk]
  · obtain ⟨x, hx, rfl⟩ := Option.map_eq_some_iff.mp h
    obtain ⟨hx, hwhole⟩ := Option.filter_eq_some_iff.mp hx
    obtain ⟨k, hk⟩ := Binary64.isWhole_iff_rational.mp hwhole
    refine ⟨x, hx, ?_⟩
    rw [Binary64.truncate_eq (Binary64.rational?_eq_intCast_iff.mp hk).2, hk]

end Value

end TableQuery
