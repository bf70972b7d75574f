import Mathlib.Data.List.TakeWhile
import TableQuery.Proofs.Number.Decimal
import TableQuery.Proofs.Number.Literal
import TableQuery.Text.Blank

/-!
# Numbers as read and as printed

A text is read as an integer when it is one in decimal notation (`readInt?_eq_some_iff`). If the
integer has 64 bits, the text also spells a floating-point number, the one nearest to it
(`readBinary64?_of_readInt64?`). The text of a finite number reads back as this number
(`readBinary64?_toText`), because each layout of a decimal is read as a decimal of the same value
(`readDecimal?_plain`).
-/

namespace TableQuery

/-! ## Runs of digits -/

namespace Literal

/-- A text of decimal digits only. -/
abbrev IsDigits (text : List Char) : Prop := ∀ c ∈ text, c.isDigit = true

/-- Zeros are digits. -/
lemma isDigits_zeros (k : ℕ) : IsDigits (List.replicate k '0') := by
  intro c hc
  rw [List.eq_of_mem_replicate hc]
  rfl

/-- Two texts are digits together exactly when each of them is. -/
lemma isDigits_append {text rest : List Char} :
    IsDigits (text ++ rest) ↔ IsDigits text ∧ IsDigits rest := List.forall_mem_append

/-- Digits in front of others count for a power of ten, as many places up as there are others. -/
lemma readNat_append (digits rest : List Char) :
    readNat (digits ++ rest) = 10 ^ rest.length * readNat digits + readNat rest := by
  unfold readNat
  rw [Nat.ofDigitChars_append, Nat.ofDigitChars_eq_ofDigitChars_zero]

/-- Zeros are read as zero. -/
lemma readNat_zeros (k : ℕ) : readNat (List.replicate k '0') = 0 := by
  unfold readNat
  rw [Nat.ofDigitChars_replicate_zero, mul_zero]

/-- Digits without a point are a whole number. -/
lemma readDecimal?_digits {digits : List Char} (h : IsDigits digits) (hne : digits ≠ []) :
    readDecimal? digits = some ⟨readNat digits, 0⟩ := by
  have htake : digits.takeWhile Char.isDigit = digits := List.takeWhile_eq_self_iff.mpr h
  have hdrop : digits.dropWhile Char.isDigit = [] := List.dropWhile_eq_nil_iff.mpr h
  unfold readDecimal?
  rw [htake, hdrop]
  simp [hne, readExponent?]

/-- The digits after a point count as negative powers of ten. -/
lemma readDecimal?_point {whole fraction : List Char} (hwhole : IsDigits whole)
    (hfraction : IsDigits fraction) (hne : whole ≠ []) :
    readDecimal? (whole ++ '.' :: fraction) =
      some ⟨readNat (whole ++ fraction), -(fraction.length : ℤ)⟩ := by
  have htake : (whole ++ '.' :: fraction).takeWhile Char.isDigit = whole := by
    rw [List.takeWhile_append_of_pos hwhole, List.takeWhile_cons_of_neg (by decide),
      List.append_nil]
  have hdrop : (whole ++ '.' :: fraction).dropWhile Char.isDigit = '.' :: fraction := by
    rw [List.dropWhile_append_of_pos hwhole, List.dropWhile_cons_of_neg (by decide)]
  have htake' : fraction.takeWhile Char.isDigit = fraction :=
    List.takeWhile_eq_self_iff.mpr hfraction
  have hdrop' : fraction.dropWhile Char.isDigit = [] := List.dropWhile_eq_nil_iff.mpr hfraction
  unfold readDecimal?
  rw [htake, hdrop]
  simp [hne, htake', hdrop', readExponent?]

end Literal

/-! ## The plain layout -/

namespace Decimal

open Literal

/-- The zeros at the end of a text are what trimming them takes away. -/
lemma dropWhile_reverse_append_zeros (text : List Char) :
    (text.reverse.dropWhile (· == '0')).reverse ++
      List.replicate (text.length - (text.reverse.dropWhile (· == '0')).reverse.length) '0' =
        text := by
  have hsplit : (text.reverse.dropWhile (· == '0')).reverse ++
      (text.reverse.takeWhile (· == '0')).reverse = text := by
    rw [← List.reverse_append, List.takeWhile_append_dropWhile, List.reverse_reverse]
  have hzeros : (text.reverse.takeWhile (· == '0')).reverse = List.replicate
      (text.length - (text.reverse.dropWhile (· == '0')).reverse.length) '0' := by
    rw [List.eq_replicate_iff]
    constructor
    · have hlength := congrArg List.length hsplit
      rw [List.length_append] at hlength
      omega
    · intro c hc
      exact eq_of_beq (List.mem_takeWhile_imp (p := (· == '0')) (List.mem_reverse.mp hc))
  rw [← hzeros]
  exact hsplit

/-- Trimming keeps the value and leaves at least one digit. -/
lemma trimmed_value (d : Decimal) :
    (readNat d.trimmed.1 : ℚ) * 10 ^ d.trimmed.2 = d.value ∧ IsDigits d.trimmed.1 ∧
      d.trimmed.1 ≠ [] := by
  have hchars := dropWhile_reverse_append_zeros d.digitChars
  have hread : readNat d.digitChars = d.digits := Nat.ofDigitChars_ten_toDigits
  have hdigits : IsDigits d.digitChars := List.all_eq_true.mp (all_isDigit_toDigits d.digits)
  unfold trimmed
  dsimp only
  generalize (d.digitChars.reverse.dropWhile (· == '0')).reverse = kept at hchars ⊢
  generalize d.digitChars.length - kept.length = k at hchars ⊢
  rw [← hchars, readNat_append, List.length_replicate, readNat_zeros, add_zero] at hread
  rw [← hchars, isDigits_append] at hdigits
  split
  · rename_i hempty
    rw [List.isEmpty_iff.mp hempty] at hread
    have hzero : d.digits = 0 := hread.symm
    refine ⟨?_, isDigits_zeros 1, List.cons_ne_nil _ _⟩
    rw [value_eq_zero_iff.mpr hzero]
    exact (mul_eq_zero_of_left Nat.cast_zero _)
  · rename_i hempty
    refine ⟨?_, hdigits.1, fun h => hempty (List.isEmpty_iff.mpr h)⟩
    rw [value, ← hread, zpow_add₀ (by norm_num), zpow_natCast]
    push_cast
    ring

/-- The plain layout is a whole part and maybe a fraction, whose digits together make up the
value. -/
lemma exists_plain_eq (d : Decimal) :
    ∃ whole fraction, IsDigits whole ∧ IsDigits fraction ∧ whole ≠ [] ∧
      (d.plain = whole ∧ fraction = [] ∨ d.plain = whole ++ '.' :: fraction) ∧
        (readNat (whole ++ fraction) : ℚ) * 10 ^ (-(fraction.length : ℤ)) = d.value := by
  obtain ⟨hvalue, hdigits, hne⟩ := d.trimmed_value
  unfold plain
  generalize d.trimmed = trimmed at hvalue hdigits hne ⊢
  obtain ⟨digits, exponent⟩ := trimmed
  dsimp only at hvalue hdigits hne ⊢
  -- zeros behind the digits, a point among them, or zeros in front of them
  split_ifs with hwhole hpoint
  · refine ⟨digits ++ List.replicate exponent.toNat '0', [], ?_, ?_, ?_, .inl ⟨rfl, rfl⟩, ?_⟩
    · exact isDigits_append.mpr ⟨hdigits, isDigits_zeros _⟩
    · exact List.forall_mem_nil _
    · exact List.append_ne_nil_of_left_ne_nil hne _
    · have hexponent : (exponent.toNat : ℤ) = exponent := Int.toNat_of_nonneg hwhole
      rw [List.append_nil, readNat_append, readNat_zeros, List.length_replicate, ← hvalue]
      simp only [List.length_nil, Nat.cast_zero, neg_zero, zpow_zero, mul_one, add_zero]
      rw [← hexponent, zpow_natCast, Int.toNat_natCast]
      push_cast
      ring
  · set point := (digits.length + exponent).toNat with hdef
    have hsplit : digits.take point ++ digits.drop point = digits := List.take_append_drop _ _
    rw [← hsplit, isDigits_append] at hdigits
    refine ⟨digits.take point, digits.drop point, hdigits.1, hdigits.2, ?_, .inr rfl, ?_⟩
    · intro hnil
      rcases List.take_eq_nil_iff.mp hnil with hzero | hzero
      · omega
      · exact hne hzero
    · have hlength : -((digits.drop point).length : ℤ) = exponent := by
        rw [List.length_drop]
        omega
      rw [hsplit, hlength]
      exact hvalue
  · set zeros := List.replicate (-(digits.length + exponent)).toNat '0' with hdef
    have hzeros : IsDigits zeros := isDigits_zeros _
    refine ⟨['0'], zeros ++ digits, isDigits_zeros 1, ?_, List.cons_ne_nil _ _, .inr rfl, ?_⟩
    · exact isDigits_append.mpr ⟨hzeros, hdigits⟩
    · have hlength : -((zeros ++ digits).length : ℤ) = exponent := by
        rw [List.length_append, hdef, List.length_replicate]
        push_cast
        omega
      have hread : readNat (['0'] ++ (zeros ++ digits)) = readNat digits := by
        rw [readNat_append, readNat_append, hdef, readNat_zeros, mul_zero, zero_add]
        exact (Nat.zero_add _)
      rw [hread, hlength]
      exact hvalue

/-- The plain layout is read as a decimal of the same value. -/
lemma readDecimal?_plain (d : Decimal) :
    ∃ read, readDecimal? d.plain = some read ∧ read.value = d.value := by
  obtain ⟨whole, fraction, hwhole, hfraction, hne, hplain, hvalue⟩ := d.exists_plain_eq
  rcases hplain with ⟨hplain, rfl⟩ | hplain
  · refine ⟨⟨readNat whole, 0⟩, ?_, ?_⟩
    · rw [hplain]
      exact readDecimal?_digits hwhole hne
    · rw [List.append_nil] at hvalue
      exact hvalue
  · refine ⟨⟨readNat (whole ++ fraction), -(fraction.length : ℤ)⟩, ?_, hvalue⟩
    rw [hplain]
    exact readDecimal?_point hwhole hfraction hne

/-- The plain layout starts with a digit and holds digits and points only. -/
lemma plain_chars (d : Decimal) :
    (∃ c rest, d.plain = c :: rest ∧ c.isDigit = true) ∧
      ∀ c ∈ d.plain, c.isDigit = true ∨ c = '.' := by
  obtain ⟨whole, fraction, hwhole, hfraction, hne, hplain, -⟩ := d.exists_plain_eq
  obtain ⟨c, rest, rfl⟩ := List.exists_cons_of_ne_nil hne
  have hfirst : c.isDigit = true := hwhole c List.mem_cons_self
  rcases hplain with ⟨hplain, -⟩ | hplain
  · rw [hplain]
    exact ⟨⟨c, rest, rfl, hfirst⟩, fun c' hc' => .inl (hwhole c' hc')⟩
  · rw [hplain]
    refine ⟨⟨c, rest ++ '.' :: fraction, rfl, hfirst⟩, ?_⟩
    intro c' hc'
    rcases List.mem_append.mp hc' with hc' | hc'
    · exact .inl (hwhole c' hc')
    · rcases List.mem_cons.mp hc' with hc' | hc'
      · exact .inr hc'
      · exact .inl (hfraction c' hc')

end Decimal

/-! ## Texts of numbers -/

namespace Literal

/-- A sign in front of a digit is split off again. -/
lemma splitSign_signed (negative : Bool) {c : Char} {rest : List Char} (h : c.isDigit = true) :
    splitSign (Binary64.signed negative (c :: rest)) = (negative, c :: rest) := by
  cases negative with
  | true => rfl
  | false => exact (unsigned_cons (ne_sign_of_isDigit h) rest).splitSign_eq

/-- The integer that a natural number is behind a sign, if there is one. -/
inductive SignedBy : List Char → ℕ → ℤ → Prop
  | none (n : ℕ) : SignedBy [] n n
  | plus (n : ℕ) : SignedBy ['+'] n n
  | minus (n : ℕ) : SignedBy ['-'] n (-n)

/-- Whether a text is an integer in decimal notation: a sign, if any, and digits. -/
def IsNumeral (text : List Char) (i : ℤ) : Prop :=
  ∃ sign digits, text = sign ++ digits ∧ digits ≠ [] ∧ IsDigits digits ∧
    SignedBy sign (Nat.ofDigitChars 10 digits 0) i

/-- A text is a sign and what follows it. -/
lemma exists_signedBy (text : List Char) :
    ∃ sign, text = sign ++ (splitSign text).2 ∧
      ∀ n : ℕ, SignedBy sign n (if (splitSign text).1 then -(n : ℤ) else n) := by
  unfold splitSign
  split
  · exact ⟨['-'], rfl, .minus⟩
  · exact ⟨['+'], rfl, .plus⟩
  · exact ⟨[], rfl, .none⟩

/-- What follows the sign is read as digits, and not at all if it is something else. -/
lemma readInt?_eq_some {text : List Char} {i : ℤ} :
    readInt? text = some i ↔ (splitSign text).2 ≠ [] ∧ IsDigits (splitSign text).2 ∧
      (if (splitSign text).1 then -(readNat (splitSign text).2 : ℤ)
        else readNat (splitSign text).2) = i := by
  have hdigits : ((splitSign text).2.isEmpty || !(splitSign text).2.all Char.isDigit) = false ↔
      (splitSign text).2 ≠ [] ∧ IsDigits (splitSign text).2 := by simp
  unfold readInt?
  dsimp only
  split
  · rename_i hnone
    rw [← and_assoc, ← hdigits, hnone]
    simp
  · rename_i hsome
    rw [← and_assoc, ← hdigits, Bool.eq_false_iff.mpr hsome]
    simp

/-- A text is read as the integer that it is in decimal notation, and as none if it is none. -/
lemma readInt?_eq_some_iff {text : List Char} {i : ℤ} :
    readInt? text = some i ↔ IsNumeral text i := by
  rw [readInt?_eq_some]
  constructor
  · rintro ⟨hne, hdigits, rfl⟩
    obtain ⟨sign, htext, hsigned⟩ := exists_signedBy text
    exact ⟨sign, _, htext, hne, hdigits, hsigned _⟩
  · rintro ⟨sign, digits, rfl, hne, hdigits, hsigned⟩
    rcases hsigned with _ | _ | _
    · obtain ⟨c, rest, rfl⟩ := List.exists_cons_of_ne_nil hne
      have hsplit : splitSign (c :: rest) = (false, c :: rest) :=
        splitSign_signed false (hdigits c List.mem_cons_self)
      rw [List.nil_append, hsplit]
      exact ⟨hne, hdigits, rfl⟩
    · exact ⟨hne, hdigits, rfl⟩
    · exact ⟨hne, hdigits, rfl⟩

/-- A text is read as a 64-bit integer if it is read as an integer that has 64 bits. -/
lemma readInt64?_eq_some_iff {text : List Char} {i : Int64} :
    readInt64? text = some i ↔ readInt? text = some i.toInt := by
  unfold readInt64?
  rcases readInt? text with _ | j
  · simp
  · simp only [Option.some.injEq]
    by_cases hfits : fitsInt64 j = true
    · rw [if_pos hfits, Option.some.injEq, ← Int64.toInt_inj, toInt_ofInt_of_fits hfits]
    · rw [if_neg hfits]
      constructor
      · intro h
        cases h
      · rintro rfl
        exact absurd (fitsInt64_toInt i) hfits

/-- Without a sign no negative number is read. -/
lemma toInt_nonneg_of_readInt64? {text : List Char} (h : Unsigned text)
    {i : Int64} (hread : readInt64? text = some i) : 0 ≤ i.toInt := by
  obtain ⟨-, -, hi⟩ := readInt?_eq_some.mp (readInt64?_eq_some_iff.mp hread)
  rw [← hi, h.splitSign_eq]
  exact Int.natCast_nonneg _

/-- Without a sign the least number is not read. -/
lemma ne_minValue_of_readInt64? {text : List Char} (h : Unsigned text)
    {i : Int64} (hread : readInt64? text = some i) : i ≠ Int64.minValue := by
  rintro rfl
  exact absurd (toInt_nonneg_of_readInt64? h hread) (by decide)

/-- A number is read behind a minus sign whenever its negation is read without one. Only the least
number is read behind a sign and has no negation. -/
lemma readInt64?_eq_some_neg_iff {text : List Char} (h : Unsigned text)
    {i : Int64} :
    readInt64? text = some (-i) ↔ i ≠ Int64.minValue ∧ readInt64? ('-' :: text) = some i := by
  by_cases hi : i = Int64.minValue
  · subst hi
    constructor
    · intro hread
      exact absurd rfl (ne_minValue_of_readInt64? h hread)
    · rintro ⟨hne, -⟩
      exact absurd rfl hne
  · have hneg : (-i).toInt = -i.toInt := toInt_neg_of_ne_minValue hi
    rw [readInt64?_eq_some_iff, readInt64?_eq_some_iff, readInt?_minus h, hneg,
      Option.map_eq_some_iff]
    constructor
    · intro hread
      exact ⟨hi, _, hread, neg_neg _⟩
    · rintro ⟨-, j, hread, hj⟩
      rw [← hj, neg_neg]
      exact hread

/-- A text that spells an integer spells a decimal with the same digits and the same sign. -/
lemma readNumber?_of_readInt? {text : List Char} {i : ℤ} (h : readInt? text = some i) :
    ∃ negative n, readNumber? text = some (.decimal negative ⟨n, 0⟩) ∧
      i = if negative then -(n : ℤ) else n := by
  obtain ⟨hne, hdigits, hi⟩ := readInt?_eq_some.mp h
  refine ⟨(splitSign text).1, readNat (splitSign text).2, ?_, hi.symm⟩
  unfold readNumber?
  dsimp only
  rw [readDecimal?_digits hdigits hne]

/-- A text that spells a 64-bit integer spells the number nearest to it, but for the sign of
zero. -/
lemma readBinary64?_of_readInt64? {text : List Char} {i : Int64} (h : readInt64? text = some i) :
    ∃ x, readBinary64? text = some x ∧ x.isFinite ∧ x.units = (Binary64.ofInt i.toInt).units := by
  obtain ⟨negative, n, hnumber, hi⟩ := readNumber?_of_readInt? (readInt64?_eq_some_iff.mp h)
  have hn : n ≤ 2 ^ 64 := by
    have hsize := Binary64.natAbs_toInt_le i
    cases negative <;> simp only [Bool.false_eq_true, ↓reduceIte] at hi <;> omega
  have hvalue : (Decimal.mk n 0).value = n := by
    unfold Decimal.value
    rw [zpow_zero, mul_one]
  refine ⟨.ofRatio negative n 1, ?_, Binary64.isFinite_ofRatio negative hn, ?_⟩
  · rw [readBinary64?, hnumber, Option.map_some, Number.toBinary64,
      Decimal.toBinary64_eq_ofRatio negative hvalue hn]
  · rw [Binary64.units_ofRatio_one, hi]

/-- The text of a finite number reads back as this number. -/
lemma readBinary64?_toText {x : Binary64} (h : x.isFinite) :
    readBinary64? x.toText.toList = some x := by
  cases x with
  | nan => cases h
  | infinite => cases h
  | finite negative m e hcanonical =>
    have hround := Decimal.round_shortest .up hcanonical
    unfold Binary64.toText
    rw [String.toList_ofList]
    generalize Decimal.shortest .up m e = d at hround ⊢
    obtain ⟨read, hread, hvalue⟩ := d.readDecimal?_plain
    obtain ⟨⟨c, rest, hplain, hc⟩, -⟩ := d.plain_chars
    have hnumber : readNumber? (Binary64.signed negative d.plain) =
        some (.decimal negative read) := by
      unfold readNumber?
      rw [hplain, splitSign_signed negative hc, ← hplain]
      dsimp only
      rw [hread]
    rw [readBinary64?, hnumber, Option.map_some, Number.toBinary64,
      Decimal.toBinary64_congr negative hvalue, Decimal.toBinary64, hround]
    exact congrArg some (dif_pos hcanonical)

end Literal

end TableQuery
