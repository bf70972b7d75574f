import TableQuery.Proofs.Value.Literal

/-!
# The numbers that values stand for

`Value.Denotes` says which number a value stands for exactly: an integer for itself, a finite
floating-point number for its significand times a power of two, and a text for the integer that it
is in decimal notation, up to white space around it. A whole number denotes an integer
(`isWhole_iff_rational`), which is brought into range when it is converted (`toInt_toInt64`), and a
text denotes the integer that it is read as (`asInt64?_text_iff`).
-/

namespace TableQuery

namespace Binary64

/-- The value of a finite number; none for infinities and what is not a number. -/
def rational? : Binary64 → Option ℚ
  | finite negative significand exponent _ =>
    let size := BinaryFormat.size (significand, exponent)
    some (if negative then -size else size)
  | _ => none

variable {x : Binary64}

/-- The units of a finite number say which number it is. -/
lemma rational?_eq_some_iff {q : ℚ} :
    x.rational? = some q ↔ x.isFinite ∧ (x.units : ℚ) = q * unitsPerOne := by
  rcases x with _ | _ | ⟨negative, m, e, h⟩
  · simp [rational?, isFinite]
  · simp [rational?, isFinite]
  · have hpos : (unitsPerOne : ℚ) ≠ 0 := by exact_mod_cast unitsPerOne_pos.ne'
    have hunits : ((finite negative m e h).units : ℚ) =
        (if negative then -BinaryFormat.size (m, e) else BinaryFormat.size (m, e)) *
          unitsPerOne := by
      have hmagnitude := magnitude_finite negative h
      unfold units
      cases negative with
      | false => exact_mod_cast hmagnitude
      | true =>
        rw [isNegative, if_pos rfl, if_pos rfl, neg_mul, ← hmagnitude]
        push_cast
        rfl
    rw [hunits, mul_left_inj' hpos, rational?, Option.some.injEq]
    exact (and_iff_right rfl).symm

/-- A number is an integer exactly when it is finite and its units are those of one, so many
times. -/
lemma rational?_eq_intCast_iff {k : ℤ} :
    x.rational? = some (k : ℚ) ↔ x.isFinite ∧ x.units = k * unitsPerOne := by
  rw [rational?_eq_some_iff]
  exact_mod_cast Iff.rfl

/-- The whole numbers are those that are integers. -/
lemma isWhole_iff_rational : x.isWhole = true ↔ ∃ k : ℤ, x.rational? = some (k : ℚ) := by
  by_cases hx : x.isFinite = true
  · rw [isWhole_iff hx]
    refine exists_congr fun k => ?_
    rw [rational?_eq_intCast_iff, and_iff_right hx]
  · constructor
    · intro h
      exact absurd (Bool.and_eq_true_iff.mp h).1 hx
    · rintro ⟨k, h⟩
      exact absurd (rational?_eq_some_iff.mp h).1 hx

/-- A whole number becomes the integer that it is, brought into the range of 64 bits. -/
lemma toInt_toInt64 {k : ℤ} (h : x.rational? = some (k : ℚ)) :
    x.toInt64.toInt = max Int64.minValue.toInt (min k Int64.maxValue.toInt) := by
  obtain ⟨hfinite, hunits⟩ := rational?_eq_intCast_iff.mp h
  have htruncate : x.truncate = k := truncate_eq hunits
  rcases x with _ | _ | ⟨negative, m, e, hcanonical⟩
  · cases hfinite
  · cases hfinite
  · have hrange : Int64.minValue.toInt ≤ Int64.maxValue.toInt := by decide
    rw [toInt64, htruncate]
    refine Literal.toInt_ofInt_of_fits (Literal.fitsInt64_iff.mpr ?_)
    exact ⟨le_max_left _ _, max_le hrange (min_le_right _ _)⟩

end Binary64

/-- Whether a text is, up to white space around it, an integer in decimal notation. -/
def Text.Spells (text : List Char) (i : ℤ) : Prop :=
  ∃ before numeral after, text = before ++ numeral ++ after ∧ Literal.IsNumeral numeral i ∧
    (∀ c ∈ before, isBlank c = true) ∧ ∀ c ∈ after, isBlank c = true

/-- A text spells the integer that is read from its trimmed form. -/
lemma Text.readInt?_trimChars_iff {text : List Char} {i : ℤ} :
    Literal.readInt? (trimChars text) = some i ↔ Spells text i := by
  constructor
  · intro h
    obtain ⟨before, after, htext, hbefore, hafter⟩ := exists_eq_trimChars text
    exact ⟨before, _, after, htext, Literal.readInt?_eq_some_iff.mp h, hbefore, hafter⟩
  · rintro ⟨before, numeral, after, rfl, hnumeral, hbefore, hafter⟩
    have hread := Literal.readInt?_eq_some_iff.mpr hnumeral
    rw [trimChars_append hbefore (Literal.unbroken_of_readInt? hread) hafter, hread]

namespace Value

/-- Whether a value stands for a number: an integer for itself, a floating-point number for the
finite number that it is, and a text for the integer that it spells. -/
def Denotes : Value → ℚ → Prop
  | null, _ => False
  | int64 i, q => q = i.toInt
  | float64 x, q => x.rational? = some q
  | text s, q => ∃ i : ℤ, q = i ∧ Text.Spells s.toList i

/-- A text denotes the integer that it is read as, if this has 64 bits. -/
lemma asInt64?_text_iff {s : String} {n : Int64} :
    (text s).asInt64? = some n ↔ (text s).Denotes n.toInt := by
  rw [asInt64?, Literal.readInt64?_eq_some_iff, Text.readInt?_trimChars_iff]
  constructor
  · exact fun h => ⟨n.toInt, rfl, h⟩
  · rintro ⟨i, hi, h⟩
    rwa [Int.cast_inj.mp hi]

end Value

end TableQuery
