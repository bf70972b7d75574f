import Mathlib.Tactic.Common
import TableQuery.Number.Literal

/-!
# Integers as written

The text of an integer reads back as the integer (`readInt?_writeInt`), and as a 64-bit integer if
it has 64 bits (`readInt64?_writeInt`).
-/

namespace TableQuery

namespace Literal

/-! ## Signs -/

/-- Whether a text does not start with a sign. -/
def Unsigned (text : List Char) : Prop := ∀ c ∈ text.head?, c ≠ '-' ∧ c ≠ '+'

/-- The empty text does not start with a sign. -/
lemma unsigned_nil : Unsigned [] := by
  intro c h
  cases h

/-- A text does not start with a sign when its first character is none. -/
lemma unsigned_cons {c : Char} (h : c ≠ '-' ∧ c ≠ '+') (rest : List Char) :
    Unsigned (c :: rest) := by
  intro first hfirst
  obtain rfl := Option.some.inj hfirst
  exact h

/-- Two texts without a sign in front have none when they stand one behind the other. -/
lemma Unsigned.append {text rest : List Char} (h : Unsigned text) (hrest : Unsigned rest) :
    Unsigned (text ++ rest) := by
  cases text with
  | nil => exact hrest
  | cons c text => exact unsigned_cons (h c rfl) _

/-- There is no sign to split off a text that starts with none. -/
lemma Unsigned.splitSign_eq {text : List Char} (h : Unsigned text) :
    splitSign text = (false, text) := by
  unfold splitSign
  split
  · exact absurd rfl (h '-' rfl).1
  · exact absurd rfl (h '+' rfl).2
  · rfl

/-- No digit is a sign. -/
lemma ne_sign_of_isDigit {c : Char} (h : c.isDigit = true) : c ≠ '-' ∧ c ≠ '+' := by
  constructor
  · rintro rfl
    cases h
  · rintro rfl
    cases h

/-- A run of digits has no sign. -/
lemma unsigned_of_digits {text : List Char} (h : ∀ c ∈ text, c.isDigit = true) : Unsigned text :=
  fun c hc => ne_sign_of_isDigit (h c (List.mem_of_mem_head? hc))

/-! ## Integers of any size -/

/-- A natural number is written in digits only. -/
lemma all_isDigit_toDigits (n : Nat) : (Nat.toDigits 10 n).all Char.isDigit = true := by
  rw [List.all_eq_true]
  intro c hc
  exact Nat.isDigit_of_mem_toDigits (by decide) (by decide) hc

/-- The digits of a natural number do not start with a sign. -/
lemma unsigned_toDigits (n : Nat) : Unsigned (Nat.toDigits 10 n) :=
  unsigned_of_digits (List.all_eq_true.mp (all_isDigit_toDigits n))

/-- The digits of a natural number read back as that number. -/
lemma readInt?_toDigits (n : Nat) : readInt? (Nat.toDigits 10 n) = some (n : Int) := by
  simp [readInt?, (unsigned_toDigits n).splitSign_eq, all_isDigit_toDigits, readNat,
    Nat.toDigits_ne_nil, Nat.ofDigitChars_ten_toDigits]

/-- A text without a sign is read as the negated number behind a minus sign. -/
lemma readInt?_minus {text : List Char} (h : Unsigned text) :
    readInt? ('-' :: text) = (readInt? text).map Neg.neg := by
  have hminus : splitSign ('-' :: text) = (true, text) := rfl
  unfold readInt?
  rw [h.splitSign_eq, hminus]
  dsimp only
  split
  · rfl
  · rfl

/-- Digits behind a minus sign read back as the negated number. -/
lemma readInt?_minus_toDigits (n : Nat) :
    readInt? ('-' :: Nat.toDigits 10 n) = some (-(n : Int)) := by
  rw [readInt?_minus (unsigned_toDigits n), readInt?_toDigits]
  rfl

/-- A natural number is written as its digits. -/
lemma writeInt_natCast (n : Nat) : writeInt n = String.ofList (Nat.toDigits 10 n) := by
  have hnat : ¬ ((n : Int) < 0) := by omega
  rw [writeInt, decide_eq_false hnat, Int.natAbs_natCast]
  rfl

/-- A negative integer is a minus sign and the digits of its absolute value. -/
lemma writeInt_of_neg {i : Int} (h : i < 0) : writeInt i = "-" ++ writeInt i.natAbs := by
  rw [writeInt_natCast, writeInt, decide_eq_true h, ← String.toList_inj, String.toList_append,
    String.toList_ofList, String.toList_ofList, String.toList_ofList]
  rfl

/-- The text of an integer reads back as that integer. -/
theorem readInt?_writeInt (i : Int) : readInt? (writeInt i).toList = some i := by
  rw [writeInt, String.toList_ofList]
  by_cases h : i < 0
  · have hi : -(i.natAbs : Int) = i := by omega
    rw [decide_eq_true h, ← hi, Int.natAbs_neg, Int.natAbs_natCast]
    exact readInt?_minus_toDigits i.natAbs
  · have hi : (i.natAbs : Int) = i := by omega
    rw [decide_eq_false h, ← hi, Int.natAbs_natCast]
    exact readInt?_toDigits i.natAbs

/-! ## 64-bit integers -/

/-- An integer fits into 64 bits exactly when it lies between the least and the greatest of the
64-bit integers. -/
lemma fitsInt64_iff {i : Int} :
    fitsInt64 i = true ↔ Int64.minValue.toInt ≤ i ∧ i ≤ Int64.maxValue.toInt := by
  rw [fitsInt64, Bool.and_eq_true, decide_eq_true_eq, decide_eq_true_eq]

/-- A 64-bit integer fits into 64 bits. -/
lemma fitsInt64_toInt (i : Int64) : fitsInt64 i.toInt = true :=
  fitsInt64_iff.mpr ⟨i.minValue_le_toInt, i.toInt_le⟩

/-- An integer that fits into 64 bits is kept in them. -/
lemma toInt_ofInt_of_fits {i : Int} (h : fitsInt64 i = true) :
    (Int64.ofInt i).toInt = i := by
  obtain ⟨hlow, hhigh⟩ := fitsInt64_iff.mp h
  have hmin : Int64.minValue.toInt = -2 ^ 63 := rfl
  have hmax : Int64.maxValue.toInt = 2 ^ 63 - 1 := rfl
  exact Int64.toInt_ofInt_of_le (by omega) (by omega)

/-- Every 64-bit integer but the least has a negation of 64 bits. -/
lemma toInt_neg_of_ne_minValue {i : Int64} (h : i ≠ Int64.minValue) : (-i).toInt = -i.toInt := by
  have hne : i.toInt ≠ -2 ^ 63 := fun heq => h (Int64.toInt_inj.mp heq)
  have hlow : -2 ^ 63 ≤ i.toInt := i.minValue_le_toInt
  have hhigh := i.toInt_lt
  rw [Int64.toInt_neg, Int.bmod_eq_of_le (by omega) (by omega)]

/-- The text of a 64-bit integer reads back as that integer. -/
theorem readInt64?_writeInt (i : Int64) : readInt64? (writeInt i.toInt).toList = some i := by
  rw [readInt64?, readInt?_writeInt]
  simp only [fitsInt64_toInt, ↓reduceIte, Int64.ofInt_toInt]

end Literal

end TableQuery
