import TableQuery.Decode
import TableQuery.Proofs.Value.Exact

/-!
# Integers from cells

A cell is decoded as an integer only if it stands for one, and then as this integer, with one
exception: a floating-point number beyond the 64-bit integers becomes the nearest of these
(`exists_integer_decoding_inexact`). Neither end of their range has 32 bits, so integers of 32 bits
are decoded without exception (`integer_decoding_exact_iff`).
-/

namespace TableQuery

/-- Whether a value is a whole floating-point number beyond the 64-bit integers, and `n` the end of
their range on its side. -/
def Value.SaturatesTo (v : Value) (n : Int64) : Prop :=
  v.isFloat = true ∧ ∃ k : ℤ, v.Denotes k ∧
    (k < Int64.minValue.toInt ∧ n = Int64.minValue ∨
      Int64.maxValue.toInt < k ∧ n = Int64.maxValue)

namespace CellDecoder

variable {field : String} {v : Value}

/-- A whole number is decoded as the integer that it is, or as the end of the range that it is
beyond; a number with a fraction is not decoded. -/
lemma int64_float64_eq_ok_iff {x : Binary64} {n : Int64} :
    int64 field (.float64 x) = .ok n ↔
      (Value.float64 x).Denotes n.toInt ∨ (Value.float64 x).SaturatesTo n := by
  by_cases hwhole : x.isWhole = true
  · obtain ⟨k, hk⟩ := Binary64.isWhole_iff_rational.mp hwhole
    have hdenotes (i : ℤ) : (Value.float64 x).Denotes i ↔ k = i := by
      rw [Value.Denotes, hk, Option.some.injEq, Int.cast_inj]
    have hsaturates : (Value.float64 x).SaturatesTo n ↔
        k < Int64.minValue.toInt ∧ n = Int64.minValue ∨
          Int64.maxValue.toInt < k ∧ n = Int64.maxValue := by
      simp only [Value.SaturatesTo, hdenotes, exists_eq_left', Value.isFloat, true_and]
    have hlow := n.minValue_le_toInt
    have hhigh := n.toInt_le
    rw [int64, if_pos hwhole, Except.ok.injEq, hdenotes, hsaturates, ← Int64.toInt_inj,
      ← Int64.toInt_inj, ← Int64.toInt_inj, Binary64.toInt_toInt64 hk]
    omega
  · have hnone (i : ℤ) : ¬ (Value.float64 x).Denotes i :=
      fun h => hwhole (Binary64.isWhole_iff_rational.mpr ⟨i, h⟩)
    rw [int64, if_neg hwhole]
    constructor
    · intro h
      cases h
    · rintro (h | ⟨-, k, h, -⟩)
      · exact absurd h (hnone _)
      · exact absurd h (hnone k)

/-- A value is decoded as the integer of 64 bits that it stands for, or as the end of the range that
it is beyond. -/
lemma int64_eq_ok_iff {n : Int64} :
    int64 field v = .ok n ↔ v.Denotes n.toInt ∨ v.SaturatesTo n := by
  rcases v with _ | i | x | s
  · simp [int64, mismatch, Value.Denotes, Value.SaturatesTo]
  · rw [int64, Except.ok.injEq, ← Int64.toInt_inj, eq_comm]
    simp [Value.Denotes, Value.SaturatesTo, Value.isFloat]
  · exact int64_float64_eq_ok_iff
  · have hsaturates : ¬ (Value.text s).SaturatesTo n := fun h => Bool.false_ne_true h.1
    rw [← Value.asInt64?_text_iff, or_iff_left hsaturates, int64]
    rcases (Value.text s).asInt64? with _ | i
    · simp [mismatch]
    · simp

/-- A value that decodes to 64 bits decodes to 32 if it lies in their range. -/
lemma int32_of_int64 {i : Int64} (h : int64 field v = .ok i) :
    int32 field v =
      if Int32.minValue.toInt ≤ i.toInt ∧ i.toInt ≤ Int32.maxValue.toInt then
        .ok (Int32.ofInt i.toInt)
      else mismatch "i32" field v := by
  rw [int32, h]
  rfl

/-- A value that fails to decode to 64 bits fails to decode to 32 with the same error. -/
lemma int32_of_error {e : ExecutionError} (h : int64 field v = .error e) :
    int32 field v = .error e := by
  rw [int32, h]
  rfl

/-- A value is decoded as the integer of 32 bits that it stands for. The ends of the wider range do
not get this far. -/
lemma int32_eq_ok_iff {n : Int32} : int32 field v = .ok n ↔ v.Denotes n.toInt := by
  constructor
  · intro h
    rcases hwide : int64 field v with e | i
    · rw [int32_of_error hwide] at h
      cases h
    · rw [int32_of_int64 hwide] at h
      split at h
      · rename_i hrange
        have hn : n.toInt = i.toInt := by
          rw [← Except.ok.inj h]
          exact Int32.toInt_ofInt_of_le hrange.1 (Int.lt_add_one_of_le hrange.2)
        rcases int64_eq_ok_iff.mp hwide with hexact | ⟨-, k, -, ⟨-, rfl⟩ | ⟨-, rfl⟩⟩
        · rwa [hn]
        · exact absurd hrange (by decide)
        · exact absurd hrange (by decide)
      · cases h
  · intro h
    have hwide : int64 field v = .ok n.toInt64 := by
      refine int64_eq_ok_iff.mpr (.inl ?_)
      rwa [Int32.toInt_toInt64]
    rw [int32_of_int64 hwide, Int32.toInt_toInt64, Int32.ofInt_toInt]
    exact if_pos ⟨n.minValue_le_toInt, n.toInt_le⟩

/-- What is not decoded as an integer of 64 bits fails with an error about its field. -/
lemma int64_cases (field : String) (v : Value) :
    (∃ n, int64 field v = .ok n) ∨
      ∃ actual, int64 field v = .error (.typeMismatch field "i64" actual) := by
  rcases v with _ | i | x | s
  · exact .inr ⟨_, rfl⟩
  · exact .inl ⟨i, rfl⟩
  · rw [int64]
    split
    · exact .inl ⟨_, rfl⟩
    · exact .inr ⟨_, rfl⟩
  · rw [int64]
    split
    · exact .inl ⟨_, rfl⟩
    · exact .inr ⟨_, rfl⟩

/-- What is not decoded as an integer of 32 bits fails with an error about its field. -/
lemma int32_cases (field : String) (v : Value) :
    (∃ n, int32 field v = .ok n) ∨
      ∃ expected ∈ ["i64", "i32"], ∃ actual,
        int32 field v = .error (.typeMismatch field expected actual) := by
  rcases int64_cases field v with ⟨i, hwide⟩ | ⟨actual, hwide⟩
  · rw [int32_of_int64 hwide]
    split
    · exact .inl ⟨_, rfl⟩
    · exact .inr ⟨"i32", by decide, _, rfl⟩
  · exact .inr ⟨"i64", by decide, actual, int32_of_error hwide⟩

/-- A value is decoded as an integer of 64 bits exactly when it stands for it, or is a whole number
beyond 64 bits and the integer is the end of the range. It is decoded as an integer of 32 bits
exactly when it stands for it. Every other value fails with a mismatch that names the field. -/
theorem integer_decoding_exact_iff (field : String) (v : Value) :
    (∀ n, int64 field v = .ok n ↔ v.Denotes n.toInt ∨ v.SaturatesTo n) ∧
    (∀ n, int32 field v = .ok n ↔ v.Denotes n.toInt) ∧
    ((∃ n, int64 field v = .ok n) ∨
      ∃ actual, int64 field v = .error (.typeMismatch field "i64" actual)) ∧
    ((∃ n, int32 field v = .ok n) ∨
      ∃ expected ∈ ["i64", "i32"], ∃ actual,
        int32 field v = .error (.typeMismatch field expected actual)) := by
  refine ⟨fun n => ?_, fun n => ?_, ?_, ?_⟩
  · exact int64_eq_ok_iff
  · exact int32_eq_ok_iff
  · exact int64_cases field v
  · exact int32_cases field v

/-- The floating-point number just above the 64-bit integers is decoded as the last of these. -/
theorem exists_integer_decoding_inexact :
    let v := Value.float64 (.ofInt (2 ^ 63))
    v.Denotes (2 ^ 63) ∧ int64 "n" v = .ok Int64.maxValue ∧ ¬ v.Denotes Int64.maxValue.toInt := by
  intro v
  have hdenotes : v.Denotes (2 ^ 63) := by
    refine Binary64.rational?_eq_some_iff.mpr ⟨by decide, ?_⟩
    rw [Binary64.units_ofInt_two_pow]
    push_cast
    rfl
  refine ⟨hdenotes, ?_, ?_⟩
  · refine int64_eq_ok_iff.mpr (.inr ⟨rfl, 2 ^ 63, ?_, .inr ⟨by decide, rfl⟩⟩)
    exact_mod_cast hdenotes
  · intro h
    have hequal := Option.some.inj (hdenotes.symm.trans h)
    revert hequal
    decide

end CellDecoder

end TableQuery
