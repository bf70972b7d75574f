import TableQuery.Proofs.Sql.Conditions
import TableQuery.Proofs.Sql.Numerals

/-!
# Limits and literals

A limit negates what its digits spell; a literal is what its digits spell behind their sign. Digits
that a text is cut into have no sign of their own, so both read the same integers
(`limit_eq_ok_iff`, `literal_eq_ok_int64_iff`), except for the least one: its digits alone spell no
64-bit integer.
-/

namespace TableQuery

/-- Whether a token is one of those that some text is cut into. -/
def Token.Occurs (token : Token) : Prop :=
  ∃ text tokens, Token.scan text = .ok tokens ∧ token ∈ tokens

namespace Sql

/-- A minus sign, or nothing. -/
def writeSign (negative : Bool) : List Token := if negative then [.symbol "-"] else []

/-- The tokens of a number with a minus sign or without. -/
def signedNumber (negative : Bool) (digits : String) (long : Bool) : List Token :=
  writeSign negative ++ [.number digits long]

/-- The text of a number with a minus sign or without. -/
def signedText (negative : Bool) (digits : String) : String :=
  if negative then "-" ++ digits else digits

/-- An integer is written as a number with a sign. -/
lemma writeInteger_eq_signedNumber (i : Int64) : writeInteger i =
    signedNumber (decide (i.toInt < 0)) (Literal.writeInt i.toInt.natAbs) false := by
  unfold writeInteger signedNumber writeSign
  by_cases h : i.toInt < 0
  · rw [if_pos h, decide_eq_true h]
    rfl
  · rw [if_neg h, decide_eq_false h]
    rfl

namespace Parser

section

variable (negative : Bool) (digits : String) (long : Bool) (rest : List Token)

/-- An optional minus sign is read back unless another one follows. -/
lemma sign_reads : Reads (symbol "-") (writeSign negative) negative
    fun token => token != .symbol "-" := by
  cases negative with
  | false => exact symbol_absent "-"
  | true => exact fun rest _ => symbol_reads "-" rest (follows_anything rest)

/-- The limit that a number is. -/
lemma limit_signedNumber :
    limit (signedNumber negative digits long ++ rest) =
      match Literal.readInt64? digits.toList with
      | some i => .ok (if negative then -i else i, rest)
      | none => .error (.invalidSyntax (fragment (.number digits long :: rest))
          "LIMIT expects an integer") := by
  unfold limit signedNumber
  rw [List.append_assoc]
  refine ((sign_reads negative).bind_eq _ (follows_cons rfl _)).trans ?_
  rw [ahead_bind]
  simp only [List.head?_cons]
  cases Literal.readInt64? digits.toList with
  | none => rfl
  | some i => rfl

/-- The literal that a number is. -/
lemma literal_signedNumber :
    literal (signedNumber negative digits long ++ rest) =
      match numberValue? (signedText negative digits) with
      | some value => .ok ((value, signedText negative digits), rest)
      | none => .error (.invalidSyntax (fragment (.number digits long :: rest))
          "malformed number") := by
  unfold literal signedNumber signedText
  rw [List.append_assoc]
  refine ((sign_reads negative).bind_eq _ (follows_cons rfl _)).trans ?_
  rw [ahead_bind]
  simp only [List.head?_cons]
  cases numberValue? (if negative then "-" ++ digits else digits) with
  | none => rfl
  | some value => rfl

variable {negative digits long rest} {i : Int64} {left : List Token}

/-- A number is an integer when its text spells one of 64 bits. -/
lemma numberValue?_eq_some_int64_iff {text : String} :
    numberValue? text = some (.int64 i) ↔ Literal.readInt64? text.toList = some i := by
  unfold numberValue?
  cases Literal.readInt64? text.toList with
  | none => simp
  | some j => simp

/-- A limit is the number that its digits spell, negated after a minus. -/
lemma limit_eq_ok_iff : limit (signedNumber negative digits long ++ rest) = .ok (i, left) ↔
    Literal.readInt64? digits.toList = some (if negative then -i else i) ∧ left = rest := by
  rw [limit_signedNumber]
  cases Literal.readInt64? digits.toList with
  | none => simp
  | some j =>
    have hneg : -j = i ↔ j = -i := by
      constructor
      · rintro rfl
        rw [Int64.neg_neg]
      · rintro rfl
        rw [Int64.neg_neg]
    rw [Except.ok.injEq, Prod.mk.injEq, Option.some.injEq, @eq_comm _ rest]
    cases negative with
    | true => exact and_congr_left fun _ => hneg
    | false => exact Iff.rfl

/-- A literal is the integer that its digits spell behind their sign. -/
lemma literal_eq_ok_int64_iff :
    (∃ spelled, literal (signedNumber negative digits long ++ rest) =
      .ok ((.int64 i, spelled), left)) ↔
    Literal.readInt64? (signedText negative digits).toList = some i ∧ left = rest := by
  rw [literal_signedNumber, ← numberValue?_eq_some_int64_iff]
  cases numberValue? (signedText negative digits) with
  | none => simp
  | some value => simp [eq_comm]

/-- What a sign makes of an integer afterwards is what its digits spell behind the sign, unless that
is the least integer. -/
lemma readInt64?_signedText_iff (h : (Token.number digits long).Unsigned) :
    Literal.readInt64? digits.toList = some (if negative then -i else i) ↔
      i ≠ Int64.minValue ∧ Literal.readInt64? (signedText negative digits).toList = some i := by
  have hsign : Literal.Unsigned digits.toList := h
  cases negative with
  | true =>
    have htext : (signedText true digits).toList = '-' :: digits.toList := String.toList_append
    rw [if_pos rfl, htext]
    exact Literal.readInt64?_eq_some_neg_iff hsign
  | false => exact ⟨fun hread => ⟨Literal.ne_minValue_of_readInt64? hsign hread, hread⟩, And.right⟩

/-- A number token of a text is read as a limit and as a literal alike, but for the least number. -/
lemma limit_eq_ok_iff_literal (h : (Token.number digits long).Unsigned) :
    limit (signedNumber negative digits long ++ rest) = .ok (i, left) ↔
      i ≠ Int64.minValue ∧ ∃ spelled,
        literal (signedNumber negative digits long ++ rest) = .ok ((.int64 i, spelled), left) := by
  rw [limit_eq_ok_iff, literal_eq_ok_int64_iff, readInt64?_signedText_iff h, and_assoc]

/-- A number that is no limit is reported at its digits. -/
lemma limit_eq_error (h : ∀ i left, limit (signedNumber negative digits long ++ rest) ≠
    .ok (i, left)) : limit (signedNumber negative digits long ++ rest) =
      .error (.invalidSyntax (fragment (.number digits long :: rest))
        "LIMIT expects an integer") := by
  rw [limit_signedNumber] at h ⊢
  cases hread : Literal.readInt64? digits.toList with
  | none => rfl
  | some i =>
    rw [hread] at h
    exact absurd rfl (h _ _)

end

/-- An integer as written is read as a literal. -/
lemma literal_writeInteger (i : Int64) (rest : List Token) :
    literal (writeInteger i ++ rest) = .ok ((.int64 i, Literal.writeInt i.toInt), rest) :=
  literal_reads_of_spells (spells_writeInteger i) rest (follows_anything rest)

/-- An integer as written is read as a limit unless it is the least. -/
lemma limit_writeInteger_iff (i : Int64) (rest : List Token) :
    limit (writeInteger i ++ rest) = .ok (i, rest) ↔ i ≠ Int64.minValue := by
  have hunsigned : ∀ token ∈ writeInteger i, token.Unsigned :=
    Token.unsigned_of_scan (Token.scan_writeInt i)
  have hliteral := literal_writeInteger i rest
  rw [writeInteger_eq_signedNumber] at hunsigned hliteral ⊢
  have hnumber := hunsigned _ (List.mem_append_right _ List.mem_cons_self)
  rw [limit_eq_ok_iff_literal hnumber]
  exact and_iff_left ⟨_, hliteral⟩

/-! ## Agreement -/

/-- Whatever follows a number, a limit is read exactly where the literal of the same tokens is an
integer other than the least one, and is this integer; where it is not read, the error is that of
digits that are no integer. In particular the text of every integer is read as a literal, and as a
limit unless the integer is the least. -/
theorem limit_agrees_with_literal (rest : List Token) :
    (∀ (negative : Bool) (digits : String) (long : Bool), (Token.number digits long).Occurs →
      (∀ i left, limit (signedNumber negative digits long ++ rest) = .ok (i, left) ↔
        i ≠ Int64.minValue ∧ ∃ spelled,
          literal (signedNumber negative digits long ++ rest) =
            .ok ((.int64 i, spelled), left)) ∧
      ((∀ i spelled left, literal (signedNumber negative digits long ++ rest) =
          .ok ((.int64 i, spelled), left) → i = Int64.minValue) →
        limit (signedNumber negative digits long ++ rest) =
          .error (.invalidSyntax (fragment (.number digits long :: rest))
            "LIMIT expects an integer"))) ∧
    ∀ i : Int64, Token.scan (Literal.writeInt i.toInt) = .ok (writeInteger i) ∧
      literal (writeInteger i ++ rest) = .ok ((.int64 i, Literal.writeInt i.toInt), rest) ∧
      (limit (writeInteger i ++ rest) = .ok (i, rest) ↔ i ≠ Int64.minValue) := by
  constructor
  · intro negative digits long hoccurs
    obtain ⟨text, tokens, hscan, hmem⟩ := hoccurs
    have hunsigned := Token.unsigned_of_scan hscan _ hmem
    constructor
    · intro i left
      exact limit_eq_ok_iff_literal hunsigned
    · intro hleast
      refine limit_eq_error fun i left hlimit => ?_
      obtain ⟨hne, spelled, hliteral⟩ := (limit_eq_ok_iff_literal hunsigned).mp hlimit
      exact hne (hleast i spelled left hliteral)
  · intro i
    exact ⟨Token.scan_writeInt i, literal_writeInteger i rest, limit_writeInteger_iff i rest⟩

/-- Of the numbers in `-007 2.5` the first is a limit and so a literal, the second is no integer as
a literal and so no limit. -/
theorem limit_agrees_with_literal_of_two :
    (Token.number "007" false).Occurs ∧ (Token.number "2.5" false).Occurs ∧
      limit (signedNumber true "007" false ++ []) = .ok (-7, []) ∧
        (∃ spelled, literal (signedNumber true "007" false ++ []) =
          .ok ((.int64 (-7), spelled), [])) ∧
        limit (signedNumber false "2.5" false ++ []) =
          .error (.invalidSyntax "2.5" "LIMIT expects an integer") := by
  have hscan : Token.scan "-007 2.5" =
      .ok [.symbol "-", .number "007" false, .number "2.5" false] := rfl
  have hwhole : (Token.number "007" false).Occurs := ⟨_, _, hscan, by simp⟩
  have hfraction : (Token.number "2.5" false).Occurs := ⟨_, _, hscan, by simp⟩
  have hlimit : limit (signedNumber true "007" false ++ []) = .ok (-7, []) := by
    decide +kernel
  have hread : Literal.readInt64? (signedText false "2.5").toList = none := by decide +kernel
  obtain ⟨hnumber, -⟩ := limit_agrees_with_literal []
  obtain ⟨hagree, -⟩ := hnumber true "007" false hwhole
  obtain ⟨-, herror⟩ := hnumber false "2.5" false hfraction
  refine ⟨hwhole, hfraction, hlimit, ((hagree (-7) []).mp hlimit).2, herror ?_⟩
  intro i spelled left hliteral
  obtain ⟨hsome, -⟩ := literal_eq_ok_int64_iff.mp ⟨spelled, hliteral⟩
  rw [hread] at hsome
  cases hsome

/-- The least integer is a literal and no limit. -/
theorem exists_literal_no_limit :
    literal.read "-9223372036854775808" =
        .ok (.int64 Int64.minValue, "-9223372036854775808") ∧
      limit.read "-9223372036854775808" =
        .error (.invalidSyntax "9223372036854775808" "LIMIT expects an integer") ∧
      SelectStatement.parse "SELECT a FROM t LIMIT -9223372036854775808" =
        .error (.invalidSyntax "9223372036854775808" "LIMIT expects an integer") := by
  decide +kernel

end Parser

end Sql

end TableQuery
