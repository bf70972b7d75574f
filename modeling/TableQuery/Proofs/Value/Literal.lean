import TableQuery.Proofs.Sql.Spelling
import TableQuery.Proofs.Value.Order

/-!
# Literals as cells

A literal has a value, which conditions compare with, and a text, which an insertion hands to the
store to be read as a cell. The two are level, except for a number that is too large for its type:
its value is an infinity, and its text is kept as a text (`compare?_infer_iff_of_spells`).
-/

namespace TableQuery

namespace Literal

/-! ## The characters of numbers -/

/-- No character of a text is white space. -/
def Unbroken (text : List Char) : Prop := ∀ c ∈ text, Text.isBlank c = false

/-- A text is unbroken when a check of its characters says so. -/
lemma unbroken_of_all {text : List Char} (h : text.all (fun c => !Text.isBlank c) = true) :
    Unbroken text := fun c hc => (Bool.not_eq_true' _).mp (List.all_eq_true.mp h c hc)

/-- Two texts are unbroken together exactly when each of them is. -/
lemma unbroken_append {text rest : List Char} :
    Unbroken (text ++ rest) ↔ Unbroken text ∧ Unbroken rest := List.forall_mem_append

/-- A text is unbroken behind a character that is no white space. -/
lemma unbroken_cons {c : Char} {rest : List Char} (hc : Text.isBlank c = false)
    (hrest : Unbroken rest) : Unbroken (c :: rest) :=
  List.forall_mem_cons.mpr ⟨hc, hrest⟩

/-- Digits are no white space. -/
lemma unbroken_of_isDigits {text : List Char} (h : IsDigits text) : Unbroken text :=
  fun c hc => Text.isBlank_of_isDigit (h c hc)

/-- The digits in front of a text are unbroken. -/
lemma unbroken_takeWhile_isDigit (text : List Char) : Unbroken (text.takeWhile Char.isDigit) :=
  unbroken_of_isDigits fun _ hc => List.mem_takeWhile_imp hc

/-- A text is its digits and what follows them. -/
lemma unbroken_of_dropWhile {text : List Char} (h : Unbroken (text.dropWhile Char.isDigit)) :
    Unbroken text := by
  rw [← List.takeWhile_append_dropWhile (p := Char.isDigit) (l := text), unbroken_append]
  exact ⟨unbroken_takeWhile_isDigit text, h⟩

/-- A text is unbroken when it is so behind its sign. -/
lemma unbroken_of_splitSign {text : List Char} (h : Unbroken (splitSign text).2) :
    Unbroken text := by
  unfold splitSign at h
  split at h
  · exact unbroken_cons (by decide) h
  · exact unbroken_cons (by decide) h
  · exact h

/-- A text that reads as an integer is unbroken. -/
lemma unbroken_of_readInt? {text : List Char} {i : ℤ} (h : readInt? text = some i) :
    Unbroken text := by
  obtain ⟨-, hdigits, -⟩ := readInt?_eq_some.mp h
  exact unbroken_of_splitSign (unbroken_of_isDigits hdigits)

/-- A text that reads as an exponent is unbroken. -/
lemma unbroken_of_readExponent? {text : List Char} {e : ℤ} (h : readExponent? text = some e) :
    Unbroken text := by
  cases text with
  | nil => exact List.forall_mem_nil _
  | cons c rest =>
    simp only [readExponent?] at h
    split at h
    · rename_i hc
      refine unbroken_cons ?_ (unbroken_of_readInt? h)
      rw [Bool.or_eq_true, beq_iff_eq, beq_iff_eq] at hc
      obtain rfl | rfl := hc <;> decide
    · cases h

/-- A text that reads as a decimal is unbroken. -/
lemma unbroken_of_readDecimal? {text : List Char} {d : Decimal} (h : readDecimal? text = some d) :
    Unbroken text := by
  refine unbroken_of_dropWhile ?_
  unfold readDecimal? at h
  dsimp only at h
  split at h
  · rename_i rest hpoint
    rw [hpoint]
    refine unbroken_cons (by decide) (unbroken_of_dropWhile ?_)
    dsimp only at h
    split at h
    · cases h
    · split at h
      · exact unbroken_of_readExponent? ‹_›
      · cases h
  · dsimp only at h
    split at h
    · cases h
    · split at h
      · exact unbroken_of_readExponent? ‹_›
      · cases h

/-- No capital letter is white space. -/
lemma isBlank_of_isUpper {c : Char} (h : c.isUpper = true) : Text.isBlank c = false := by
  have hrange : 65 ≤ c.toNat ∧ c.toNat ≤ 90 := by
    unfold Char.isUpper at h
    rw [decide_eq_true_eq] at h
    exact ⟨UInt32.le_iff_toNat_le.mp h.1, UInt32.le_iff_toNat_le.mp h.2⟩
  unfold Text.isBlank
  simp only [Bool.or_eq_false_iff, Bool.and_eq_false_iff, decide_eq_false_iff_not,
    beq_eq_false_iff_ne]
  omega

/-- A letter is no white space when its small letter is none. -/
lemma isBlank_of_toLower {c : Char} (h : Text.isBlank c.toLower = false) :
    Text.isBlank c = false := by
  cases hupper : c.isUpper with
  | true => exact isBlank_of_isUpper hupper
  | false =>
    have hsame : c.toLower = c := by
      unfold Char.isUpper at hupper
      exact dif_neg (decide_eq_false_iff_not.mp hupper)
    rwa [hsame] at h

/-- The words for numbers are made of letters. -/
lemma unbroken_of_lower {text : List Char} {word : String} (hword : Unbroken word.toList)
    (h : String.ofList (text.map Char.toLower) = word) : Unbroken text := by
  intro c hc
  refine isBlank_of_toLower (hword _ ?_)
  rw [← h, String.toList_ofList]
  exact List.mem_map_of_mem hc

/-- A text that reads as a number, by its digits or by its word, is unbroken. -/
lemma unbroken_of_readNumber? {text : List Char} {number : Number}
    (h : readNumber? text = some number) : Unbroken text := by
  have hletters : Unbroken "inf".toList ∧ Unbroken "infinity".toList ∧ Unbroken "nan".toList :=
    ⟨unbroken_of_all (by decide), unbroken_of_all (by decide), unbroken_of_all (by decide)⟩
  refine unbroken_of_splitSign ?_
  unfold readNumber? at h
  dsimp only at h
  split at h
  · exact unbroken_of_readDecimal? ‹_›
  · split at h
    · rename_i hword
      rw [Bool.or_eq_true, beq_iff_eq, beq_iff_eq] at hword
      obtain hword | hword := hword
      · exact unbroken_of_lower hletters.1 hword
      · exact unbroken_of_lower hletters.2.1 hword
    · split at h
      · exact unbroken_of_lower hletters.2.2 (beq_iff_eq.mp ‹_›)
      · cases h

/-- A text that spells a number has no white space that trimming could take away. -/
lemma trimChars_of_numberValue? {text : String} {value : Value}
    (h : Sql.Parser.numberValue? text = some value) :
    Text.trimChars text.toList = text.toList := by
  refine Text.trimChars_eq_self ?_
  unfold Sql.Parser.numberValue? at h
  cases hi : readInt64? text.toList with
  | some i => exact unbroken_of_readInt? (readInt64?_eq_some_iff.mp hi)
  | none =>
    rw [hi] at h
    obtain ⟨x, hx, -⟩ := Option.map_eq_some_iff.mp h
    obtain ⟨number, hnumber, -⟩ := Option.map_eq_some_iff.mp hx
    exact unbroken_of_readNumber? hnumber

end Literal

namespace Value

open Sql

/-! ## Texts that become cells -/

section

variable {s : String} (h : Text.trimChars s.toList ≠ [])

include h in
/-- A text that is not blank becomes the integer or the finite number that it reads as, or else it
stays the text that it is. -/
lemma infer_eq_getD : infer s =
    ((text s).asInt64?.map int64).getD (((text s).asBinary64?.map float64).getD (text s)) := by
  have hpresent : ¬ (Text.trimChars s.toList).isEmpty = true := by
    rw [List.isEmpty_iff]
    exact h
  unfold infer asInt64? asBinary64?
  dsimp only
  rw [if_neg hpresent]
  cases Literal.readInt64? (Text.trimChars s.toList) with
  | some i => rfl
  | none =>
    cases Literal.readBinary64? (Text.trimChars s.toList) with
    | none => rfl
    | some x =>
      by_cases hfinite : x.isFinite
      · dsimp only
        rw [if_pos hfinite, Option.filter_some_pos hfinite]
        rfl
      · dsimp only
        rw [if_neg hfinite, Option.filter_some_neg (Bool.eq_false_iff.mpr hfinite)]
        rfl

include h in
/-- A text that is not blank does not become an empty cell. -/
lemma isNull_infer : (infer s).isNull = false := by
  rw [infer_eq_getD h]
  cases (text s).asInt64? with
  | some i => rfl
  | none => cases (text s).asBinary64? <;> rfl

include h in
/-- A text is level with what it becomes as a cell. -/
lemma compare?_infer_text : (infer s).compare? (text s) = some .eq := by
  rw [infer_eq_getD h]
  cases hi : (text s).asInt64? with
  | some i => exact (compare?_eq_of_ints rfl hi).trans (congrArg some Std.ReflOrd.compare_self)
  | none =>
    cases hx : (text s).asBinary64? with
    | some x =>
      exact (compare?_eq_of_numbers rfl hx (.inr hi)).trans (congrArg some x.getD_compare?_self)
    | none => exact compare?_self rfl

end

/-! ## Numbers that are too large -/

/-- A number whose value is no finite one, though its text does not say so. -/
def Overflows (value : Value) (text : String) : Prop :=
  ∃ x, value = float64 x ∧ x.isFinite = false ∧ text ≠ x.toText

/-- What is no number, or a finite one, does not overflow. -/
lemma not_overflows_of_isFinite {x : Binary64} (hx : x.isFinite = true) (s : String) :
    ¬ Overflows (float64 x) s := by
  rintro ⟨y, hy, hinfinite, -⟩
  rw [float64.inj hy, hinfinite] at hx
  cases hx

/-- The text of a number reads as an integer or, if the number is finite, as a float, as the literal
does. -/
lemma readings_of_numberValue? {s : String} {value : Value}
    (h : Parser.numberValue? s = some value) :
    (∃ i, value = int64 i ∧ (text s).asInt64? = some i) ∨
    ∃ x, value = float64 x ∧ (text s).asInt64? = none ∧
      (text s).asBinary64? = (some x).filter Binary64.isFinite := by
  have htrim := Literal.trimChars_of_numberValue? h
  have hint : (text s).asInt64? = Literal.readInt64? s.toList := by rw [asInt64?, htrim]
  have hnumber : (text s).asBinary64? =
      (Literal.readBinary64? s.toList).filter Binary64.isFinite := by rw [asBinary64?, htrim]
  unfold Parser.numberValue? at h
  rw [hint, hnumber]
  cases hi : Literal.readInt64? s.toList with
  | some i =>
    rw [hi] at h
    exact .inl ⟨i, (Option.some.inj h).symm, rfl⟩
  | none =>
    rw [hi] at h
    obtain ⟨x, hx, rfl⟩ := Option.map_eq_some_iff.mp h
    exact .inr ⟨x, rfl, rfl, by rw [hx]⟩

/-- A number is level with the cell that its text becomes unless it is too large. -/
lemma compare?_infer_iff_of_number {s : String} {value : Value}
    (hvalue : Parser.numberValue? s = some value) (h : Text.trimChars s.toList ≠ []) :
    (infer s).compare? value = some .eq ↔ ¬ Overflows value s := by
  rw [infer_eq_getD h]
  rcases readings_of_numberValue? hvalue with ⟨i, rfl, hi⟩ | ⟨x, rfl, hi, hx⟩
  · rw [hi]
    exact iff_of_true (compare?_self rfl) (by rintro ⟨x, ⟨⟩, -⟩)
  rw [hi, hx]
  by_cases hfinite : x.isFinite = true
  · rw [Option.filter_some_pos hfinite]
    exact iff_of_true (compare?_self rfl) (not_overflows_of_isFinite hfinite s)
  · -- the text does not read as a number then, and is compared with that of the value
    have hinfinite := Bool.eq_false_iff.mpr hfinite
    rw [Option.filter_some_neg hinfinite] at hx ⊢
    have hcompare : (text s).compare? (float64 x) = some (compare s x.toText) :=
      compare?_eq_of_word rfl rfl (.inl hx)
    change (text s).compare? (float64 x) = some .eq ↔ _
    rw [hcompare, Option.some.injEq, Std.LawfulEqOrd.compare_eq_iff_eq]
    constructor
    · rintro hsame ⟨y, hy, -, hne⟩
      obtain rfl := float64.inj hy
      exact hne hsame
    · intro hnot
      by_contra hne
      exact hnot ⟨x, rfl, hinfinite, hne⟩

/-- A word that is not NULL is the text of its literal. -/
lemma eq_text_of_wordValue? {token : Token} {value : Value} {s : String}
    (h : Parser.wordValue? token = some (value, s)) (hvalue : value ≠ .null) : value = text s := by
  cases token with
  | quoted name =>
    obtain ⟨rfl, rfl⟩ := Prod.mk.inj (Option.some.inj h)
    rfl
  | word name quote =>
    cases quote with
    | some quote =>
      obtain ⟨rfl, rfl⟩ := Prod.mk.inj (Option.some.inj h)
      rfl
    | none =>
      simp only [Parser.wordValue?] at h
      split at h
      · obtain ⟨rfl, -⟩ := Prod.mk.inj (Option.some.inj h)
        exact absurd rfl hvalue
      · obtain ⟨found, -, hfound⟩ := Option.map_eq_some_iff.mp h
        obtain ⟨rfl, rfl⟩ := Prod.mk.inj hfound
        rfl
  | number | symbol | other => cases h

/-- A literal is level with the cell that its text becomes unless it is a number that is too
large. -/
lemma compare?_infer_iff_of_spells {value : Value} {s : String} {written : List Token}
    (hspells : SpellsLiteral (value, s) written) (hvalue : value ≠ .null)
    (h : Text.trimChars s.toList ≠ []) :
    (infer s).compare? value = some .eq ↔ ¬ Overflows value s := by
  cases hspells with
  | number hnumber => exact compare?_infer_iff_of_number hnumber h
  | negative hnumber => exact compare?_infer_iff_of_number hnumber h
  | word htoken =>
    obtain rfl := eq_text_of_wordValue? htoken hvalue
    exact iff_of_true (compare?_infer_text h) (by rintro ⟨x, ⟨⟩, -⟩)

end Value

end TableQuery
