import TableQuery.Proofs.Number.Reading
import TableQuery.Value

/-!
# Values read as numbers

A value that reads as an integer also reads as a number, the one nearest to the integer
(`asBinary64?_of_asInt64?`). Numbers survive being written as texts: the text of an integer reads
as this integer, that of a finite number as this number, and those of the other numbers as no
number at all.
-/

namespace TableQuery

namespace Text

/-- No digit is white space. -/
lemma isBlank_of_isDigit {c : Char} (h : c.isDigit = true) : isBlank c = false := by
  have hrange : 48 ≤ c.toNat ∧ c.toNat ≤ 57 := by
    unfold Char.isDigit at h
    rw [Bool.and_eq_true, decide_eq_true_eq, decide_eq_true_eq] at h
    exact ⟨UInt32.le_iff_toNat_le.mp h.1, UInt32.le_iff_toNat_le.mp h.2⟩
  unfold isBlank
  simp only [Bool.or_eq_false_iff, Bool.and_eq_false_iff, decide_eq_false_iff_not,
    beq_eq_false_iff_ne]
  omega

/-- White space around a text without any is trimmed away. -/
lemma trimChars_append {before text after : List Char} (hbefore : ∀ c ∈ before, isBlank c = true)
    (h : ∀ c ∈ text, isBlank c = false) (hafter : ∀ c ∈ after, isBlank c = true) :
    trimChars (before ++ text ++ after) = text := by
  have hdrop (rest : List Char) {chars : List Char} (hne : chars ≠ [])
      (hchars : ∀ c ∈ chars, isBlank c = false) :
      (chars ++ rest).dropWhile isBlank = chars ++ rest := by
    obtain ⟨c, chars, rfl⟩ := List.exists_cons_of_ne_nil hne
    have hc := hchars c List.mem_cons_self
    rw [List.cons_append, List.dropWhile_cons_of_neg (by rw [hc]; decide)]
  have hreverse {chars : List Char} {blank : Bool} (hchars : ∀ c ∈ chars, isBlank c = blank) :
      ∀ c ∈ chars.reverse, isBlank c = blank :=
    fun c hc => hchars c (List.mem_reverse.mp hc)
  rw [trimChars, List.append_assoc, List.dropWhile_append_of_pos hbefore]
  rcases eq_or_ne text [] with rfl | hne
  · rw [List.nil_append, List.dropWhile_eq_nil_iff.mpr hafter]
    rfl
  · have hback := hdrop [] (List.reverse_ne_nil_iff.mpr hne) (hreverse h)
    rw [List.append_nil] at hback
    rw [hdrop after hne h, List.reverse_append, List.dropWhile_append_of_pos (hreverse hafter),
      hback, List.reverse_reverse]

/-- A text is its trimmed form with white space around it. -/
lemma exists_eq_trimChars (text : List Char) :
    ∃ before after, text = before ++ trimChars text ++ after ∧
      (∀ c ∈ before, isBlank c = true) ∧ ∀ c ∈ after, isBlank c = true := by
  have hback (chars : List Char) : chars =
      (chars.reverse.dropWhile isBlank).reverse ++ (chars.reverse.takeWhile isBlank).reverse := by
    rw [← List.reverse_append, List.takeWhile_append_dropWhile, List.reverse_reverse]
  refine ⟨text.takeWhile isBlank, ((text.dropWhile isBlank).reverse.takeWhile isBlank).reverse,
    ?_, fun c hc => List.mem_takeWhile_imp hc, fun c hc => ?_⟩
  · rw [List.append_assoc, trimChars, ← hback, List.takeWhile_append_dropWhile]
  · exact List.mem_takeWhile_imp (List.mem_reverse.mp hc)

/-- A text without white space is trimmed to itself. -/
lemma trimChars_eq_self {text : List Char} (h : ∀ c ∈ text, isBlank c = false) :
    trimChars text = text := by
  have htrim := trimChars_append (List.forall_mem_nil _) h (List.forall_mem_nil _)
  rwa [List.append_nil] at htrim

end Text

/-- Behind its sign a signed text holds what the text does. -/
lemma Binary64.mem_signed {negative : Bool} {text : List Char} {c : Char}
    (h : c ∈ signed negative text) : c = '-' ∨ c ∈ text := by
  unfold signed at h
  split at h
  · exact List.mem_cons.mp h
  · exact .inr h

namespace Value

/-- The characters of printed numbers are no white space. -/
lemma isBlank_of_mem_signed {negative : Bool} {text : List Char}
    (h : ∀ c ∈ text, c.isDigit = true ∨ c = '.') {c : Char}
    (hc : c ∈ Binary64.signed negative text) : Text.isBlank c = false := by
  rcases Binary64.mem_signed hc with rfl | hmem
  · decide
  · rcases h c hmem with hdigit | rfl
    · exact Text.isBlank_of_isDigit hdigit
    · decide

/-- The text of an integer reads as this integer. -/
lemma asInt64?_writeInt (i : Int64) : (text (Literal.writeInt i.toInt)).asInt64? = some i := by
  have hblank : ∀ c ∈ (Literal.writeInt i.toInt).toList, Text.isBlank c = false := by
    intro c hc
    rw [Literal.writeInt, String.toList_ofList] at hc
    refine isBlank_of_mem_signed (fun c' hc' => .inl ?_) hc
    exact List.all_eq_true.mp (Literal.all_isDigit_toDigits _) c' hc'
  rw [asInt64?, Text.trimChars_eq_self hblank]
  exact Literal.readInt64?_writeInt i

/-- The text of a finite number reads as this number. -/
lemma asBinary64?_toText {x : Binary64} (h : x.isFinite) :
    (text x.toText).asBinary64? = some x := by
  have hblank : ∀ c ∈ x.toText.toList, Text.isBlank c = false := by
    intro c hc
    cases x with
    | nan => cases h
    | infinite => cases h
    | finite negative m e hcanonical =>
      rw [Binary64.toText, String.toList_ofList] at hc
      exact isBlank_of_mem_signed (Decimal.plain_chars _).2 hc
  rw [asBinary64?, Text.trimChars_eq_self hblank, Literal.readBinary64?_toText h]
  exact Option.filter_some_pos h

/-- The texts of infinities and of what is not a number read as no number. -/
lemma asBinary64?_toText_of_not_finite {x : Binary64} (h : x.isFinite = false) :
    (text x.toText).asBinary64? = none := by
  cases x with
  | nan negative => cases negative <;> decide
  | infinite negative => cases negative <;> decide
  | finite => cases h

/-- A value that reads as an integer reads as the number nearest to it. -/
lemma asBinary64?_of_asInt64? {v : Value} {i : Int64} (h : v.asInt64? = some i) :
    ∃ x, v.asBinary64? = some x ∧ x.isFinite ∧ x.units = (Binary64.ofInt i.toInt).units := by
  cases v with
  | null => cases h
  | float64 => cases h
  | int64 j =>
    obtain rfl : j = i := Option.some.inj h
    exact ⟨.ofInt j.toInt, rfl, Binary64.isFinite_ofInt64 j, rfl⟩
  | text s =>
    obtain ⟨x, hread, hfinite, hunits⟩ := Literal.readBinary64?_of_readInt64? h
    refine ⟨x, ?_, hfinite, hunits⟩
    rw [asBinary64?, hread]
    exact Option.filter_some_pos hfinite

end Value

end TableQuery
