import Mathlib.Tactic.IntervalCases
import TableQuery.Proofs.Number.Reading
import TableQuery.Proofs.Result
import TableQuery.Proofs.Sql.Writer
import TableQuery.Sql.Token.Lexer

/-!
# Numbers in texts

A sign is a token of its own, so the digits of a number token never start with one
(`unsigned_of_scan`). This is shown for one step of the scanner (`yields_step`), in which only
`number` makes such tokens, and from it for a text by induction on the steps. In the other direction
the text of a 64-bit integer is cut into its sign and its digits (`scan_writeInt`).
-/

namespace TableQuery

/-- Whether the digits of a token, if it is a number, do not start with a sign. -/
def Token.Unsigned : Token → Prop
  | .number digits _ => Literal.Unsigned digits.toList
  | _ => True

namespace Sql

open Literal

/-! ## What a step of the scanner can give -/

section Yields

variable {α β : Type} {p : α → Prop}

/-- Whether everything that a scan can give has a property. -/
def Yields (p : α → Prop) (scan : Scan α) : Prop :=
  ∀ found rest, scan = .ok (found, rest) → p found

/-- A failure gives nothing. -/
lemma yields_error (failure : ScanFailure) : Yields p (.error failure) := by
  intro found rest h
  cases h

/-- What is found is all that a successful scan gives. -/
lemma yields_ok {found : α} (h : p found) (rest : List Char) : Yields p (.ok (found, rest)) := by
  intro first left heq
  obtain ⟨rfl, -⟩ := Prod.mk.inj (Except.ok.inj heq)
  exact h

/-- A choice between two scans gives what either of them does. -/
lemma yields_ite {condition : Prop} [Decidable condition] {first second : Scan α}
    (hfirst : Yields p first) (hsecond : Yields p second) :
    Yields p (if condition then first else second) := by
  split
  · exact hfirst
  · exact hsecond

/-- What a scan gives may be mapped if the map keeps the property. -/
lemma Yields.map {q : β → Prop} {scan : Scan α} (h : Yields p scan)
    {f : α × List Char → β × List Char} (hf : ∀ read, p read.1 → q (f read).1) :
    Yields q (scan.map f) := by
  cases scan with
  | error failure => exact yields_error failure
  | ok read => exact yields_ok (hf read (h _ _ rfl)) _

end Yields

/-! ## Tokens that are no numbers -/

/-- What stands between two marks is no number. -/
lemma yields_enclosed (opening closing : String) (read : Option (List Char × List Char))
    (failure : ScanFailure) : Yields Token.Unsigned (enclosed opening closing read failure) := by
  unfold enclosed
  cases read with
  | none => exact yields_error failure
  | some read => exact yields_ok trivial read.2

/-- A raw text is no number. -/
lemma yields_rawQuoted (quote : Char) (text : List Char) :
    Yields Token.Unsigned (rawQuoted quote text) := by
  unfold rawQuoted
  dsimp only
  split
  · exact yields_enclosed _ _ _ _
  · exact yields_ok trivial _
  · exact yields_enclosed _ _ _ _

/-- A text behind a letter and a quote is no number. -/
lemma yields_prefixed {text : List Char} {scan : Scan Token} (h : prefixed? text = some scan) :
    Yields Token.Unsigned scan := by
  unfold prefixed? at h
  split at h
  · dsimp only at h
    -- one case for each letter and quote
    split at h
    · exact Option.some.inj h ▸ yields_enclosed _ _ _ _
    · exact Option.some.inj h ▸ yields_enclosed _ _ _ _
    · exact Option.some.inj h ▸ yields_rawQuoted _ _
    · exact Option.some.inj h ▸ yields_rawQuoted _ _
    · exact Option.some.inj h ▸ yields_enclosed _ _ _ _
    · exact Option.some.inj h ▸ yields_enclosed _ _ _ _
    · exact Option.some.inj h ▸ yields_enclosed _ _ _ _
    · split at h
      · obtain rfl := Option.some.inj h
        exact Yields.map (p := fun _ => True) (fun _ _ _ => trivial) fun _ _ => trivial
      · cases h
    · cases h
  · cases h

/-- What a dollar sign starts is no number. -/
lemma yields_dollar (text : List Char) : Yields Token.Unsigned (dollar text) := by
  unfold dollar
  dsimp only
  split
  · exact yields_enclosed _ _ _ _
  · exact yields_ok trivial _

/-- What a hash or an at sign starts is no number. -/
lemma unsigned_marked (sign text : List Char) : (marked sign text).1.Unsigned := by
  unfold marked
  split
  · trivial
  · split
    · trivial
    · trivial

/-! ## Numbers -/

/-- An exponent starts with its mark. -/
lemma unsigned_takeExponent (text : List Char) : Unsigned (takeExponent text).1 := by
  unfold takeExponent
  split
  · split
    · rename_i mark rest hmark
      have hne : mark ≠ '-' ∧ mark ≠ '+' := by
        rcases hmark with rfl | rfl
        · decide
        · decide
      -- the sign of the exponent does not matter
      split
      all_goals
        dsimp only
        split
        · exact unsigned_nil
        · exact unsigned_cons hne _
    · exact unsigned_nil
  · exact unsigned_nil

/-- The digits in front of a text have no sign. -/
lemma unsigned_takeWhile_isDigit (text : List Char) : Unsigned (text.takeWhile Char.isDigit) :=
  unsigned_of_digits fun _ hc => List.mem_takeWhile_imp hc

/-- A number token has no sign exactly when the text of its digits has none. -/
lemma unsigned_number_iff (text : List Char) (long : Bool) :
    Token.Unsigned (.number (String.ofList text) long) ↔ Unsigned text := by
  change Unsigned (String.ofList text).toList ↔ Unsigned text
  rw [String.toList_ofList]

/-- The mark of a long number is not one of its digits. -/
lemma unsigned_suffixed {digits : List Char} (h : Unsigned digits) (rest : List Char) :
    (match rest with
      | 'L' :: after => (Token.number (String.ofList digits) true, after)
      | _ => (Token.number (String.ofList digits) false, rest)).1.Unsigned := by
  split
  · exact (unsigned_number_iff digits true).mpr h
  · exact (unsigned_number_iff digits false).mpr h

/-- A number starts with a digit, with its point or with the mark of its exponent. -/
lemma unsigned_number (text : List Char) : (number text).1.Unsigned := by
  have hwhole := unsigned_takeWhile_isDigit text
  unfold number
  dsimp only
  split
  · trivial
  · split
    · rename_i after _
      have hpoint := (hwhole.append (unsigned_cons (c := '.') (by decide) [])).append
        (unsigned_takeWhile_isDigit after)
      split
      · trivial
      · exact unsigned_suffixed (hpoint.append (unsigned_takeExponent _)) _
    · have hnone := (hwhole.append unsigned_nil).append
        (unsigned_takeWhile_isDigit (text.dropWhile Char.isDigit))
      split
      · trivial
      · exact unsigned_suffixed (hnone.append (unsigned_takeExponent _)) _

/-- A step gives no signed number. -/
lemma yields_token (text : List Char) : Yields Token.Unsigned (token text) := by
  unfold token
  split
  · rename_i read h
    exact yields_prefixed h
  · split
    · exact yields_error _
    · refine yields_ite ?_ (yields_ite ?_ (yields_ite ?_ (yields_ite ?_ (yields_ite ?_ ?_))))
      · split
        · exact yields_ok trivial _
        · exact yields_error _
      · split
        · exact yields_ok trivial _
        · exact yields_error _
      · exact yields_ok (unsigned_number _) _
      · exact yields_ok trivial _
      · exact yields_dollar _
      · split
        · exact yields_ok trivial _
        · refine yields_ite ?_ (yields_ite ?_ (yields_ite ?_ ?_))
          · exact yields_ok (unsigned_marked _ _) _
          · exact yields_ok (unsigned_marked _ _) _
          · exact yields_ok trivial _
          · exact yields_ok trivial _

/-- What a step gives, if it gives a token at all, is no signed number. -/
lemma yields_step (text : List Char) :
    Yields (fun found => ∀ token ∈ found, token.Unsigned) (step text) := by
  unfold step
  split
  · exact yields_ok (by simp) _
  · split
    · exact yields_ok (by simp) _
    · exact yields_error _
  · exact yields_ok (by simp) _
  · refine yields_ite (yields_ok (by simp) _) ?_
    exact (yields_token _).map fun _ h => by simpa using h

/-- What a step gives, the steps give. -/
lemma unsigned_of_tokensFrom {bound : Nat} {text : List Char} {tokens : List Token}
    (h : tokensFrom bound text = .ok tokens) : ∀ token ∈ tokens, token.Unsigned := by
  induction bound generalizing text tokens with
  | zero =>
    obtain rfl := Except.ok.inj h
    simp
  | succ bound ih =>
    cases text with
    | nil =>
      obtain rfl := Except.ok.inj h
      simp
    | cons c rest =>
      obtain ⟨⟨found, left⟩, hstep, h⟩ := Result.bind_eq_ok h
      obtain ⟨others, hothers, h⟩ := Result.bind_eq_ok h
      obtain rfl := Except.ok.inj h
      intro token hmem
      rcases List.mem_append.mp hmem with hfound | hrest
      · exact yields_step _ _ _ hstep token (Option.mem_toList.mp hfound)
      · exact ih hothers token hrest

/-! ## The texts of integers -/

/-- The digits, one by one. -/
lemma digit_cases {c : Char} (h : c.isDigit) :
    c = '0' ∨ c = '1' ∨ c = '2' ∨ c = '3' ∨ c = '4' ∨ c = '5' ∨ c = '6' ∨ c = '7' ∨ c = '8' ∨
      c = '9' := by
  have hrange : 48 ≤ c.toNat ∧ c.toNat ≤ 57 := by
    simpa [Char.isDigit, UInt32.le_iff_toNat_le] using h
  obtain ⟨hlow, hhigh⟩ := hrange
  rw [← Char.ofNat_toNat c]
  interval_cases c.toNat <;> decide

/-- At a digit a number starts. -/
lemma step_digit {c : Char} (h : c.isDigit) (rest : List Char) :
    step (c :: rest) = .ok (some (number (c :: rest)).1, (number (c :: rest)).2) := by
  -- a digit is no letter in front of a quote, but this is looked up with the character behind it
  rcases digit_cases h with rfl | rfl | rfl | rfl | rfl | rfl | rfl | rfl | rfl | rfl
  all_goals cases rest <;> rfl

/-- In front of a digit a minus sign is a token. -/
lemma step_minus {c : Char} (h : c.isDigit) (rest : List Char) :
    step ('-' :: c :: rest) = .ok (some (.symbol "-"), c :: rest) := by
  rcases digit_cases h with rfl | rfl | rfl | rfl | rfl | rfl | rfl | rfl | rfl | rfl
  all_goals rfl

/-- Digits alone are one number, with nothing left. -/
lemma number_digits {digits : List Char} (h : IsDigits digits) (hne : digits ≠ []) :
    number digits = (.number (String.ofList digits) false, []) := by
  have htake : digits.takeWhile Char.isDigit = digits := List.takeWhile_eq_self_iff.mpr h
  have hdrop : digits.dropWhile Char.isDigit = [] := List.dropWhile_eq_nil_iff.mpr h
  have hpoint : digits ≠ ['.'] := by
    rintro rfl
    exact absurd (h '.' List.mem_cons_self) (by decide)
  unfold number
  simp [htake, hdrop, hpoint, takeExponent]

/-- Digits alone are one token. -/
lemma tokens_digits {digits : List Char} (h : IsDigits digits) (hne : digits ≠ []) :
    tokens digits = .ok [.number (String.ofList digits) false] := by
  obtain ⟨c, rest, rfl⟩ := List.exists_cons_of_ne_nil hne
  have hstep := step_digit (h c List.mem_cons_self) rest
  rw [number_digits h hne] at hstep
  rw [tokens, List.length_cons, tokensFrom, hstep]
  cases rest <;> rfl

/-- Digits behind a minus sign are two tokens. -/
lemma tokens_minus_digits {digits : List Char} (h : IsDigits digits) (hne : digits ≠ []) :
    tokens ('-' :: digits) = .ok [.symbol "-", .number (String.ofList digits) false] := by
  have hdigits := tokens_digits h hne
  obtain ⟨c, rest, rfl⟩ := List.exists_cons_of_ne_nil hne
  rw [tokens, List.length_cons, tokensFrom, step_minus (h c List.mem_cons_self) rest]
  change (tokens (c :: rest)).bind _ = _
  rw [hdigits]
  rfl

end Sql

namespace Token

open Sql

/-- No number token of a text has a sign. -/
lemma unsigned_of_scan {text : String} {tokens : List Token} (h : scan text = .ok tokens) :
    ∀ token ∈ tokens, token.Unsigned := by
  unfold scan at h
  split at h
  · rename_i found hfound
    obtain rfl := Except.ok.inj h
    exact unsigned_of_tokensFrom hfound
  · cases h

/-- The text of an integer is cut into its sign and its digits. -/
lemma scan_writeInt (i : Int64) : scan (Literal.writeInt i.toInt) = .ok (writeInteger i) := by
  have hdigits : Literal.IsDigits (Nat.toDigits 10 i.toInt.natAbs) :=
    List.all_eq_true.mp (Literal.all_isDigit_toDigits i.toInt.natAbs)
  have hne : Nat.toDigits 10 i.toInt.natAbs ≠ [] := Nat.toDigits_ne_nil
  unfold scan writeInteger
  by_cases hneg : i.toInt < 0
  · have htext : (Literal.writeInt i.toInt).toList = '-' :: Nat.toDigits 10 i.toInt.natAbs := by
      rw [Literal.writeInt, decide_eq_true hneg]
      exact String.toList_ofList
    rw [if_pos hneg, htext, tokens_minus_digits hdigits hne, Literal.writeInt_natCast]
  · have hnat : i.toInt = (i.toInt.natAbs : Int) := by omega
    have htext : (Literal.writeInt i.toInt).toList = Nat.toDigits 10 i.toInt.natAbs := by
      rw [hnat, Literal.writeInt_natCast, Int.natAbs_natCast]
      exact String.toList_ofList
    rw [if_neg hneg, htext, tokens_digits hdigits hne, Literal.writeInt_natCast]

end Token

end TableQuery
