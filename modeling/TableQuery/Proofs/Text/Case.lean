import Mathlib.Data.List.TakeWhile
import TableQuery.Text.Case

/-!
# Small letters

The small letters of a text are those of its parts, each between its neighbours
(`lowerAfter_append`). Only the dotted capital I has more than one small letter
(`length_lowerBetween`), and no other letter becomes a percent sign
(`percent_notMem_lowerBetween`).

The capital sigma alone is lowered with regard to its neighbours. Wildcards have no case and are not
passed over, so that a word begins and ends at them (`startsCased_wildcard`).
-/

namespace TableQuery.Text

variable {before text rest : List Char} {c : Char}

/-- Whether a capital sigma between these neighbours stands at the end of a word: behind a letter
that has case, and not in front of one. The characters in front of it come nearest first. -/
def endsWord (before rest : List Char) : Bool := startsCased before && !startsCased rest

/-- The small letters of a character between its neighbours. -/
def smallLetters (before : List Char) (c : Char) (rest : List Char) : List Char :=
  if c == 'Σ' then if endsWord before rest then ['ς'] else ['σ'] else lowerChar c

/-- The small letters of a text between its neighbours. -/
def lowerBetween (before : List Char) : List Char → List Char → List Char
  | [], _ => []
  | c :: text, rest => smallLetters before c (text ++ rest) ++ lowerBetween (c :: before) text rest

/-- The small letters of a text start with those of its first character. -/
lemma lowerAfter_cons (before : List Char) (c : Char) (rest : List Char) :
    lowerAfter before (c :: rest) = smallLetters before c rest ++ lowerAfter (c :: before) rest :=
  rfl

/-- The small letters of a text are those of its first part and those of the rest. -/
lemma lowerAfter_append (before text rest : List Char) :
    lowerAfter before (text ++ rest) =
      lowerBetween before text rest ++ lowerAfter (text.reverse ++ before) rest := by
  induction text generalizing before with
  | nil => rfl
  | cons c text ih =>
    rw [List.cons_append, lowerAfter_cons, ih, lowerBetween, List.append_assoc, List.reverse_cons,
      List.append_assoc, List.singleton_append]

/-- The small letters of a whole text are those with nothing behind it. -/
lemma lowerAfter_eq (before text : List Char) :
    lowerAfter before text = lowerBetween before text [] := by
  have happend := lowerAfter_append before text []
  rw [List.append_nil] at happend
  rw [happend]
  exact List.append_nil _

/-- Of all characters only the capital sigma has small letters that depend on its neighbours. -/
lemma smallLetters_of_ne (hc : c ≠ 'Σ') (before rest : List Char) :
    smallLetters before c rest = lowerChar c :=
  if_neg (mt beq_iff_eq.mp hc)

/-- A capital sigma becomes the final sigma at the end of a word and the other one elsewhere. -/
lemma smallLetters_sigma (before rest : List Char) :
    smallLetters before 'Σ' rest = [if endsWord before rest then 'ς' else 'σ'] := by
  cases hends : endsWord before rest <;> simp [smallLetters, hends]

/-! ## Letters of several characters -/

/-- The dotted capital I becomes two characters, every other letter one. -/
lemma length_lowerChar (c : Char) : (lowerChar c).length = if c = 'İ' then 2 else 1 := by
  by_cases hc : c = 'İ'
  · rw [if_pos hc, hc]
    rfl
  · have hcode : ((0x130 : ℕ) == c.toNat) = false :=
      beq_eq_false_iff_ne.mpr fun h => hc (Char.toNat_inj.mp h.symm)
    have hfind : lowerExpansions.find? (·.1 == c.toNat) = none := by
      rw [lowerExpansions, List.find?_cons, hcode, List.find?_nil]
    rw [if_neg hc, lowerChar]
    split
    · rfl
    · rw [mapCase, hfind]
      dsimp only
      split <;> rfl

/-- Between any neighbours the dotted capital I becomes two characters, every other letter one. -/
lemma length_smallLetters (before : List Char) (c : Char) (rest : List Char) :
    (smallLetters before c rest).length = if c = 'İ' then 2 else 1 := by
  by_cases hc : c = 'Σ'
  · rw [hc, smallLetters_sigma]
    rfl
  · rw [smallLetters_of_ne hc, length_lowerChar]

/-- A text grows by one character for each dotted capital I in it. -/
lemma length_lowerBetween (before text rest : List Char) :
    (lowerBetween before text rest).length = text.length + text.count 'İ' := by
  induction text generalizing before with
  | nil => rfl
  | cons c text ih =>
    rw [lowerBetween, List.length_append, length_smallLetters, ih, List.length_cons,
      List.count_cons]
    simp only [beq_iff_eq]
    split_ifs <;> omega

/-! ## Wildcards -/

/-- No code behind that of the percent sign gives a percent sign. -/
lemma ofNat_ne_percent {n : ℕ} (hn : 37 < n) : Char.ofNat n ≠ '%' := by
  by_cases hvalid : n.isValidChar
  · rw [Char.ofNat, dif_pos hvalid]
    intro h
    have hcode : n = 37 := congrArg Char.toNat h
    omega
  · rw [Char.ofNat, dif_neg hvalid]
    decide

/-- Capitals become characters behind the percent sign. -/
lemma lt_of_mem_lowerRuns : ∀ run ∈ lowerRuns, (37 : ℤ) < run.first + run.shift := by
  decide +kernel

/-- No other letter becomes a percent sign. -/
lemma eq_percent_of_mem_lowerChar (h : '%' ∈ lowerChar c) : c = '%' := by
  unfold lowerChar at h
  split at h
  · rename_i hascii
    have hall : ∀ n < 0x80, '%' ∈ [(Char.ofNat n).toLower] → Char.ofNat n = '%' := by decide
    have hc := hall c.toNat hascii
    rw [Char.ofNat_toNat] at hc
    exact hc h
  · unfold mapCase at h
    split at h
    · rename_i code targets hfind
      have hmem := List.mem_of_find?_eq_some hfind
      rw [lowerExpansions, List.mem_singleton] at hmem
      obtain ⟨-, rfl⟩ := Prod.mk.inj hmem
      exact absurd h (by decide)
    · split at h
      · rename_i run hfind
        have hrun := lt_of_mem_lowerRuns run (List.mem_of_find?_eq_some hfind)
        have hcovers := (List.find?_eq_some_iff_append.mp hfind).1
        simp only [CaseRun.covers, Bool.and_eq_true, decide_eq_true_eq] at hcovers
        exact absurd (List.mem_singleton.mp h).symm (ofNat_ne_percent (by omega))
      · exact (List.mem_singleton.mp h).symm

/-- The small letters of a text hold a percent sign only if the text does. -/
lemma percent_notMem_lowerBetween (h : '%' ∉ text) (before rest : List Char) :
    '%' ∉ lowerBetween before text rest := by
  induction text generalizing before with
  | nil => exact List.not_mem_nil
  | cons c text ih =>
    rw [List.mem_cons, not_or] at h
    rw [lowerBetween, List.mem_append, not_or]
    refine ⟨fun hmem => ?_, ih h.2 _⟩
    by_cases hc : c = 'Σ'
    · rw [hc, smallLetters_sigma, List.mem_singleton] at hmem
      split at hmem <;> cases hmem
    · rw [smallLetters_of_ne hc] at hmem
      exact h.1 (eq_percent_of_mem_lowerChar hmem).symm

/-- Wildcards have no case, and a search for case does not pass over them. -/
lemma wildcard_uncased : ∀ c ∈ ['%', '_'], isCaseIgnorable c = false ∧ isCased c = false := by
  intro c hc
  rw [List.mem_cons, List.mem_singleton] at hc
  rcases hc with rfl | rfl
  · decide +kernel
  · decide +kernel

/-- A search for case ends at a character that it does not pass over. -/
lemma startsCased_of_not_ignorable (h : isCaseIgnorable c = false) (rest : List Char) :
    startsCased (c :: rest) = isCased c := by
  rw [startsCased, List.dropWhile_cons_of_neg (by rw [h]; decide)]

/-- A search for case goes on behind a character that it passes over. -/
lemma startsCased_of_ignorable (h : isCaseIgnorable c = true) (rest : List Char) :
    startsCased (c :: rest) = startsCased rest := by
  rw [startsCased, List.dropWhile_cons_of_pos h]
  rfl

/-- A word begins and ends at a wildcard. -/
lemma startsCased_wildcard (hc : c ∈ ['%', '_']) (rest : List Char) :
    startsCased (c :: rest) = false := by
  obtain ⟨hignorable, hcased⟩ := wildcard_uncased c hc
  rw [startsCased_of_not_ignorable hignorable, hcased]

/-- Before a place behind which a word goes on, there is a letter with case and then nothing but
characters that are passed over. -/
lemma exists_of_startsCased (h : startsCased text = true) :
    ∃ passed c rest, text = passed ++ c :: rest ∧ (∀ d ∈ passed, isCaseIgnorable d = true) ∧
      isCaseIgnorable c = false ∧ isCased c = true := by
  induction text with
  | nil => cases h
  | cons c text ih =>
    cases hignorable : isCaseIgnorable c with
    | false =>
      rw [startsCased_of_not_ignorable hignorable] at h
      exact ⟨[], c, text, rfl, List.forall_mem_nil _, hignorable, h⟩
    | true =>
      rw [startsCased_of_ignorable hignorable] at h
      obtain ⟨passed, d, rest, rfl, hpassed, hd⟩ := ih h
      exact ⟨c :: passed, d, rest, rfl, List.forall_mem_cons.mpr ⟨hignorable, hpassed⟩, hd⟩

end TableQuery.Text
