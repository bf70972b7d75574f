import Mathlib.Data.List.Infix
import TableQuery.Proofs.Text.Case
import TableQuery.Proofs.Text.Pattern

/-!
# Patterns with case ignored

A pattern that matches a text as both are written should match it all the more when case is ignored.
But both are put in small letters as wholes, and then two things can go wrong: an underscore takes a
dotted capital I, which has become two characters, or a capital sigma takes a capital sigma, and one
of the two has become the final sigma.

A split in which neither happens is one of the small letters too (`splits_of_alike`). So a text is
matched with case ignored by all patterns that match it as it is written if and only if it has no
dotted capital I and no capital sigma behind a letter with case
(`ignoring_case_widens_iff`): for any other text there is a pattern of underscores and a few of
its letters that is lost (`exists_lost_pattern`).
-/

namespace TableQuery.Text.Pattern

variable {before passed pattern text : List Char}

/-! ## Splits that small letters keep -/

/-- A text can be split along a pattern so that no underscore takes a dotted capital I and each
capital sigma of the pattern takes one that ends a word if and only if it does so itself. The
characters in front of the pattern and of the text come nearest first. -/
inductive SplitsAlike : (passed pattern before text : List Char) → Prop
  | done {passed before : List Char} : SplitsAlike passed [] before []
  | percent {passed pattern before text : List Char} (piece : List Char)
      (rest : SplitsAlike ('%' :: passed) pattern (piece.reverse ++ before) text) :
      SplitsAlike passed ('%' :: pattern) before (piece ++ text)
  | underscore {passed pattern before text : List Char} {c : Char} (hc : c ≠ 'İ')
      (rest : SplitsAlike ('_' :: passed) pattern (c :: before) text) :
      SplitsAlike passed ('_' :: pattern) before (c :: text)
  | letter {passed pattern before text : List Char} {c : Char}
      (hc : c = 'Σ' → endsWord passed pattern = endsWord before text)
      (rest : SplitsAlike (c :: passed) pattern (c :: before) text) :
      SplitsAlike passed (c :: pattern) before (c :: text)

/-- A split of this kind is a split. -/
lemma SplitsAlike.splits (h : SplitsAlike passed pattern before text) : Splits pattern text := by
  induction h with
  | done => exact splits_self []
  | percent piece rest ih => exact splits_percent_iff.mpr ⟨_, List.suffix_append piece _, ih⟩
  | underscore hc rest ih => exact (splits_cons_iff (by decide)).mpr ⟨_, _, rfl, .inl rfl, ih⟩
  | letter hc rest ih => exact (splits_self [_]).append ih

/-- Wildcards are their own small letters. -/
lemma smallLetters_wildcard {c : Char} (hc : c ∈ ['%', '_']) (before rest : List Char) :
    smallLetters before c rest = [c] := by
  obtain ⟨hne, hlower⟩ : c ≠ 'Σ' ∧ lowerChar c = [c] := by
    rw [List.mem_cons, List.mem_singleton] at hc
    rcases hc with rfl | rfl
    · decide +kernel
    · decide +kernel
  rw [smallLetters_of_ne hne, hlower]

/-- Such a split is one of the small letters as well. -/
lemma splits_of_alike (h : SplitsAlike passed pattern before text) :
    Splits (lowerAfter passed pattern) (lowerAfter before text) := by
  induction h with
  | done => exact splits_self []
  | percent piece rest ih =>
    rw [lowerAfter_cons, smallLetters_wildcard (by decide), lowerAfter_append]
    exact splits_percent_iff.mpr ⟨_, List.suffix_append _ _, ih⟩
  | @underscore passed pattern before text c hc rest ih =>
    have hlength : (smallLetters before c text).length = 1 := by
      rw [length_smallLetters, if_neg hc]
    obtain ⟨small, hsmall⟩ := List.length_eq_one_iff.mp hlength
    rw [lowerAfter_cons, smallLetters_wildcard (by decide), lowerAfter_cons, hsmall]
    exact (splits_cons_iff (by decide)).mpr ⟨small, _, rfl, .inl rfl, ih⟩
  | @letter passed pattern before text c hc rest ih =>
    have hsmall : smallLetters passed c pattern = smallLetters before c text := by
      unfold smallLetters
      split
      · rename_i hsigma
        rw [hc (beq_iff_eq.mp hsigma)]
      · rfl
    rw [lowerAfter_cons, lowerAfter_cons, hsmall]
    exact (splits_self _).append ih

/-! ## Texts that small letters keep apart from their neighbours -/

/-- Whether a text has no dotted capital I and no capital sigma behind a letter with case. -/
def SteadyCase (text : List Char) : Prop :=
  'İ' ∉ text ∧ ∀ front ∈ text.inits, front ++ ['Σ'] <+: text → startsCased front.reverse = false

/-- Whether a text has steady case can be computed. -/
instance (text : List Char) : Decidable (SteadyCase text) :=
  inferInstanceAs (Decidable (_ ∧ ∀ front ∈ text.inits, _ → _))

/-- In a text with steady case small letters keep all splits. The induction is along the pattern:
behind a letter with case in the pattern stands one in the text. -/
lemma alike_of_splits (hsteady : SteadyCase (before.reverse ++ text))
    (hcased : startsCased passed = true → startsCased before = true) (h : Splits pattern text) :
    SplitsAlike passed pattern before text := by
  induction pattern generalizing passed before text with
  | nil =>
    obtain rfl := splits_nil_iff.mp h
    exact .done
  | cons p pattern ih =>
    by_cases hp : p = '%'
    · subst hp
      obtain ⟨rest, ⟨piece, rfl⟩, hrest⟩ := splits_percent_iff.mp h
      refine .percent piece (ih ?_ ?_ hrest)
      · rwa [List.reverse_append, List.reverse_reverse, List.append_assoc]
      · rw [startsCased_wildcard (by decide)]
        exact fun h => absurd h Bool.false_ne_true
    · obtain ⟨c, rest, rfl, hfits, hrest⟩ := (splits_cons_iff hp).mp h
      have hsteady' : SteadyCase ((c :: before).reverse ++ rest) := by
        rwa [List.reverse_cons, List.append_assoc, List.singleton_append]
      rcases hfits with rfl | rfl
      · refine .underscore ?_ (ih hsteady' ?_ hrest)
        · rintro rfl
          exact hsteady.1 (List.mem_append_right _ List.mem_cons_self)
        · rw [startsCased_wildcard (by decide)]
          exact fun h => absurd h Bool.false_ne_true
      · refine .letter ?_ (ih hsteady' ?_ hrest)
        · rintro rfl
          -- in steady case no letter with case stands in front of a capital sigma
          have hbefore := hsteady.2 before.reverse
            ((List.mem_inits _ _).mpr (List.prefix_append _ _)) ⟨rest, List.append_assoc ..⟩
          rw [List.reverse_reverse] at hbefore
          have hpassed : startsCased passed = false := by
            rw [← Bool.not_eq_true]
            intro h
            rw [hcased h] at hbefore
            cases hbefore
          rw [endsWord, endsWord, hpassed, hbefore, Bool.false_and, Bool.false_and]
        · cases hignorable : isCaseIgnorable p with
          | true => rwa [startsCased_of_ignorable hignorable, startsCased_of_ignorable hignorable]
          | false =>
            rw [startsCased_of_not_ignorable hignorable, startsCased_of_not_ignorable hignorable]
            exact id

/-! ## Patterns that are lost -/

/-- Underscores match the texts of their number of characters. -/
lemma splits_underscores_iff {n : ℕ} : Splits (List.replicate n '_') text ↔ text.length = n := by
  induction n generalizing text with
  | zero => rw [List.replicate_zero, splits_nil_iff, List.length_eq_zero_iff]
  | succ n ih =>
    rw [List.replicate_succ, splits_cons_iff (by decide), List.length_eq_succ_iff]
    simp [ih, eq_comm]

/-- Underscores are their own small letters. -/
lemma lowerAfter_underscores (before : List Char) (n : ℕ) :
    lowerAfter before (List.replicate n '_') = List.replicate n '_' := by
  induction n generalizing before with
  | zero => rfl
  | succ n ih =>
    rw [List.replicate_succ, lowerAfter_cons, smallLetters_wildcard (by decide), ih]
    rfl

/-- Underscores have no case. -/
lemma startsCased_underscores (n : ℕ) : startsCased (List.replicate n '_') = false := by
  cases n with
  | zero => rfl
  | succ n => exact startsCased_wildcard (by decide) _

/-- Parts of one length without percent signs leave a split of what follows them. -/
lemma splits_of_splits_append {fixed first : List Char} (hfixed : '%' ∉ fixed)
    (hlength : fixed.length = first.length) (h : Splits (fixed ++ pattern) (first ++ text)) :
    Splits pattern text := by
  obtain ⟨rest, hrest, hsame, hsplits⟩ := exists_rest_of_splits_append hfixed h
  rw [List.length_append] at hsame
  have hle : rest.length = text.length := by omega
  have hsuffix := List.suffix_of_suffix_length_le hrest (List.suffix_append first text) hle.le
  rwa [← hsuffix.eq_of_length hle]

/-- With underscores for dotted capitals a pattern is lost: the text becomes longer. -/
lemma exists_lost_of_dotted (h : 'İ' ∈ text) :
    ∃ pattern, Splits pattern text ∧ ¬ Splits (lowerAfter [] pattern) (lowerAfter [] text) := by
  refine ⟨List.replicate text.length '_', splits_underscores_iff.mpr rfl, ?_⟩
  rw [lowerAfter_underscores, splits_underscores_iff, lowerAfter_eq, length_lowerBetween]
  have hcount := List.count_pos_iff.mpr h
  omega

/-- Marks for a text: a pattern of its length that matches it and takes it character by character,
also in small letters. -/
structure Marks (text marks : List Char) : Prop where
  splits : Splits marks text
  length_eq : marks.length = text.length
  percent_notMem : '%' ∉ marks
  dotted_notMem : 'İ' ∉ marks

/-- As many underscores as characters are marks for a text. -/
lemma marks_underscores (text : List Char) : Marks text (List.replicate text.length '_') where
  splits := splits_underscores_iff.mpr rfl
  length_eq := List.length_replicate
  percent_notMem hmem := absurd (List.eq_of_mem_replicate hmem) (by decide)
  dotted_notMem hmem := absurd (List.eq_of_mem_replicate hmem) (by decide)

/-- A text is marks for itself if it holds neither a percent sign nor a dotted capital I. -/
lemma marks_self (hpercent : '%' ∉ text) (hdotted : 'İ' ∉ text) : Marks text text where
  splits := splits_self text
  length_eq := rfl
  percent_notMem := hpercent
  dotted_notMem := hdotted

/-- Marks for two texts are marks for one behind the other. -/
lemma Marks.append {marks texts others : List Char} (h : Marks text marks)
    (hrest : Marks texts others) : Marks (text ++ texts) (marks ++ others) where
  splits := h.splits.append hrest.splits
  length_eq := by rw [List.length_append, List.length_append, h.length_eq, hrest.length_eq]
  percent_notMem hmem :=
    (List.mem_append.mp hmem).elim h.percent_notMem hrest.percent_notMem
  dotted_notMem hmem :=
    (List.mem_append.mp hmem).elim h.dotted_notMem hrest.dotted_notMem

/-- For a text that ends in a letter with case there are marks that end in one too. -/
lemma exists_marks_cased {front : List Char} (hcased : startsCased front.reverse = true)
    (hdotted : 'İ' ∉ front) :
    ∃ marks, Marks front marks ∧ startsCased marks.reverse = true := by
  -- the letter itself and what is passed over behind it are kept
  obtain ⟨ignored, c, start, hfront, hignored, hc⟩ := exists_of_startsCased hcased
  have hsplit : front = start.reverse ++ (c :: ignored.reverse) := by
    rw [← List.reverse_reverse front, hfront]
    simp
  rw [hsplit, List.mem_append, not_or] at hdotted
  have hpercent : '%' ∉ c :: ignored.reverse := by
    obtain ⟨hpassed, huncased⟩ := wildcard_uncased '%' (by decide)
    rw [List.mem_cons, List.mem_reverse, not_or]
    refine ⟨?_, fun hmem => ?_⟩
    · rintro rfl
      rw [hc.2] at huncased
      cases huncased
    · rw [hignored '%' hmem] at hpassed
      cases hpassed
  refine ⟨_, hsplit ▸ (marks_underscores _).append (marks_self hpercent hdotted.2), ?_⟩
  rw [List.reverse_append, List.reverse_cons, List.reverse_reverse, List.append_assoc,
    List.singleton_append, startsCased, List.dropWhile_append_of_pos hignored, ← startsCased,
    startsCased_of_not_ignorable hc.1, hc.2]

/-- Behind a letter with case there are marks that end in one, and marks that do not. -/
lemma exists_marks {front : List Char} (hcased : startsCased front.reverse = true)
    (hdotted : 'İ' ∉ front) (ends : Bool) :
    ∃ marks, Marks front marks ∧ startsCased marks.reverse = ends := by
  cases ends with
  | false =>
    refine ⟨_, marks_underscores front, ?_⟩
    rw [List.reverse_replicate, startsCased_underscores]
  | true => exact exists_marks_cased hcased hdotted

/-- Behind a letter with case a capital sigma can be taken by one that has another small letter. -/
lemma exists_lost_of_sigma {front rest : List Char} (hdotted : 'İ' ∉ front)
    (hcased : startsCased front.reverse = true) :
    ∃ pattern, Splits pattern (front ++ 'Σ' :: rest) ∧
      ¬ Splits (lowerAfter [] pattern) (lowerAfter [] (front ++ 'Σ' :: rest)) := by
  obtain ⟨marks, hmarks, hends⟩ := exists_marks hcased hdotted (startsCased rest)
  let underscores := List.replicate rest.length '_'
  refine ⟨marks ++ 'Σ' :: underscores, ?_, fun h => ?_⟩
  · exact hmarks.splits.append ((splits_self ['Σ']).append (splits_underscores_iff.mpr rfl))
  · have hsame : (lowerBetween [] marks ('Σ' :: underscores)).length =
        (lowerBetween [] front ('Σ' :: rest)).length := by
      rw [length_lowerBetween, length_lowerBetween, hmarks.length_eq,
        List.count_eq_zero_of_not_mem hdotted, List.count_eq_zero_of_not_mem hmarks.dotted_notMem]
    rw [lowerAfter_append, lowerAfter_append] at h
    have hbehind :=
      splits_of_splits_append (percent_notMem_lowerBetween hmarks.percent_notMem _ _) hsame h
    rw [lowerAfter_cons, lowerAfter_cons, smallLetters_sigma, smallLetters_sigma,
      List.singleton_append, List.singleton_append,
      splits_cons_iff (by split <;> decide)] at hbehind
    obtain ⟨c, text, htext, hfits, -⟩ := hbehind
    rw [← (List.cons.inj htext).1, List.append_nil, List.append_nil, endsWord, endsWord, hends,
      hcased, startsCased_underscores] at hfits
    revert hfits
    cases startsCased rest <;> decide

/-- A text without steady case loses a pattern when case is ignored. -/
lemma exists_lost_pattern (h : ¬ SteadyCase text) :
    ∃ pattern, Splits pattern text ∧ ¬ Splits (lowerAfter [] pattern) (lowerAfter [] text) := by
  by_cases hdotted : 'İ' ∈ text
  · exact exists_lost_of_dotted hdotted
  · rw [SteadyCase, and_iff_right hdotted] at h
    push Not at h
    obtain ⟨front, -, ⟨rest, rfl⟩, hcased⟩ := h
    rw [List.append_assoc, List.mem_append, not_or] at hdotted
    rw [List.append_assoc]
    exact exists_lost_of_sigma hdotted.1 (by simpa using hcased)

/-- A pattern that matches a text as both are written also matches it with case ignored, if no
underscore takes a dotted capital I and no capital sigma takes one that stands otherwise in its
word. A text is matched with case ignored by all patterns that match it as it is written if and only
if it has no dotted capital I and no capital sigma behind a letter with case. -/
theorem ignoring_case_widens_iff (text : String) :
    (∀ pattern : String, SplitsAlike [] pattern.toList [] text.toList →
      matchesPattern text pattern false = true ∧ matchesPattern text pattern true = true) ∧
    ((∀ pattern : String, matchesPattern text pattern false = true →
      matchesPattern text pattern true = true) ↔ SteadyCase text.toList) := by
  have hexact (pattern : String) :
      matchesPattern text pattern false = true ↔ Splits pattern.toList text.toList :=
    matchesChars_iff _ _
  have hignored (pattern : String) : matchesPattern text pattern true = true ↔
      Splits (lowerAfter [] pattern.toList) (lowerAfter [] text.toList) :=
    matchesChars_iff _ _
  refine ⟨fun pattern halike => ?_, fun hwidens => ?_, fun hsteady pattern hmatch => ?_⟩
  · exact ⟨(hexact pattern).mpr halike.splits, (hignored pattern).mpr (splits_of_alike halike)⟩
  · by_contra hsteady
    obtain ⟨pattern, hsplits, hlost⟩ := exists_lost_pattern hsteady
    have hmatch := hwidens (.ofList pattern)
    rw [hexact, hignored, String.toList_ofList] at hmatch
    exact hlost (hmatch hsplits)
  · rw [hexact] at hmatch
    rw [hignored]
    exact splits_of_alike (alike_of_splits hsteady id hmatch)

/-- The end of a street name is found in small letters too, as its capital sigma ends a word in the
pattern as well. A name that begins with the capital sigma keeps all patterns. -/
theorem ignoring_case_widens_iff_of_names :
    (SplitsAlike [] "%ΟΣ".toList [] "ΟΔΟΣ".toList ∧ matchesPattern "ΟΔΟΣ" "%ΟΣ" true = true) ∧
    SteadyCase "Σοφία".toList ∧ ∀ pattern : String,
      matchesPattern "Σοφία" pattern false = true → matchesPattern "Σοφία" pattern true = true := by
  have hends : endsWord ['Ο', '%'] [] = endsWord ['Ο', 'Δ', 'Ο'] [] := by decide +kernel
  have halike : SplitsAlike [] "%ΟΣ".toList [] "ΟΔΟΣ".toList :=
    .percent ['Ο', 'Δ'] (.letter (by decide) (.letter (fun _ => hends) .done))
  have hsteady : SteadyCase "Σοφία".toList := by decide +kernel
  exact ⟨⟨halike, ((ignoring_case_widens_iff _).1 _ halike).2⟩, hsteady,
    (ignoring_case_widens_iff _).2.mpr hsteady⟩

/-- With case ignored the street name is not found by the capital sigma at its end alone, and the
dotted capital I not by an underscore. -/
theorem exists_match_lost :
    (matchesPattern "ΟΔΟΣ" "%Σ" false = true ∧ matchesPattern "ΟΔΟΣ" "%Σ" true = false) ∧
    matchesPattern "İ" "_" false = true ∧ matchesPattern "İ" "_" true = false := by
  have hone {c : Char} : Splits ['_'] [c] := (splits_underscores_iff (n := 1)).mpr rfl
  have htwo {c d : Char} : ¬ Splits ['_'] [c, d] :=
    mt (splits_underscores_iff (n := 1)).mp (by simp)
  have hfound : Splits ['%', 'Σ'] ['Ο', 'Δ', 'Ο', 'Σ'] :=
    splits_percent_iff.mpr ⟨['Σ'], ⟨['Ο', 'Δ', 'Ο'], rfl⟩, splits_self ['Σ']⟩
  have hend : ¬ ['σ'] <:+ ['ο', 'δ', 'ο', 'ς'] := by decide
  have hmissed : ¬ Splits ['%', 'σ'] ['ο', 'δ', 'ο', 'ς'] := by
    simpa [splits_percent_iff, splits_cons_iff, splits_nil_iff] using hend
  have hname : patternChars true "ΟΔΟΣ" = ['ο', 'δ', 'ο', 'ς'] := by decide +kernel
  have hmarks : patternChars true "%Σ" = ['%', 'σ'] := by decide +kernel
  have hdotted : patternChars true "İ" = ['i', '\u0307'] := by decide +kernel
  have hunderscore : patternChars true "_" = ['_'] := by decide +kernel
  simp only [← Bool.not_eq_true, matchesPattern, matchesChars_iff, hname, hmarks, hdotted,
    hunderscore]
  exact ⟨⟨hfound, hmissed⟩, hone, htwo⟩

end TableQuery.Text.Pattern
