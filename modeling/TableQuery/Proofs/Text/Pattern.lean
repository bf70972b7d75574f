import Mathlib.Data.List.Forall2
import Mathlib.Tactic.Common
import TableQuery.Text.Pattern

/-!
# Patterns as ways to split a text

A pattern matches a text when the text can be split along it: each character of the pattern takes
one piece, a percent sign any run of characters, an underscore one character and any other character
itself (`Splits`). The search decides this although it only ever goes back to the last percent sign.
What lies between that sign and the place of the search is of fixed length (`Anchored`), so whatever
an earlier sign could still win by taking more is also found from here
(`Anchored.splits_of_back`). Hence a step changes nothing about success (`succeeds_next`), and the
answer at the end tells it (`fits_iff`).
-/

namespace TableQuery.Text.Pattern

/-! ## Splits -/

/-- What a character of a pattern takes of a text. -/
def Takes : Char → List Char → Prop
  | '%', _ => True
  | '_', piece => piece.length = 1
  | p, piece => piece = [p]

/-- A text can be split along a pattern, one piece for each of its characters. -/
def Splits (pattern text : List Char) : Prop :=
  ∃ pieces, List.Forall₂ Takes pattern pieces ∧ pieces.flatten = text

variable {pattern text : List Char}

/-- All but percent signs take exactly one character. -/
lemma takes_iff_of_ne {p : Char} (hp : p ≠ '%') {piece : List Char} :
    Takes p piece ↔ ∃ c, piece = [c] ∧ (p = '_' ∨ p = c) := by
  unfold Takes
  split
  · exact absurd rfl hp
  · rw [List.length_eq_one_iff]
    exact ⟨fun ⟨c, hc⟩ => ⟨c, hc, .inl rfl⟩, fun ⟨c, hc, _⟩ => ⟨c, hc⟩⟩
  · rename_i hunderscore
    constructor
    · intro h
      exact ⟨p, h, .inr rfl⟩
    · rintro ⟨c, hpiece, h | rfl⟩
      · exact absurd h hunderscore
      · exact hpiece

/-- The empty pattern matches the empty text only. -/
lemma splits_nil_iff : Splits [] text ↔ text = [] := by
  constructor
  · rintro ⟨pieces, hpieces, rfl⟩
    rw [List.forall₂_nil_left_iff.mp hpieces, List.flatten_nil]
  · rintro rfl
    exact ⟨[], .nil, rfl⟩

/-- What follows a percent sign takes some end of the text. -/
lemma splits_percent_iff :
    Splits ('%' :: pattern) text ↔ ∃ rest, rest <:+ text ∧ Splits pattern rest := by
  constructor
  · rintro ⟨pieces, hpieces, rfl⟩
    obtain ⟨piece, others, -, hothers, rfl⟩ := List.forall₂_cons_left_iff.mp hpieces
    exact ⟨others.flatten, ⟨piece, rfl⟩, others, hothers, rfl⟩
  · rintro ⟨rest, ⟨piece, rfl⟩, pieces, hpieces, rfl⟩
    exact ⟨piece :: pieces, .cons trivial hpieces, rfl⟩

/-- Any other character takes the first character of the text. -/
lemma splits_cons_iff {p : Char} (hp : p ≠ '%') : Splits (p :: pattern) text ↔
    ∃ c rest, text = c :: rest ∧ (p = '_' ∨ p = c) ∧ Splits pattern rest := by
  constructor
  · rintro ⟨pieces, hpieces, rfl⟩
    obtain ⟨piece, others, htakes, hothers, rfl⟩ := List.forall₂_cons_left_iff.mp hpieces
    obtain ⟨c, rfl, hfits⟩ := (takes_iff_of_ne hp).mp htakes
    exact ⟨c, others.flatten, rfl, hfits, others, hothers, rfl⟩
  · rintro ⟨c, rest, rfl, hfits, pieces, hpieces, rfl⟩
    exact ⟨[c] :: pieces, .cons ((takes_iff_of_ne hp).mpr ⟨c, rfl, hfits⟩) hpieces, rfl⟩

/-- A percent sign takes nothing, or the first character and some more. -/
lemma splits_percent_cons_iff {c : Char} : Splits ('%' :: pattern) (c :: text) ↔
    Splits pattern (c :: text) ∨ Splits ('%' :: pattern) text := by
  rw [splits_percent_iff, splits_percent_iff]
  constructor
  · rintro ⟨rest, hrest, h⟩
    rcases List.suffix_cons_iff.mp hrest with rfl | hrest
    · exact .inl h
    · exact .inr ⟨rest, hrest, h⟩
  · rintro (h | ⟨rest, hrest, h⟩)
    · exact ⟨c :: text, List.suffix_rfl, h⟩
    · exact ⟨rest, hrest.trans (List.suffix_cons c text), h⟩

/-- A text can be split along itself, whatever wildcards it holds. -/
lemma splits_self (text : List Char) : Splits text text := by
  have hpieces : List.Forall₂ Takes text (text.map fun c => [c]) := by
    rw [List.forall₂_map_right_iff, List.forall₂_same]
    intro c _
    by_cases hc : c = '%'
    · rw [hc]
      trivial
    · exact (takes_iff_of_ne hc).mpr ⟨c, rfl, .inr rfl⟩
  exact ⟨_, hpieces, List.flatMap_singleton' text⟩

/-- Splits of two texts make one of them together. -/
lemma Splits.append {patterns texts : List Char} (h : Splits pattern text)
    (hrest : Splits patterns texts) : Splits (pattern ++ patterns) (text ++ texts) := by
  obtain ⟨pieces, hpieces, rfl⟩ := h
  obtain ⟨others, hothers, rfl⟩ := hrest
  exact ⟨pieces ++ others, List.rel_append hpieces hothers, List.flatten_append⟩

/-- The empty text is matched by percent signs alone. -/
lemma splits_empty_iff : Splits pattern [] ↔ pattern.all (· == '%') = true := by
  induction pattern with
  | nil => simp [splits_nil_iff]
  | cons p pattern ih =>
    by_cases hp : p = '%'
    · subst hp
      simp [splits_percent_iff, ih]
    · simp [splits_cons_iff hp, hp]

/-- A part of a pattern without percent signs takes as many characters as it has. -/
lemma exists_rest_of_splits_append {fixed : List Char} (hfixed : '%' ∉ fixed)
    (h : Splits (fixed ++ pattern) text) :
    ∃ rest, rest <:+ text ∧ text.length = rest.length + fixed.length ∧ Splits pattern rest := by
  induction fixed generalizing text with
  | nil => exact ⟨text, List.suffix_rfl, rfl, h⟩
  | cons p fixed ih =>
    rw [List.mem_cons, not_or] at hfixed
    obtain ⟨c, behind, rfl, -, hbehind⟩ := (splits_cons_iff (Ne.symm hfixed.1)).mp h
    obtain ⟨rest, hrest, hlength, hsplits⟩ := ih hfixed.2 hbehind
    refine ⟨rest, hrest.trans (List.suffix_cons c behind), ?_, hsplits⟩
    rw [List.length_cons, List.length_cons, hlength, Nat.add_assoc]

namespace Search

variable {search next : Search}

/-! ## The place of the last percent sign -/

/-- Since the last percent sign the search has passed as many characters of the text as of the
pattern, and no other percent sign. -/
def Anchored (search : Search) : Prop :=
  ∀ pattern text, search.retry = some (pattern, text) →
    ∃ fixed, '%' ∉ fixed ∧ pattern = fixed ++ search.pattern ∧ search.text <:+ text ∧
      text.length = search.text.length + fixed.length

/-- At its start a search has not passed any percent sign. -/
lemma anchored_start (pattern text : List Char) : (Pattern.search pattern text).Anchored := by
  intro _ _ h
  cases h

/-- A search that has just passed a percent sign, or gone back to it, is anchored there. -/
lemma anchored_here (pattern text : List Char) :
    Anchored ⟨text, pattern, some (pattern, text)⟩ := by
  intro pattern' text' h
  obtain ⟨rfl, rfl⟩ := Prod.mk.inj (Option.some.inj h)
  exact ⟨[], List.not_mem_nil, rfl, List.suffix_rfl, rfl⟩

/-- Going back keeps the pattern behind the percent sign and drops the first character of the text
behind it. -/
lemma back?_eq_some_iff : search.back? = some next ↔ ∃ c pattern text,
    search.retry = some (pattern, c :: text) ∧ next = ⟨text, pattern, some (pattern, text)⟩ := by
  unfold back?
  split
  · rename_i pattern c text hretry
    rw [Option.some.injEq, hretry]
    constructor
    · rintro rfl
      exact ⟨c, pattern, text, rfl, rfl⟩
    · rintro ⟨c', pattern', text', h, rfl⟩
      obtain ⟨rfl, htext⟩ := Prod.mk.inj (Option.some.inj h)
      obtain ⟨-, rfl⟩ := List.cons.inj htext
      rfl
  · rename_i hnone
    constructor
    · intro h
      cases h
    · rintro ⟨c, pattern, text, hretry, -⟩
      exact absurd hretry (hnone pattern c text)

/-- What a search does next: it passes a percent sign, it passes a character that fits, it goes back
if it can, or it has come to the end of the text. -/
inductive Move (search : Search) (result : Option Search) : Prop
  | percent (pattern : List Char) (hpattern : search.pattern = '%' :: pattern)
      (hresult : result = some ⟨search.text, pattern, some (pattern, search.text)⟩)
  | fit (p c : Char) (pattern text : List Char) (hp : p ≠ '%') (hfits : p = '_' ∨ p = c)
      (hpattern : search.pattern = p :: pattern) (htext : search.text = c :: text)
      (hresult : result = some ⟨text, pattern, search.retry⟩)
  | back (htext : search.text ≠ []) (hnot : ¬ Splits search.pattern search.text)
      (hresult : result = search.back?)
  | finish (htext : search.text = []) (hresult : result = none)

/-- Every step of a search is one of these. -/
lemma move_next? (search : Search) : search.Move search.next? := by
  obtain ⟨text, pattern, retry⟩ := search
  cases text with
  | nil => exact .finish rfl rfl
  | cons c text =>
    cases pattern with
    | nil =>
      refine .back (List.cons_ne_nil c text) ?_ rfl
      rw [splits_nil_iff]
      exact List.cons_ne_nil c text
    | cons p pattern =>
      by_cases hp : p = '%'
      · subst hp
        exact .percent pattern rfl rfl
      by_cases hfits : p = '_' ∨ p = c
      · exact .fit p c pattern text hp hfits rfl rfl ((if_neg hp).trans (if_pos hfits))
      · refine .back (List.cons_ne_nil c text) ?_ ((if_neg hp).trans (if_neg hfits))
        rw [splits_cons_iff hp]
        rintro ⟨c', rest, htext, hfits', -⟩
        obtain ⟨rfl, -⟩ := List.cons.inj htext
        exact hfits hfits'

/-- A step keeps the search anchored. -/
lemma Anchored.step (h : search.Anchored) (hstep : search.next? = some next) : next.Anchored := by
  cases search.move_next? with
  | percent pattern hpattern hresult =>
    rw [Option.some.inj (hstep.symm.trans hresult)]
    exact anchored_here pattern search.text
  | fit p c pattern text hp hfits hpattern htext hresult =>
    rw [Option.some.inj (hstep.symm.trans hresult)]
    intro after saved hretry
    obtain ⟨fixed, hfixed, rfl, hsuffix, hlength⟩ := h after saved hretry
    rw [htext] at hsuffix hlength
    refine ⟨fixed ++ [p], ?_, ?_, (List.suffix_cons c text).trans hsuffix, ?_⟩
    · simp [hfixed, hp.symm]
    · rw [hpattern, List.append_assoc, List.singleton_append]
    · rw [hlength, List.length_cons, List.length_append, List.length_singleton, Nat.add_assoc,
        Nat.add_comm 1]
  | back htext hnot hresult =>
    obtain ⟨c, pattern, text, -, rfl⟩ := back?_eq_some_iff.mp (hresult.symm.trans hstep)
    exact anchored_here pattern text
  | finish htext hresult =>
    rw [hstep] at hresult
    cases hresult

/-! ## Success -/

/-- What a search can still find: a split from its place on, or one in which the last percent sign
takes more. -/
def Succeeds (search : Search) : Prop :=
  Splits search.pattern search.text ∨
    ∃ next, search.back? = some next ∧ Splits ('%' :: next.pattern) next.text

/-- Where the last percent sign takes more, a later end of the text is left for the pattern from the
place of the search on. -/
lemma Anchored.splits_of_back (h : search.Anchored) (hback : search.back? = some next)
    (hsplits : Splits ('%' :: next.pattern) next.text) :
    ∃ rest, rest <:+ search.text ∧ rest.length < search.text.length ∧
      Splits search.pattern rest := by
  obtain ⟨c, pattern, text, hretry, rfl⟩ := back?_eq_some_iff.mp hback
  obtain ⟨fixed, hfixed, rfl, hsuffix, hlength⟩ := h _ _ hretry
  obtain ⟨later, hlater, hlate⟩ := splits_percent_iff.mp hsplits
  obtain ⟨rest, hrest, hsame, hfound⟩ := exists_rest_of_splits_append hfixed hlate
  have hle : later.length ≤ text.length := hlater.length_le
  rw [List.length_cons] at hlength
  have hshort : rest.length < search.text.length := by omega
  have hend : rest <:+ c :: text := (hrest.trans hlater).trans (List.suffix_cons c text)
  exact ⟨rest, List.suffix_of_suffix_length_le hend hsuffix (Nat.le_of_lt hshort), hshort,
    hfound⟩

/-- A search that has just passed a percent sign, or gone back to it, finds all splits in which the
sign takes any run. -/
lemma succeeds_here (pattern text : List Char) :
    Succeeds ⟨text, pattern, some (pattern, text)⟩ ↔ Splits ('%' :: pattern) text := by
  cases text with
  | nil =>
    unfold Succeeds
    rw [splits_percent_iff]
    simp [back?]
  | cons c text =>
    unfold Succeeds
    rw [splits_percent_cons_iff]
    simp [back?]

/-- A step neither wins nor loses a split. -/
lemma succeeds_next (h : search.Anchored) (hstep : search.next? = some next) :
    next.Succeeds ↔ search.Succeeds := by
  cases search.move_next? with
  | percent pattern hpattern hresult =>
    -- what an earlier percent sign could win is won by this one
    rw [Option.some.inj (hstep.symm.trans hresult), succeeds_here, Succeeds, hpattern]
    constructor
    · exact .inl
    · rintro (hsplits | ⟨other, hback, hsplits⟩)
      · exact hsplits
      · obtain ⟨rest, hrest, -, hfound⟩ := h.splits_of_back hback hsplits
        rw [hpattern, splits_percent_iff] at hfound
        obtain ⟨behind, hbehind, hpart⟩ := hfound
        exact splits_percent_iff.mpr ⟨behind, hbehind.trans hrest, hpart⟩
  | fit p c pattern text hp hfits hpattern htext hresult =>
    have hhere : Splits search.pattern search.text ↔ Splits pattern text := by
      rw [hpattern, htext, splits_cons_iff hp]
      constructor
      · rintro ⟨c', rest, hrest, -, hsplits⟩
        obtain ⟨-, rfl⟩ := List.cons.inj hrest
        exact hsplits
      · intro hsplits
        exact ⟨c, text, rfl, hfits, hsplits⟩
    obtain rfl := Option.some.inj (hstep.symm.trans hresult)
    have hback : back? ⟨text, pattern, search.retry⟩ = search.back? := rfl
    rw [Succeeds, Succeeds, hback, hhere]
  | back htext hnot hresult =>
    have hback : search.back? = some next := hresult.symm.trans hstep
    have hnext : next.Succeeds ↔ Splits ('%' :: next.pattern) next.text := by
      obtain ⟨c, pattern, text, -, rfl⟩ := back?_eq_some_iff.mp hback
      exact succeeds_here pattern text
    rw [hnext, Succeeds, or_iff_right hnot, hback]
    constructor
    · exact fun hsplits => ⟨next, rfl, hsplits⟩
    · rintro ⟨other, hother, hsplits⟩
      rwa [Option.some.inj hother]
  | finish htext hresult =>
    rw [hstep] at hresult
    cases hresult

/-- At its end a search succeeds when the text has ended and percent signs alone are left. -/
lemma fits_iff (h : search.Anchored) (hend : search.next? = none) :
    search.fits = true ↔ search.Succeeds := by
  cases search.move_next? with
  | percent pattern hpattern hresult =>
    rw [hend] at hresult
    cases hresult
  | fit p c pattern text hp hfits hpattern htext hresult =>
    rw [hend] at hresult
    cases hresult
  | back htext hnot hresult =>
    have hback : search.back? = none := hresult.symm.trans hend
    simp [fits, Succeeds, htext, hback, hnot]
  | finish htext hresult =>
    -- going back leaves too little text for what is already passed of the pattern
    have hno : ¬ ∃ next, search.back? = some next ∧ Splits ('%' :: next.pattern) next.text := by
      rintro ⟨next, hback, hsplits⟩
      obtain ⟨rest, -, hshort, -⟩ := h.splits_of_back hback hsplits
      rw [htext] at hshort
      exact Nat.not_lt_zero _ hshort
    rw [Succeeds, or_iff_left hno, htext, splits_empty_iff, fits, htext]
    rfl

/-- The answer of a whole search tells whether it could succeed at its start. -/
lemma run_iff (h : search.Anchored) : search.run = true ↔ search.Succeeds := by
  fun_induction run search with
  | case1 search next hnext ih =>
    rw [ih (h.step hnext), succeeds_next h hnext]
  | case2 search hend => exact fits_iff h hend

/-! ## Steps -/

/-- A search is over after this many steps. -/
inductive EndsAfter : Search → ℕ → Prop
  | now {search : Search} (h : search.next? = none) : EndsAfter search 0
  | later {search next : Search} {steps : ℕ} (h : search.next? = some next)
      (hrest : EndsAfter next steps) : EndsAfter search (steps + 1)

/-- A search takes no more steps than its rank. -/
lemma exists_endsAfter (search : Search) : ∃ steps ≤ search.rank, search.EndsAfter steps := by
  fun_induction run search with
  | case1 search next hnext ih =>
    obtain ⟨steps, hsteps, hrest⟩ := ih
    exact ⟨steps + 1, Nat.lt_of_le_of_lt hsteps (rank_lt hnext), .later hnext hrest⟩
  | case2 search hend => exact ⟨0, Nat.zero_le _, .now hend⟩

end Search

/-- The answer for a pattern and a text tells whether the text can be split along the pattern. -/
lemma matchesChars_iff (pattern text : List Char) :
    matchesChars pattern text = true ↔ Splits pattern text := by
  have hback : (search pattern text).back? = none := rfl
  unfold matchesChars
  rw [Search.run_iff (Search.anchored_start pattern text), Search.Succeeds, hback]
  simp [search]

/-- The search for a pattern ends after a number of steps that the two lengths bound. -/
lemma exists_search_endsAfter (pattern text : List Char) :
    ∃ steps ≤ text.length * (pattern.length + 1) + pattern.length,
      (search pattern text).EndsAfter steps := by
  have hrank : (search pattern text).rank =
      text.length * (pattern.length + 1) + pattern.length := by
    simp [Search.rank, Search.reach, Search.width, search]
  rw [← hrank]
  exact Search.exists_endsAfter (search pattern text)

/-- A search for a pattern ends, after a number of steps bounded by the two lengths, and it finds
the pattern exactly when the text can be split along it. When case is ignored, both are taken in
small letters. -/
theorem matchesPattern_iff_splits (text pattern : String) :
    (let chars := text.toList
      let marks := pattern.toList
      (∃ steps ≤ chars.length * (marks.length + 1) + marks.length,
        (search marks chars).EndsAfter steps) ∧
      (matchesPattern text pattern false = true ↔ Splits marks chars)) ∧
    (let chars := lowerChars text.toList
      let marks := lowerChars pattern.toList
      (∃ steps ≤ chars.length * (marks.length + 1) + marks.length,
        (search marks chars).EndsAfter steps) ∧
      (matchesPattern text pattern true = true ↔ Splits marks chars)) := by
  constructor
  · exact ⟨exists_search_endsAfter _ _, matchesChars_iff _ _⟩
  · exact ⟨exists_search_endsAfter _ _, matchesChars_iff _ _⟩

end TableQuery.Text.Pattern
