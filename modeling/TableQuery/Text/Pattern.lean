import TableQuery.Text.Case

/-!
# Patterns

A pattern matches a whole text: a percent sign takes any run of characters, an underscore takes one
character, and every other character takes itself. Text and pattern are read from the left. A
percent sign takes nothing at first; when what follows it does not fit, the search goes back to the
last percent sign and lets it take one character more. Earlier percent signs are not gone back to.
-/

namespace TableQuery.Text

namespace Pattern

/-- A place in a search: the text and the pattern that are left and, after a percent sign, the
pattern behind the last one and the text behind what it takes so far. -/
structure Search where
  text : List Char
  pattern : List Char
  retry : Option (List Char × List Char)

namespace Search

/-- The last percent sign takes one more character. -/
def back? (search : Search) : Option Search :=
  match search.retry with
  | some (pattern, _ :: text) => some ⟨text, pattern, some (pattern, text)⟩
  | _ => none

/-- One step of a search; none when the text has ended or nothing fits any more. -/
def next? (search : Search) : Option Search :=
  match search.text, search.pattern with
  | [], _ => none
  | c :: text, p :: pattern =>
    if p = '%' then some ⟨c :: text, pattern, some (pattern, c :: text)⟩
    else if p = '_' ∨ p = c then some ⟨text, pattern, search.retry⟩
    else search.back?
  | _ :: _, [] => search.back?

/-- The answer at the end of a search: the text has ended, and the rest of the pattern can take
nothing. -/
def fits (search : Search) : Bool := search.text.isEmpty && search.pattern.all (· == '%')

/-! ### The end of a search -/

/-- The longest text that a search may still look at. -/
def reach (search : Search) : Nat :=
  max search.text.length ((search.retry.map fun saved => saved.2.length).getD 0)

/-- The longest pattern that a search may still look at. -/
def width (search : Search) : Nat :=
  max search.pattern.length ((search.retry.map fun saved => saved.1.length).getD 0)

/-- A bound on the number of steps that are left. -/
def rank (search : Search) : Nat := search.reach * (search.width + 1) + search.pattern.length

/-- Going back shortens the text and looks at no other pattern. -/
theorem back?_shrinks {search next : Search} (h : search.back? = some next) :
    next.reach < search.reach ∧ next.width ≤ search.width := by
  unfold back? at h
  split at h
  · rename_i pattern c text hretry
    obtain rfl := Option.some.inj h
    simp only [reach, width, hretry, Option.map_some, Option.getD_some, List.length_cons]
    omega
  · cases h

/-- A step shortens the pattern, or it shortens the text. -/
theorem next?_shrinks {search next : Search} (h : search.next? = some next) :
    next.width ≤ search.width ∧ (next.reach < search.reach ∨
      next.reach ≤ search.reach ∧ next.pattern.length < search.pattern.length) := by
  obtain ⟨text, pattern, retry⟩ := search
  cases text with
  | nil => cases h
  | cons c text =>
    cases pattern with
    | nil =>
      obtain ⟨hreach, hwidth⟩ := back?_shrinks h
      exact ⟨hwidth, .inl hreach⟩
    | cons p pattern =>
      simp only [next?] at h
      split at h
      · obtain rfl := Option.some.inj h
        simp only [reach, width, Option.map_some, Option.getD_some, List.length_cons]
        omega
      · split at h
        · obtain rfl := Option.some.inj h
          simp only [reach, width, List.length_cons]
          omega
        · obtain ⟨hreach, hwidth⟩ := back?_shrinks h
          exact ⟨hwidth, .inl hreach⟩

/-- Every step brings the end nearer. -/
theorem rank_lt {search next : Search} (h : search.next? = some next) :
    next.rank < search.rank := by
  obtain ⟨hwidth, hless⟩ := next?_shrinks h
  have hpattern : next.pattern.length ≤ next.width := Nat.le_max_left ..
  unfold rank
  rcases hless with hreach | ⟨hreach, hshorter⟩
  · have hmul : (next.reach + 1) * (next.width + 1) ≤ search.reach * (search.width + 1) :=
      Nat.mul_le_mul hreach (Nat.succ_le_succ hwidth)
    rw [Nat.succ_mul] at hmul
    omega
  · have hmul : next.reach * (next.width + 1) ≤ search.reach * (search.width + 1) :=
      Nat.mul_le_mul hreach (Nat.succ_le_succ hwidth)
    omega

/-- Whether a search succeeds. -/
def run (search : Search) : Bool :=
  match _hnext : search.next? with
  | some next => next.run
  | none => search.fits
termination_by search.rank
decreasing_by exact rank_lt _hnext

end Search

/-- The start of a search. -/
def search (pattern text : List Char) : Search := ⟨text, pattern, none⟩

/-- Whether a pattern matches a text exactly as both are written. -/
def matchesChars (pattern text : List Char) : Bool := (search pattern text).run

end Pattern

/-- The characters that a pattern and its text are compared by: small letters when case is
ignored. -/
def patternChars (ignoreCase : Bool) (text : String) : List Char :=
  if ignoreCase then lowerChars text.toList else text.toList

/-- Whether a pattern matches a text, with both in small letters when case is ignored. -/
def matchesPattern (text pattern : String) (ignoreCase : Bool) : Bool :=
  Pattern.matchesChars (patternChars ignoreCase pattern) (patternChars ignoreCase text)

end TableQuery.Text
