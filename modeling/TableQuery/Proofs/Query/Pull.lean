import Mathlib.Tactic.Common
import TableQuery.Query.Plan

/-!
# Rows that are left to pull

A pull answers with a batch, with the end, or with an error, and the batches depend on how a scan
cuts its rows. This file says what a pull answers without the cuts: `Accounts pull pending left`
holds when `left` gives, for every state, the list of all rows that are still to come, or none when
they cannot be had. Draining such a pull gives exactly these rows (`Accounts.toOption_drain`).

The two ways in which operators are made from others keep this property: handing on what is kept of
each batch (`Accounts.sift`), and handing on everything at once (`Accounts.of_once`). Handing on the
first rows alone does not keep it, because a pull that stops early does not meet a later failure.
-/

namespace TableQuery

namespace Pull

variable {σ τ : Type}

/-- What an answer says of the rows left before it and after it: the end means that nothing was
left, a batch is the front of what was left, and an error means that the rows cannot be had. -/
def Answers (pending : σ → Nat) (left : σ → Option (List Row)) (s : σ) : Pull × σ → Prop
  | (.ok none, _) => left s = some []
  | (.ok (some batch), s') => left s = (left s').map (batch ++ ·) ∧ pending s' < pending s
  | (.error _, _) => left s = none

/-- An account of a pull: the rows that are left in each state, none if they cannot be had, and a
bound on the batches that they come in. -/
structure Accounts (pull : σ → Pull × σ) (pending : σ → Nat) (left : σ → Option (List Row)) :
    Prop where
  exhausted : ∀ s, pending s = 0 → (pull s).1 = .ok none
  answers : ∀ s, Answers pending left s (pull s)

variable {pull : σ → Pull × σ} {pending : σ → Nat} {left : σ → Option (List Row)}

/-- An answer also fits an earlier state from which the same rows are left. -/
lemma Answers.of_eq {s s' : σ} {answer : Pull × σ} (h : Answers pending left s' answer)
    (hleft : left s = left s') (hle : pending s' ≤ pending s) :
    Answers pending left s answer := by
  rcases answer with ⟨e | _ | batch, s''⟩
  · exact hleft.trans h
  · exact hleft.trans h
  · exact ⟨hleft.trans h.1, Nat.lt_of_lt_of_le h.2 hle⟩

/-- A batch comes in front of what the pulls after it give. -/
lemma drain_of_some {bound : Nat} {s s' : σ} {batch rows : List Row}
    (hp : pull s = (.ok (some batch), s')) (hd : (drain pull bound s').1 = .ok rows) :
    (drain pull (bound + 1) s).1 = .ok (batch ++ rows) := by
  rcases hs : drain pull bound s' with ⟨answer, s''⟩
  rw [hs] at hd
  obtain rfl : answer = .ok rows := hd
  simp only [drain, hp, hs]

namespace Accounts

/-- Nothing is left when a pull says so. -/
lemma left_of_none (h : Accounts pull pending left) {s s' : σ} (hp : pull s = (.ok none, s')) :
    left s = some [] := by
  simpa only [hp, Answers] using h.answers s

/-- What is left starts with the batch that is pulled, and fewer pulls are pending behind it. -/
lemma left_of_some (h : Accounts pull pending left) {s s' : σ} {batch : List Row}
    (hp : pull s = (.ok (some batch), s')) :
    left s = (left s').map (batch ++ ·) ∧ pending s' < pending s := by
  simpa only [hp, Answers] using h.answers s

/-- The rows that are left fail when a pull does. -/
lemma left_of_error (h : Accounts pull pending left) {s s' : σ} {e : Error}
    (hp : pull s = (.error e, s')) : left s = none := by
  simpa only [hp, Answers] using h.answers s

/-- Nothing is left when no batch is pending. -/
lemma left_of_exhausted (h : Accounts pull pending left) {s : σ} (hs : pending s = 0) :
    left s = some [] :=
  h.left_of_none (Prod.ext (h.exhausted s hs) rfl)

/-- Draining a pull gives the rows that are left, and fails when they cannot be had. -/
lemma toOption_drain (h : Accounts pull pending left) {bound : Nat} {s : σ}
    (hs : pending s ≤ bound) : (drain pull bound s).1.toOption = left s := by
  induction bound generalizing s with
  | zero =>
    rw [h.left_of_exhausted (Nat.le_zero.mp hs)]
    rfl
  | succ bound ih =>
    rcases hp : pull s with ⟨e | _ | batch, s'⟩
    · simp only [drain, hp, h.left_of_error hp, Except.toOption]
    · simp only [drain, hp, h.left_of_none hp, Except.toOption]
    · obtain ⟨hleft, hlt⟩ := h.left_of_some hp
      rw [hleft, ← ih (s := s') (by omega)]
      simp only [drain, hp]
      rcases drain pull bound s' with ⟨_ | rows, s''⟩ <;> rfl

end Accounts

/-! ## Keeping a part of each batch -/

/-- A step that keeps a part of a batch is the restriction of `total`, which works on whole lists:
a list can be cut anywhere, and the memory after the first part goes on to the second. -/
structure Batchwise (keep : τ → List Row → Result (List Row) × τ)
    (total : τ → List Row → Option (List Row)) : Prop where
  nil : ∀ m, total m [] = some []
  append_of_ok : ∀ {m batch kept m'}, keep m batch = (.ok kept, m') → ∀ rest,
    total m (batch ++ rest) = (total m' rest).map (kept ++ ·)
  append_of_error : ∀ {m batch e m'}, keep m batch = (.error e, m') → ∀ rest,
    total m (batch ++ rest) = none

variable {keep : τ → List Row → Result (List Row) × τ} {total : τ → List Row → Option (List Row)}

/-- What is left when only a part of each batch is kept. -/
def leftOf (left : σ → Option (List Row)) (total : τ → List Row → Option (List Row))
    (state : σ × τ) : Option (List Row) :=
  (left state.1).bind (total state.2)

/-- What is kept of a batch is the front of what is left. -/
lemma leftOf_of_ok (h : Accounts pull pending left) (hk : Batchwise keep total) {s s' : σ}
    {m m' : τ} {batch kept : List Row} (hp : pull s = (.ok (some batch), s'))
    (hb : keep m batch = (.ok kept, m')) :
    leftOf left total (s, m) = (leftOf left total (s', m')).map (kept ++ ·) := by
  simp only [leftOf, (h.left_of_some hp).1, Option.bind_map, Option.map_bind]
  refine congrArg _ (funext fun rest => ?_)
  exact hk.append_of_ok hb rest

/-- Pulling until something is kept answers with what is left of the kept rows. -/
lemma answers_sift (h : Accounts pull pending left) (hk : Batchwise keep total) {bound : Nat}
    {s : σ} {m : τ} (hs : pending s ≤ bound) :
    Answers (pending ∘ Prod.fst) (leftOf left total) (s, m) (Pull.sift pull keep bound s m) := by
  induction bound generalizing s m with
  | zero =>
    simp [Pull.sift, Answers, leftOf, h.left_of_exhausted (Nat.le_zero.mp hs), hk.nil]
  | succ bound ih =>
    rcases hp : pull s with ⟨e | _ | batch, s'⟩
    · simp [Pull.sift, hp, Answers, leftOf, h.left_of_error hp]
    · simp [Pull.sift, hp, Answers, leftOf, h.left_of_none hp, hk.nil]
    · obtain ⟨hleft, hlt⟩ := h.left_of_some hp
      rcases hb : keep m batch with ⟨e | _ | ⟨row, kept⟩, m'⟩
      · simp [Pull.sift, hp, hb, Answers, leftOf, hleft, Option.bind_map, hk.append_of_error hb]
      · -- Nothing of the batch is kept, and the next pull answers for this one.
        have hskip : leftOf left total (s, m) = leftOf left total (s', m') := by
          simpa using leftOf_of_ok h hk hp hb
        simp only [Pull.sift, hp, hb]
        exact (ih (s := s') (m := m') (by omega)).of_eq hskip (Nat.le_of_lt hlt)
      · simp only [Pull.sift, hp, hb]
        exact ⟨leftOf_of_ok h hk hp hb, hlt⟩

/-- An operator that hands on what it keeps of each batch. -/
lemma Accounts.sift (h : Accounts pull pending left) (hk : Batchwise keep total) :
    Accounts (fun state => Pull.sift pull keep (pending state.1) state.1 state.2)
      (pending ∘ Prod.fst) (leftOf left total) where
  exhausted state hs := by
    simp only [show pending state.1 = 0 from hs, Pull.sift]
  answers state := answers_sift h hk (Nat.le_refl _)

/-! ## Everything at once -/

/-- An operator that hands on one batch with all its rows and is done then. -/
lemma Accounts.of_once (done : σ → Bool)
    (hdone : ∀ s, done s = true → (pull s).1 = .ok none ∧ left s = some [])
    (hopen : ∀ s, done s = false →
      match pull s with
      | (.ok none, _) => False
      | (.ok (some rows), s') => left s = some rows ∧ done s' = true
      | (.error _, _) => left s = none) :
    Accounts pull (fun s => if done s then 0 else 1) left where
  exhausted s hs := by
    refine (hdone s ?_).1
    by_contra h
    simp [h] at hs
  answers s := by
    cases hd : done s with
    | true =>
      obtain ⟨hp, hleft⟩ := hdone s hd
      rw [show pull s = (.ok none, (pull s).2) from Prod.ext hp rfl]
      exact hleft
    | false =>
      have hs := hopen s hd
      rcases hp : pull s with ⟨e | _ | rows, s'⟩ <;> rw [hp] at hs
      · exact hs
      · exact hs.elim
      · have hleft : left s' = some [] := (hdone s' hs.2).2
        simp [Answers, hs.1, hs.2, hleft, hd]

end Pull

end TableQuery
