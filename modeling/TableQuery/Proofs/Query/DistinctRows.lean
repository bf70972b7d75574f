import TableQuery.Proofs.Query.Index
import TableQuery.Proofs.Query.Remaining
import TableQuery.Proofs.Value.GroupKey

/-!
# Rows that repeat others

Dropping repeated rows looks at one key for each row. It drops a row exactly when the pieces of its
key are those of a row before it (`distinctRows_keeps_first`), whether the rows come at once or in
batches. Rows whose values are identical have one key, and so have rows without separators in their
texts only if their values are identical. With separators a row may be dropped that repeats none
(`exists_distinct_row_dropped`).
-/

namespace TableQuery

/-! ## First items -/

section FirstItems

variable {α : Type} {same finer : α → α → Prop} [DecidableRel same] [DecidableRel finer]

/-- The items that are not the same as one before them. -/
def firstItems (same : α → α → Prop) [DecidableRel same] (items : List α) : List α :=
  ((items.inits.zip items).filter fun (before, item) =>
    ∀ other ∈ before, ¬ same item other).map Prod.snd

/-- Where fewer items are the same, more are first. -/
lemma firstItems_sublist (h : ∀ item other, finer item other → same item other) (items : List α) :
    (firstItems same items).Sublist (firstItems finer items) := by
  refine (List.monotone_filter_right _ fun entry hentry => ?_).map _
  simp only [decide_eq_true_eq] at hentry ⊢
  exact fun other hother hfiner => hentry other hother (h _ _ hfiner)

/-- Which items are first depends on which items of the list are the same only. -/
lemma firstItems_congr {items : List α}
    (h : ∀ item ∈ items, ∀ other ∈ items, same item other ↔ finer item other) :
    firstItems same items = firstItems finer items := by
  refine congrArg _ (List.filter_congr fun (before, item) hentry => ?_)
  obtain ⟨hbefore, hitem⟩ := List.of_mem_zip hentry
  have hsubset := ((List.mem_inits before items).mp hbefore).subset
  refine decide_eq_decide.mpr (forall₂_congr fun other hother => ?_)
  rw [h item hitem other (hsubset hother)]

end FirstItems

namespace Row

/-- Whether the values of two rows are identical one by one. -/
def Repeats (row other : Row) : Prop := List.Forall₂ Value.Identical row.values other.values

/-- Whether the values of two rows are the same pieces one after the other. -/
def Collides (row other : Row) : Prop :=
  row.values.flatMap Value.pieces = other.values.flatMap Value.pieces

/-- Whether one row repeats another can be computed. -/
instance : DecidableRel Repeats := fun _ _ => inferInstanceAs (Decidable (List.Forall₂ _ _ _))

/-- Whether two rows collide can be computed. -/
instance : DecidableRel Collides := fun _ _ => inferInstanceAs (Decidable (_ = _))

variable {row other : Row} {rows : List Row}

/-- Rows have one key exactly when they collide. -/
lemma groupKey_eq_iff : row.groupKey = other.groupKey ↔ row.Collides other :=
  Value.groupKeys_eq_iff_pieces

/-- Rows that repeat each other collide. -/
lemma Repeats.collides (h : row.Repeats other) : row.Collides other := by
  have hlabels := congrArg (List.flatMap (List.splitOn Value.keySeparator))
    (Value.forall₂_identical_iff.mp h)
  rwa [List.flatMap_map, List.flatMap_map] at hlabels

/-- Without separators rows collide only if they repeat each other. -/
lemma collides_iff_repeats (hrow : ∀ v ∈ row.values, v.Unseparated)
    (hother : ∀ v ∈ other.values, v.Unseparated) : row.Collides other ↔ row.Repeats other :=
  groupKey_eq_iff.symm.trans (Value.groupKeys_eq_iff hrow hother)

end Row

/-- Dropping repeated rows keeps those that collide with none before them. -/
lemma distinctRows_eq (rows : List Row) : distinctRows rows = firstItems Row.Collides rows := by
  rw [distinctRows, Index.keepNew_eq, firstItems]
  refine congrArg _ (List.filter_congr fun (before, row) _ => ?_)
  simp [Row.groupKey_eq_iff]

/-! ## Batches -/

namespace Pull

/-- Hands on batches one after the other. -/
def ofBatches : List (List Row) → Pull × List (List Row)
  | [] => (.ok none, [])
  | batch :: rest => (.ok (some batch), rest)

/-- What handing on batches has left are the rows of all of them. -/
lemma accounts_ofBatches :
    Accounts ofBatches List.length fun batches => some batches.flatten where
  exhausted batches h := by
    rw [List.eq_nil_of_length_eq_zero h]
    rfl
  answers batches := by
    rcases batches with _ | ⟨batch, rest⟩
    · rfl
    · exact ⟨rfl, Nat.lt_succ_self _⟩

variable {σ : Type} {pull : σ → Pull × σ} {pending : σ → Nat} {left : σ → Option (List Row)}

/-- Drops from the batches of a pull the rows with a key that was met before. -/
def distinct (pull : σ → Pull × σ) (pending : σ → Nat) (state : σ × Std.HashSet String) :
    Pull × σ × Std.HashSet String :=
  let keep seen batch :=
    let (kept, seen) := Index.keepNew Row.groupKey seen batch
    (.ok kept, seen)
  sift pull keep (pending state.1) state.1 state.2

/-- From all batches together the rows are kept that are kept from them as one list. -/
lemma Accounts.drain_distinct (h : Accounts pull pending left) {s : σ} {rows : List Row}
    (hleft : left s = some rows) :
    (drain (distinct pull pending) (pending s) (s, ∅)).1 = .ok (distinctRows rows) := by
  have hdrain := (h.sift Index.batchwise_keepNew).toOption_drain (s := (s, ∅)) (Nat.le_refl _)
  rw [leftOf, hleft] at hdrain
  exact Result.eq_ok_of_toOption hdrain

end Pull

/-- The removal of repeated rows in a plan works on the batches of its input. -/
lemma Plan.next_distinct (input : Plan) :
    (distinct input).next = Pull.distinct input.next input.pending :=
  rfl

/-- Dropping repeated rows keeps, in order, the rows that collide with none before them. These are
all that repeat none before them if no text holds the separator, and some of these otherwise. Rows
that come in batches, from a list of batches or from a plan, are kept as if they came at once. -/
theorem distinctRows_keeps_first (rows : List Row) :
    distinctRows rows = firstItems Row.Collides rows ∧
    (distinctRows rows).Sublist (firstItems Row.Repeats rows) ∧
    ((∀ row ∈ rows, ∀ v ∈ row.values, v.Unseparated) →
      distinctRows rows = firstItems Row.Repeats rows) ∧
    (∀ batches : List (List Row), batches.flatten = rows →
      (Pull.drain (Pull.distinct Pull.ofBatches List.length) batches.length (batches, ∅)).1 =
        .ok (distinctRows rows)) ∧
    ∀ input : Plan, input.Unlimited → input.rows = .ok rows →
      (Plan.distinct input).rows = .ok (distinctRows rows) := by
  have hfirst := distinctRows_eq rows
  refine ⟨hfirst, ?_, fun hrows => ?_, fun batches hbatches => ?_, fun input hinput hpulled => ?_⟩
  · rw [hfirst]
    exact firstItems_sublist (fun _ _ h => h.collides) rows
  · rw [hfirst]
    refine firstItems_congr fun row hrow other hother => ?_
    exact Row.collides_iff_repeats (hrows row hrow) (hrows other hother)
  · exact Pull.accounts_ofBatches.drain_distinct (congrArg some hbatches)
  · have hleft := input.toOption_collect hinput input.start
    rw [show (input.collect input.start).1 = .ok rows from hpulled] at hleft
    rw [Plan.rows, Plan.collect, Plan.next_distinct]
    exact (input.accounted hinput).drain_distinct hleft.symm

/-- Over two batches and across the kinds of values, one row is dropped that repeats another. -/
theorem distinctRows_keeps_first_of_kinds :
    let number := Row.ofList [("v", .int64 1)]
    let letter := Row.ofList [("v", .text "1")]
    (Pull.drain (Pull.distinct Pull.ofBatches List.length) 2
      ([[number, letter], [number]], ∅)).1 = .ok [number, letter] ∧
    (Plan.distinct (.scan "t" [number, letter, number])).rows = .ok [number, letter] := by
  intro number letter
  obtain ⟨-, -, hrepeats, hbatches, hplan⟩ := distinctRows_keeps_first [number, letter, number]
  have hkept : distinctRows [number, letter, number] = [number, letter] := by
    rw [hrepeats (by decide)]
    decide +kernel
  rw [hkept] at hbatches hplan
  exact ⟨hbatches [[number, letter], [number]] rfl, hplan (.scan "t" _) trivial rfl⟩

/-- A row is dropped that repeats none, because a text with the separator in it looks like two. -/
theorem exists_distinct_row_dropped :
    let first := Row.ofList [("a", .text "x\x1fsy"), ("b", .text "z")]
    let second := Row.ofList [("a", .text "x"), ("b", .text "y\x1fsz")]
    ¬ second.Repeats first ∧ firstItems Row.Repeats [first, second] = [first, second] ∧
    distinctRows [first, second] = [first] := by
  intro first second
  refine ⟨?_, ?_, ?_⟩
  · decide +kernel
  · decide +kernel
  · rw [distinctRows_eq]
    decide +kernel

end TableQuery
