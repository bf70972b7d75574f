import TableQuery.Proofs.Query.NestedLoop
import TableQuery.Proofs.Value.Equality

/-!
# Inner joins and equality

An inner join pairs the rows whose key values satisfy `=`, in nested order, but for pairs whose
values blur (`joinKey?_eq_iff_satisfies`).
-/

namespace TableQuery

namespace Join

/-- Whether the key values of two rows satisfy `=` and do not blur. -/
def equalKeys (ignoreCase : Bool) (left right : JoinSide) (l r : Row) : Bool :=
  match l.lookup left.key, r.lookup right.key with
  | .ok a, .ok b => a.satisfies .eq b ignoreCase && !a.blurs b
  | _, _ => false

/-- The rows that a join compares by their keys are those whose key values satisfy equality and do
not blur. -/
lemma sameKey_eq_equalKeys (ignoreCase : Bool) (left right : JoinSide) (l r : Row) :
    sameKey left right l r = equalKeys ignoreCase left right l r := by
  unfold sameKey equalKeys
  cases hl : l.lookup left.key with
  | error e => rw [JoinSide.key?_of_error hl]
  | ok a =>
    rw [JoinSide.key?_of_lookup hl]
    cases hr : r.lookup right.key with
    | error e =>
      rw [JoinSide.key?_of_error hr]
      cases a.joinKey? <;> rfl
    | ok b =>
      rw [JoinSide.key?_of_lookup hr]
      by_cases hnull : a.isNull = true ∨ b.isNull = true
      · have hkey : a.joinKey? = none ∨ b.joinKey? = none :=
          hnull.imp Value.joinKey?_of_null Value.joinKey?_of_null
        dsimp only
        rw [Value.satisfies_of_null .eq ignoreCase hnull]
        rcases hkey with hkey | hkey
        · rw [hkey]
          rfl
        · rw [hkey]
          cases a.joinKey? <;> rfl
      · rw [not_or, Bool.not_eq_true, Bool.not_eq_true] at hnull
        obtain ⟨hkeys, -⟩ := Value.joinKey?_eq_iff_of_present hnull.1 hnull.2 ignoreCase
        obtain ⟨k, hk, -⟩ := Value.exists_hasKey hnull.1
        obtain ⟨k', hk', -⟩ := Value.exists_hasKey hnull.2
        rw [hk, hk', Option.some.injEq] at hkeys
        rw [hk, hk', Bool.eq_iff_iff]
        simpa using hkeys

/-- The merged rows of the pairs whose key values satisfy `=` and do not blur. -/
def mergeEqual (ignoreCase : Bool) (left : JoinSide) (leftRows : List Row) (right : JoinSide)
    (rightRows : List Row) : List Row :=
  leftRows.flatMap fun l =>
    (rightRows.filter fun r => equalKeys ignoreCase left right l r).map fun r =>
      mergePair left right (some l, some r)

/-- An inner join merges the pairs of rows whose key values satisfy `=` and do not blur, unless a
key cannot be looked up. -/
lemma rows_inner_eq (ignoreCase : Bool) (left right : JoinSide) (leftRows rightRows : List Row) :
    rows .inner left leftRows right rightRows =
      match firstFailure? .inner left leftRows right rightRows with
      | some e => .error e
      | none => .ok (mergeEqual ignoreCase left leftRows right rightRows) := by
  have hpairs : (pairs .inner left leftRows right rightRows).map (mergePair left right) =
      mergeEqual ignoreCase left leftRows right rightRows := by
    unfold pairs mergeEqual
    simp only [sameKey_eq_equalKeys ignoreCase, List.map_flatMap, List.map_map]
    rfl
  rw [rows_eq_nestedLoop]
  cases hfailure : firstFailure? .inner left leftRows right rightRows with
  | some e => rw [nestedLoop, hfailure]
  | none => rw [nestedLoop, hfailure, hpairs]

end Join

namespace Value

/-- Values that are present have one key when `=` holds between them and they do not blur, and those
that blur satisfy `=` all the same. An inner join pairs the rows accordingly. -/
theorem joinKey?_eq_iff_satisfies (ignoreCase : Bool) :
    (∀ a b : Value, a.isNull = false → b.isNull = false →
      (a.joinKey? = b.joinKey? ↔ a.satisfies .eq b ignoreCase = true ∧ a.blurs b = false) ∧
        (a.blurs b = true → a.satisfies .eq b ignoreCase = true)) ∧
      ∀ (left right : JoinSide) (leftRows rightRows : List Row),
        Join.rows .inner left leftRows right rightRows =
          match Join.firstFailure? .inner left leftRows right rightRows with
          | some e => .error e
          | none => .ok (Join.mergeEqual ignoreCase left leftRows right rightRows) := by
  constructor
  · intro a b ha hb
    exact joinKey?_eq_iff_of_present ha hb ignoreCase
  · intro left right leftRows rightRows
    exact Join.rows_inner_eq ignoreCase left right leftRows rightRows

/-- The integer `1` and the padded text `+1` have one key. -/
theorem joinKey?_eq_iff_satisfies_of_one :
    (int64 1).isNull = false ∧ (text " +1 ").isNull = false ∧
      (int64 1).joinKey? = (text " +1 ").joinKey? := by
  have hsatisfies : (int64 1).satisfies .eq (text " +1 ") false = true := by decide
  have hblurs : (int64 1).blurs (text " +1 ") = false := by decide
  have hkeys := ((joinKey?_eq_iff_satisfies false).1 (int64 1) (text " +1 ") rfl rfl).1
  exact ⟨rfl, rfl, hkeys.mpr ⟨hsatisfies, hblurs⟩⟩

end Value

end TableQuery
