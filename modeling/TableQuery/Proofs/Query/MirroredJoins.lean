import TableQuery.Proofs.Query.NestedLoop
import TableQuery.Proofs.Row

/-!
# Joins with their tables exchanged

A join gives the same rows when its two tables are exchanged, up to the order of the cells in a row:
a left join becomes a right join, and its rows keep their order; the rows of an inner join are
reordered, because the other table drives it (`tables_mirrored`).

Both follow from the pairs of rows that are merged. Exchanging the tables turns every pair around,
and under distinct names a pair and its reverse are merged to rows of the same cells.
-/

namespace TableQuery

namespace Join

/-! ## Pairs turned around -/

/-- Pairs are mapped one by one, and so is the row that stays alone. -/
lemma map_orAlone {α β : Type} (f : α → β) (alone : α) (pairs : List α) :
    (orAlone alone pairs).map f = orAlone (f alone) (pairs.map f) := by
  cases pairs <;> rfl

/-- The pairs of a right join are those of the left join of the exchanged tables, turned around. -/
lemma pairs_right_eq (left right : JoinSide) (leftRows rightRows : List Row) :
    pairs .right right rightRows left leftRows =
      (pairs .left left leftRows right rightRows).map Prod.swap := by
  simp only [pairs, List.map_flatMap, map_orAlone, List.map_map, sameKey_comm right left]
  rfl

/-- Related items can be listed by either of their sides. -/
lemma flatMap_filter_perm {α β γ : Type} (lefts : List α) (rights : List β)
    (related : α → β → Bool) (f : α → β → γ) :
    (lefts.flatMap fun l => (rights.filter fun r => related l r).map fun r => f l r).Perm
      (rights.flatMap fun r => (lefts.filter fun l => related l r).map fun l => f l r) := by
  induction lefts with
  | nil => simp
  | cons l lefts ih =>
    have hhead : (rights.filter fun r => related l r).map (fun r => f l r) =
        rights.flatMap fun r => if related l r then [f l r] else [] := by
      clear ih
      induction rights with
      | nil => rfl
      | cons r rights ih =>
        rw [List.filter_cons, List.flatMap_cons, ← ih]
        split_ifs <;> rfl
    have hsplit : (rights.flatMap fun r =>
        ((l :: lefts).filter fun l => related l r).map fun l => f l r) =
        rights.flatMap fun r => (if related l r then [f l r] else []) ++
          (lefts.filter fun l => related l r).map fun l => f l r := by
      refine congrArg (rights.flatMap ·) (funext fun r => ?_)
      rw [List.filter_cons]
      split_ifs <;> rfl
    rw [List.flatMap_cons, hhead, hsplit]
    exact (ih.append_left _).trans (List.flatMap_append_perm rights _ _)

/-- The pairs of an inner join are those of the inner join of the exchanged tables, turned around
and reordered. -/
lemma pairs_inner_perm (left right : JoinSide) (leftRows rightRows : List Row) :
    ((pairs .inner left leftRows right rightRows).map Prod.swap).Perm
      (pairs .inner right rightRows left leftRows) := by
  simp only [pairs, List.map_flatMap, List.map_map, sameKey_comm right left]
  exact flatMap_filter_perm leftRows rightRows (sameKey left right) fun l r => (some r, some l)

/-! ## Merged rows -/

section Merged

variable {left right : JoinSide} {leftRows rightRows : List Row}
  (hdistinct : (left.columns.map left.qualify ++ right.columns.map right.qualify).Nodup)
  (hleft : ∀ row ∈ leftRows, row.columns.Perm left.columns)
  (hright : ∀ row ∈ rightRows, row.columns.Perm right.columns)

include hdistinct

/-- Under distinct names a pair and its reverse are merged to rows of the same cells. -/
lemma sameCells_mergePair {pair : Option Row × Option Row}
    (hleft : ∀ row ∈ pair.1, row.columns.Perm left.columns)
    (hright : ∀ row ∈ pair.2, row.columns.Perm right.columns) :
    (mergePair left right pair).SameCells (mergePair right left pair.swap) := by
  have hreverse := List.perm_append_comm.nodup_iff.mp hdistinct
  refine Row.sameCells_iff_perm.mpr ?_
  rw [cells_mergePair hdistinct hleft hright, cells_mergePair hreverse hright hleft]
  exact List.perm_append_comm

include hleft hright

/-- The rows merged from some pairs have the same cells as those merged from their reverses. -/
lemma forall₂_sameCells (kind : JoinKind) :
    let found := pairs kind left leftRows right rightRows
    List.Forall₂ Row.SameCells (found.map (mergePair left right))
      ((found.map Prod.swap).map (mergePair right left)) := by
  intro found
  rw [List.forall₂_map_left_iff, List.forall₂_map_right_iff, List.forall₂_map_right_iff,
    List.forall₂_same]
  intro pair hpair
  obtain ⟨hl, hr⟩ := mem_of_mem_pairs hpair
  exact sameCells_mergePair hdistinct (fun row h => hleft row (hl row h))
    fun row h => hright row (hr row h)

/-- A left join and the right join of the exchanged sides fail alike or give rows of the same cells
in the same order. -/
lemma rows_left_mirrored :
    (∃ e, rows .left left leftRows right rightRows = .error e ∧
      rows .right right rightRows left leftRows = .error e) ∨
    ∃ found mirrored, rows .left left leftRows right rightRows = .ok found ∧
      rows .right right rightRows left leftRows = .ok mirrored ∧
      List.Forall₂ Row.SameCells found mirrored := by
  have hkeys : firstFailure? .right right rightRows left leftRows =
      firstFailure? .left left leftRows right rightRows := rfl
  rw [rows_eq_nestedLoop, rows_eq_nestedLoop, nestedLoop, nestedLoop, hkeys]
  cases firstFailure? .left left leftRows right rightRows with
  | some e => exact .inl ⟨e, rfl, rfl⟩
  | none =>
    rw [pairs_right_eq]
    exact .inr ⟨_, _, rfl, rfl, forall₂_sameCells hdistinct hleft hright .left⟩

/-- An inner join and that of the exchanged sides both fail, or give rows of the same cells up to
their order. -/
lemma rows_inner_mirrored :
    (∃ e e', rows .inner left leftRows right rightRows = .error e ∧
      rows .inner right rightRows left leftRows = .error e') ∨
    ∃ found mirrored reordered, rows .inner left leftRows right rightRows = .ok found ∧
      rows .inner right rightRows left leftRows = .ok mirrored ∧ mirrored.Perm reordered ∧
      List.Forall₂ Row.SameCells found reordered := by
  rw [rows_eq_nestedLoop, rows_eq_nestedLoop, nestedLoop, nestedLoop]
  have hkeys : firstFailure? .inner left leftRows right rightRows = none ↔
      firstFailure? .inner right rightRows left leftRows = none := by
    rw [firstFailure?_eq_none_iff, firstFailure?_eq_none_iff, and_comm]
  cases hfailure : firstFailure? .inner left leftRows right rightRows with
  | some e =>
    cases hmirrored : firstFailure? .inner right rightRows left leftRows with
    | some e' => exact .inl ⟨e, e', rfl, rfl⟩
    | none =>
      rw [hkeys.mpr hmirrored] at hfailure
      cases hfailure
  | none =>
    rw [hkeys.mp hfailure]
    have hperm := (pairs_inner_perm left right leftRows rightRows).map (mergePair right left)
    exact .inr ⟨_, _, _, rfl, rfl, hperm.symm, forall₂_sameCells hdistinct hleft hright .inner⟩

end Merged

/-- Exchanging the two tables turns a left join into a right join of the same rows in the same
order, or both fail alike. It turns an inner join into an inner join of the same rows in some order,
or both fail. Rows count as the same when they hold the same values under all names. -/
theorem tables_mirrored (leftName : String) (left : Table) (leftKey rightName : String)
    (right : Table) (rightKey : String) (hleft : left.Regular) (hright : right.Regular)
    (hdistinct : (left.columns.map (leftName ++ "." ++ ·) ++
      right.columns.map (rightName ++ "." ++ ·)).Nodup) :
    let joined (kind : JoinKind) := tables kind leftName left leftKey rightName right rightKey
    let mirrored (kind : JoinKind) := tables kind rightName right rightKey leftName left leftKey
    ((∃ e, joined .left = .error e ∧ mirrored .right = .error e) ∨
      ∃ found other, joined .left = .ok found ∧ mirrored .right = .ok other ∧
        List.Forall₂ Row.SameCells found.rows other.rows) ∧
    ((∃ e e', joined .inner = .error e ∧ mirrored .inner = .error e') ∨
      ∃ found other reordered, joined .inner = .ok found ∧ mirrored .inner = .ok other ∧
        other.rows.Perm reordered ∧ List.Forall₂ Row.SameCells found.rows reordered) := by
  intro joined mirrored
  let l : JoinSide := ⟨leftName, left.columns, leftKey⟩
  let r : JoinSide := ⟨rightName, right.columns, rightKey⟩
  have hqualified : (l.columns.map l.qualify ++ r.columns.map r.qualify).Nodup := hdistinct
  have hjoined (kind : JoinKind) : joined kind = (rows kind l left.rows r right.rows).map
      (Table.mk (left.columns.map l.qualify ++ right.columns.map r.qualify)) := rfl
  have hmirrored (kind : JoinKind) : mirrored kind = (rows kind r right.rows l left.rows).map
      (Table.mk (right.columns.map r.qualify ++ left.columns.map l.qualify)) := rfl
  rw [hjoined, hjoined, hmirrored, hmirrored]
  constructor
  · rcases rows_left_mirrored hqualified hleft hright with
      ⟨e, hfound, hother⟩ | ⟨found, other, hfound, hother, hsame⟩
    · rw [hfound, hother]
      exact .inl ⟨e, rfl, rfl⟩
    · rw [hfound, hother]
      exact .inr ⟨_, _, rfl, rfl, hsame⟩
  · rcases rows_inner_mirrored hqualified hleft hright with
      ⟨e, e', hfound, hother⟩ | ⟨found, other, reordered, hfound, hother, hperm, hsame⟩
    · rw [hfound, hother]
      exact .inl ⟨e, e', rfl, rfl⟩
    · rw [hfound, hother]
      exact .inr ⟨_, _, reordered, rfl, rfl, hperm, hsame⟩

/-- Two people share a number that two pets are given as their owner, and a third has no pet: from
the side of the people there are five rows, four of them with a pet. -/
theorem tables_mirrored_of_pets :
    let people : Table := ⟨["id", "name"],
      [.ofList [("id", .int64 1), ("name", .text "Ann")],
        .ofList [("id", .int64 2), ("name", .text "Cid")],
        .ofList [("id", .int64 1), ("name", .text "Bob")]]⟩
    let pets : Table := ⟨["owner", "pet"],
      [.ofList [("owner", .text "1"), ("pet", .text "Rex")],
        .ofList [("pet", .text "Tom"), ("owner", .text "1")]]⟩
    let l : JoinSide := ⟨"people", people.columns, "id"⟩
    let r : JoinSide := ⟨"pets", pets.columns, "owner"⟩
    let joined (kind : JoinKind) := tables kind "people" people "id" "pets" pets "owner"
    let mirrored (kind : JoinKind) := tables kind "pets" pets "owner" "people" people "id"
    ((pairs .left l people.rows r pets.rows).length = 5 ∧
      (pairs .inner l people.rows r pets.rows).length = 4) ∧
    ((∃ e, joined .left = .error e ∧ mirrored .right = .error e) ∨
      ∃ found other, joined .left = .ok found ∧ mirrored .right = .ok other ∧
        List.Forall₂ Row.SameCells found.rows other.rows) ∧
    ((∃ e e', joined .inner = .error e ∧ mirrored .inner = .error e') ∨
      ∃ found other reordered, joined .inner = .ok found ∧ mirrored .inner = .ok other ∧
        other.rows.Perm reordered ∧ List.Forall₂ Row.SameCells found.rows reordered) := by
  intro people pets l r joined mirrored
  have hdistinct : (people.columns.map ("people" ++ "." ++ ·) ++
      pets.columns.map ("pets" ++ "." ++ ·)).Nodup := by decide +kernel
  have hpeople : people.Regular := by
    intro row hrow
    exact .of_eq ((by decide +kernel : people.Ordered) row hrow)
  have hpets : pets.Regular := by
    intro row hrow
    exact (by decide +kernel : ∀ row ∈ pets.rows, row.columns.Perm pets.columns) row hrow
  refine ⟨by decide +kernel, ?_⟩
  exact tables_mirrored "people" people "id" "pets" pets "owner" hpeople hpets hdistinct

end Join

end TableQuery
