import Mathlib.Data.List.Perm.Basic
import TableQuery.Proofs.Result
import TableQuery.Query.Join

/-!
# Joins as nested loops

`Join.pairs` lists the pairs of rows that a join merges by comparing every driving row with every
row of the other side. It is spelled with the lookup of the key columns and the keys of their values
alone, and `Join.mergePair` with the cells of the two rows. The join built from an index merges
exactly these pairs, in this order, and fails with the first key that cannot be looked up
(`rows_eq_nestedLoop`). Under distinct qualified names the cells of a pair stand side by side in its
merged row (`cells_mergePair`), which makes the columns of the joined table those of its rows
(`tables_refines_nestedLoop`).
-/

namespace TableQuery

/-! ## Rows under a key -/

/-- The rows that carry a key, in order. -/
def Index.withKey (key : String) (keyed : List (String × Row)) : List Row :=
  (keyed.filter fun entry => entry.1 == key).map Prod.snd

/-- The rows of a list, if there are any. -/
def Index.nonempty? (rows : List Row) : Option (List Row) :=
  if rows.isEmpty then none else some rows

/-- A list of rows is kept, be it empty or not. -/
@[simp] lemma Index.getD_nonempty? (rows : List Row) : (nonempty? rows).getD [] = rows := by
  cases rows <;> rfl

/-- An index holds the rows that carry a key under it, and nothing under a key that no row has. -/
lemma Index.getElem?_ofList (keyed : List (String × Row)) (key : String) :
    (ofList keyed)[key]? = nonempty? (withKey key keyed) := by
  induction keyed with
  | nil => simp [ofList, withKey, nonempty?]
  | cons entry keyed ih =>
    obtain ⟨first, row⟩ := entry
    rw [ofList, List.foldr_cons, ← ofList, Std.HashMap.getElem?_insert]
    by_cases h : first = key
    · subst h
      have hrest : (ofList keyed).getD first [] = withKey first keyed := by
        rw [Std.HashMap.getD_eq_getD_getElem?, ih, getD_nonempty?]
      simp [hrest, nonempty?, withKey]
    · simp [h, ih, withKey]

namespace JoinSide

/-- The key of a row: that of the value in its key column, if this can be looked up and is
present. -/
def key? (side : JoinSide) (row : Row) : Option String :=
  (row.lookup side.key).toOption.bind Value.joinKey?

/-- The error of a row whose key column cannot be looked up. A column that is missing is reported
with the name of its table. -/
def keyError? (side : JoinSide) (row : Row) : Option ExecutionError :=
  match row.lookup side.key with
  | .ok _ => none
  | .error (.missingField _) => some (.missingField (side.table ++ "." ++ side.key))
  | .error other => some other

/-- The cells of a row under the name of its table; without a row, an empty cell for every
column. -/
def qualifiedCells (side : JoinSide) : Option Row → List (String × Value)
  | some row => row.cells.map fun cell => (side.table ++ "." ++ cell.1, cell.2)
  | none => side.columns.map fun column => (side.table ++ "." ++ column, .null)

/-- The key of a row whose key column holds a value is that of the value. -/
lemma key?_of_lookup {side : JoinSide} {row : Row} {value : Value}
    (h : row.lookup side.key = .ok value) : side.key? row = value.joinKey? := by
  rw [key?, h]
  rfl

/-- A row has no key when its key column cannot be looked up. -/
lemma key?_of_error {side : JoinSide} {row : Row} {e : ExecutionError}
    (h : row.lookup side.key = .error e) : side.key? row = none := by
  rw [key?, h]
  rfl

/-- A row fails to give a key exactly when its key column cannot be looked up. -/
lemma keyError?_eq_none_iff {side : JoinSide} {row : Row} :
    side.keyError? row = none ↔ ∃ value, row.lookup side.key = .ok value := by
  unfold keyError?
  split
  · rename_i value hvalue
    simp [hvalue]
  · rename_i hmissing
    simp [hmissing]
  · rename_i e _ herror
    simp [herror]

/-- The join asks a row for its key, and reports the error if there is none to be had. -/
lemma keyOf_eq (side : JoinSide) (row : Row) :
    side.keyOf row = match side.keyError? row with
      | some e => .error e
      | none => .ok (side.key? row) := by
  unfold keyOf keyError?
  cases hlookup : row.lookup side.key with
  | ok value => rw [key?_of_lookup hlookup]
  | error e => cases e <;> rfl

/-- The first key that a join cannot look up is that of the first row whose key column cannot be
looked up. -/
lemma firstError?_keyOf (side : JoinSide) (rows : List Row) :
    Result.firstError? side.keyOf rows = rows.findSome? side.keyError? := by
  induction rows with
  | nil => rfl
  | cons row rows ih =>
    rw [Result.firstError?, List.findSome?_cons, keyOf_eq, ← ih]
    cases side.keyError? row <;> rfl

end JoinSide

namespace Join

/-- Whether the keys of two rows are present and equal. -/
def sameKey (left right : JoinSide) (l r : Row) : Bool :=
  match left.key? l, right.key? r with
  | some a, some b => a == b
  | _, _ => false

/-- Two rows match when their key columns can be looked up and hold values with one key. -/
lemma sameKey_iff {left right : JoinSide} {l r : Row} :
    sameKey left right l r = true ↔ ∃ v w key, l.lookup left.key = .ok v ∧
      r.lookup right.key = .ok w ∧ v.joinKey? = some key ∧ w.joinKey? = some key := by
  unfold sameKey
  cases hl : l.lookup left.key with
  | error e => simp [JoinSide.key?_of_error hl]
  | ok v =>
    rw [JoinSide.key?_of_lookup hl]
    cases hr : r.lookup right.key with
    | error e => cases v.joinKey? <;> simp [JoinSide.key?_of_error hr]
    | ok w =>
      rw [JoinSide.key?_of_lookup hr]
      cases hv : v.joinKey? with
      | none => simp [hv]
      | some key =>
        cases hw : w.joinKey? with
        | none => simp [hw]
        | some other => simp [hv, hw, @eq_comm _ key]

/-- It does not matter which of two rows is compared with the other. -/
lemma sameKey_comm (left right : JoinSide) (l r : Row) :
    sameKey left right l r = sameKey right left r l := by
  unfold sameKey
  cases left.key? l <;> cases right.key? r <;> simp [Bool.beq_comm]

/-- The error of the first key that cannot be looked up. The rows that are looked for come before
those that drive the join. -/
def firstFailure? (kind : JoinKind) (left : JoinSide) (leftRows : List Row) (right : JoinSide)
    (rightRows : List Row) : Option ExecutionError :=
  match kind with
  | .right => (leftRows.findSome? left.keyError?).or (rightRows.findSome? right.keyError?)
  | _ => (rightRows.findSome? right.keyError?).or (leftRows.findSome? left.keyError?)

/-- The pairs of a row with its partners, or the row alone when there are none. -/
def orAlone {α : Type} (alone : α) (pairs : List α) : List α :=
  if pairs.isEmpty then [alone] else pairs

/-- The pairs of rows that a join merges; one half is missing for a row without partners. -/
def pairs (kind : JoinKind) (left : JoinSide) (leftRows : List Row) (right : JoinSide)
    (rightRows : List Row) : List (Option Row × Option Row) :=
  match kind with
  | .inner =>
    leftRows.flatMap fun l =>
      (rightRows.filter fun r => sameKey left right l r).map fun r => (some l, some r)
  | .left =>
    leftRows.flatMap fun l => orAlone (some l, none)
      ((rightRows.filter fun r => sameKey left right l r).map fun r => (some l, some r))
  | .right =>
    rightRows.flatMap fun r => orAlone (none, some r)
      ((leftRows.filter fun l => sameKey left right l r).map fun l => (some l, some r))

/-- The merged row of a pair: the cells of the left half, then those of the right one. -/
def mergePair (left right : JoinSide) (pair : Option Row × Option Row) : Row :=
  .ofList (left.qualifiedCells pair.1 ++ right.qualifiedCells pair.2)

/-- The rows of a join by nested loops. -/
def nestedLoop (kind : JoinKind) (left : JoinSide) (leftRows : List Row) (right : JoinSide)
    (rightRows : List Row) : Except ExecutionError (List Row) :=
  match firstFailure? kind left leftRows right rightRows with
  | some e => .error e
  | none => .ok ((pairs kind left leftRows right rightRows).map (mergePair left right))

/-! ## The index against the loops -/

/-- The index of the rows that are looked for. -/
def indexOf (side : JoinSide) (rows : List Row) : Std.HashMap String (List Row) :=
  Index.ofList (((rows.map side.key?).zip rows).filterMap fun (key, row) => key.map (·, row))

/-- The rows of the other side that a driving row finds in the index, if there are any. -/
lemma index_partners (driving other : JoinSide) (otherRows : List Row) (row : Row) :
    ((driving.key? row).bind fun key => (indexOf other otherRows)[key]?) =
      Index.nonempty? (otherRows.filter fun r => sameKey driving other row r) := by
  cases hkey : driving.key? row with
  | none => simp [sameKey, hkey, Index.nonempty?]
  | some key =>
    rw [Option.bind_some, indexOf, Index.getElem?_ofList]
    congr 1
    induction otherRows with
    | nil => rfl
    | cons r otherRows ih =>
      cases hr : other.key? r with
      | none => simpa [sameKey, hkey, hr] using ih
      | some found =>
        by_cases h : found = key
        · subst h
          simpa [sameKey, hkey, hr, Index.withKey] using ih
        · simpa [sameKey, hkey, hr, Index.withKey, h, Ne.symm h] using ih

/-- Keys that are looked up without failure are those of `key?`. -/
lemma mapM_keyOf {side : JoinSide} {rows : List Row} (h : rows.findSome? side.keyError? = none) :
    rows.mapM side.keyOf = .ok (rows.map side.key?) := by
  refine Result.mapM_eq_ok fun row hrow => ?_
  rw [side.keyOf_eq, List.findSome?_eq_none_iff.mp h row hrow]

/-- Looking up keys stops at the first that cannot be looked up. -/
lemma mapM_keyOf_of_some {side : JoinSide} {rows : List Row} {e : ExecutionError}
    (h : rows.findSome? side.keyError? = some e) : rows.mapM side.keyOf = .error e := by
  rw [Result.mapM_eq, side.firstError?_keyOf, h]

/-- What a join does once its sides are told apart: it looks up the keys of the other rows and those
of the driving rows, and each driving row gives its rows with its partners. -/
lemma probe_eq (driving other : JoinSide) (drivingRows otherRows : List Row)
    (give : Row → Option (List Row) → List Row) :
    (do
      let otherKeys ← otherRows.mapM other.keyOf
      let index := Index.ofList
        ((otherKeys.zip otherRows).filterMap fun (key, row) => key.map (·, row))
      let drivingKeys ← drivingRows.mapM driving.keyOf
      return (drivingKeys.zip drivingRows).flatMap fun (key, row) =>
        give row (key.bind (index[·]?)) : Except ExecutionError (List Row)) =
      match (otherRows.findSome? other.keyError?).or
        (drivingRows.findSome? driving.keyError?) with
      | some e => .error e
      | none => .ok (drivingRows.flatMap fun row =>
          give row (Index.nonempty? (otherRows.filter fun r => sameKey driving other row r))) := by
  cases hother : otherRows.findSome? other.keyError? with
  | some e =>
    rw [mapM_keyOf_of_some hother]
    rfl
  | none =>
    rw [mapM_keyOf hother]
    cases hdriving : drivingRows.findSome? driving.keyError? with
    | some e =>
      rw [mapM_keyOf_of_some hdriving]
      rfl
    | none =>
      rw [mapM_keyOf hdriving]
      refine congrArg Except.ok ?_
      -- row by row what is found in the index is what the loops find
      simp only [← index_partners]
      clear hdriving
      induction drivingRows with
      | nil => rfl
      | cons row drivingRows ih =>
        rw [List.map_cons, List.zip_cons_cons, List.flatMap_cons, List.flatMap_cons, ih]
        rfl

/-- An inner join merges a row with its partners. -/
lemma mergeAll_inner (left right : JoinSide) (row : Row) (partners : List Row) :
    mergeAll .inner left right row (Index.nonempty? partners) =
      (partners.map fun r => (some row, some r)).map (mergePair left right) := by
  rw [List.map_map]
  cases partners <;> rfl

/-- The other joins merge a row with its partners or keep it alone. -/
lemma mergeAll_outer (kind : JoinKind) (h : kind.keepsUnmatched = true) (left right : JoinSide)
    (row : Row) (pair : Option Row → Option Row × Option Row)
    (hpair : ∀ partner, merge kind left right row partner = mergePair left right (pair partner))
    (partners : List Row) :
    mergeAll kind left right row (Index.nonempty? partners) =
      (orAlone (pair none) (partners.map fun partner => pair (some partner))).map
        (mergePair left right) := by
  cases partners with
  | nil =>
    change (if kind.keepsUnmatched then [merge kind left right row none] else []) = _
    rw [if_pos h, hpair]
    rfl
  | cons first rest =>
    change (first :: rest).map (fun partner => merge kind left right row (some partner)) =
      ((first :: rest).map fun partner => pair (some partner)).map (mergePair left right)
    rw [List.map_map]
    exact List.map_congr_left fun partner _ => hpair (some partner)

/-- The join by an index is the join by nested loops. -/
lemma rows_eq_nestedLoop (kind : JoinKind) (left : JoinSide) (leftRows : List Row)
    (right : JoinSide) (rightRows : List Row) :
    rows kind left leftRows right rightRows = nestedLoop kind left leftRows right rightRows := by
  cases kind with
  | inner =>
    refine (probe_eq left right leftRows rightRows (mergeAll .inner left right)).trans ?_
    simp only [mergeAll_inner, nestedLoop, pairs, List.map_flatMap]
    rfl
  | left =>
    refine (probe_eq left right leftRows rightRows (mergeAll .left left right)).trans ?_
    have hrow (l : Row) :=
      mergeAll_outer .left rfl left right l (fun r => (some l, r)) fun _ => rfl
    simp only [hrow, nestedLoop, pairs, List.map_flatMap]
    rfl
  | right =>
    refine (probe_eq right left rightRows leftRows (mergeAll .right left right)).trans ?_
    have hrow (r : Row) :=
      mergeAll_outer .right rfl left right r (fun l => (l, some r)) fun _ => rfl
    simp only [hrow, sameKey_comm right left, nestedLoop, pairs, List.map_flatMap]
    rfl

/-- There is no first failure when all keys can be looked up. -/
lemma firstFailure?_eq_none_iff {kind : JoinKind} {left right : JoinSide}
    {leftRows rightRows : List Row} :
    firstFailure? kind left leftRows right rightRows = none ↔
      (∀ row ∈ leftRows, ∃ value, row.lookup left.key = .ok value) ∧
      ∀ row ∈ rightRows, ∃ value, row.lookup right.key = .ok value := by
  simp only [← JoinSide.keyError?_eq_none_iff, ← List.findSome?_eq_none_iff]
  cases kind <;> simp [firstFailure?, and_comm]

/-- A join by nested loops fails when some key cannot be looked up, and only then. -/
lemma nestedLoop_fails_iff (kind : JoinKind) (left : JoinSide) (leftRows : List Row)
    (right : JoinSide) (rightRows : List Row) :
    (∃ e, nestedLoop kind left leftRows right rightRows = .error e) ↔
      (∃ row ∈ leftRows, ∃ e, row.lookup left.key = .error e) ∨
      ∃ row ∈ rightRows, ∃ e, row.lookup right.key = .error e := by
  have hok : ¬ (∃ e, nestedLoop kind left leftRows right rightRows = .error e) ↔
      firstFailure? kind left leftRows right rightRows = none := by
    unfold nestedLoop
    cases firstFailure? kind left leftRows right rightRows <;> simp
  have hkeys (key : String) (rows : List Row) :
      (∀ row ∈ rows, ∃ value, row.lookup key = .ok value) ↔
        ¬ ∃ row ∈ rows, ∃ e, row.lookup key = .error e := by
    simp only [not_exists, not_and]
    refine forall₂_congr fun row _ => ?_
    cases row.lookup key <;> simp
  rw [← not_iff_not, hok, firstFailure?_eq_none_iff, hkeys, hkeys, not_or]

/-! ## Columns of merged rows -/

/-- What is found is alone or among the pairs. -/
lemma eq_or_mem_of_mem_orAlone {α : Type} {alone found : α} {pairs : List α}
    (h : found ∈ orAlone alone pairs) : found = alone ∨ found ∈ pairs := by
  unfold orAlone at h
  split at h
  · exact .inl (List.mem_singleton.mp h)
  · exact .inr h

/-- Each half of a pair is a row of its side. -/
lemma mem_of_mem_pairs {kind : JoinKind} {left right : JoinSide} {leftRows rightRows : List Row}
    {pair : Option Row × Option Row} (h : pair ∈ pairs kind left leftRows right rightRows) :
    (∀ l ∈ pair.1, l ∈ leftRows) ∧ ∀ r ∈ pair.2, r ∈ rightRows := by
  cases kind with
  | inner =>
    obtain ⟨l, hl, hpair⟩ := List.mem_flatMap.mp h
    obtain ⟨r, hr, rfl⟩ := List.mem_map.mp hpair
    simp [hl, List.mem_of_mem_filter hr]
  | left =>
    obtain ⟨l, hl, hpair⟩ := List.mem_flatMap.mp h
    rcases eq_or_mem_of_mem_orAlone hpair with rfl | hpartner
    · simp [hl]
    · obtain ⟨r, hr, rfl⟩ := List.mem_map.mp hpartner
      simp [hl, List.mem_of_mem_filter hr]
  | right =>
    obtain ⟨r, hr, hpair⟩ := List.mem_flatMap.mp h
    rcases eq_or_mem_of_mem_orAlone hpair with rfl | hpartner
    · simp [hr]
    · obtain ⟨l, hl, rfl⟩ := List.mem_map.mp hpartner
      simp [hr, List.mem_of_mem_filter hl]

/-- A row gives its own names to a merged row, qualified. -/
lemma names_qualifiedCells_some (side : JoinSide) (row : Row) :
    Named.names (side.qualifiedCells (some row)) = row.columns.map side.qualify := by
  rw [JoinSide.qualifiedCells, Named.names, List.map_map, Row.columns, Named.names, List.map_map]
  rfl

/-- A missing half gives the names of the columns of its side. -/
lemma names_qualifiedCells_none (side : JoinSide) :
    Named.names (side.qualifiedCells none) = side.columns.map side.qualify := by
  rw [JoinSide.qualifiedCells, Named.names, List.map_map]
  rfl

/-- The names that a side gives to a merged row are its qualified columns. -/
lemma names_qualifiedCells {side : JoinSide} {half : Option Row}
    (h : ∀ row ∈ half, row.columns.Perm side.columns) :
    (Named.names (side.qualifiedCells half)).Perm (side.columns.map side.qualify) := by
  cases half with
  | none => exact .of_eq (names_qualifiedCells_none side)
  | some row =>
    rw [names_qualifiedCells_some]
    exact (h row rfl).map side.qualify

/-- A row with the columns of its side in order gives their qualified names in order. -/
lemma names_qualifiedCells_of_eq {side : JoinSide} {half : Option Row}
    (h : ∀ row ∈ half, row.columns = side.columns) :
    Named.names (side.qualifiedCells half) = side.columns.map side.qualify := by
  cases half with
  | none => exact names_qualifiedCells_none side
  | some row => rw [names_qualifiedCells_some, h row rfl]

/-- Under distinct names the cells of a pair stand side by side in its merged row. -/
lemma cells_mergePair {left right : JoinSide} {pair : Option Row × Option Row}
    (hdistinct : (left.columns.map left.qualify ++ right.columns.map right.qualify).Nodup)
    (hleft : ∀ row ∈ pair.1, row.columns.Perm left.columns)
    (hright : ∀ row ∈ pair.2, row.columns.Perm right.columns) :
    (mergePair left right pair).cells =
      left.qualifiedCells pair.1 ++ right.qualifiedCells pair.2 := by
  refine Row.cells_ofList ?_
  have hnames := (names_qualifiedCells hleft).append (names_qualifiedCells hright)
  rw [Named.names, List.map_append]
  exact hnames.nodup_iff.mpr hdistinct

/-- The columns of a merged row are those of its halves, the left one first. -/
lemma columns_mergePair {left right : JoinSide} {pair : Option Row × Option Row}
    (hdistinct : (left.columns.map left.qualify ++ right.columns.map right.qualify).Nodup)
    (hleft : ∀ row ∈ pair.1, row.columns = left.columns)
    (hright : ∀ row ∈ pair.2, row.columns = right.columns) :
    (mergePair left right pair).columns =
      left.columns.map left.qualify ++ right.columns.map right.qualify := by
  have hcells := cells_mergePair hdistinct (fun row h => .of_eq (hleft row h))
    (fun row h => .of_eq (hright row h))
  rw [Row.columns, hcells, Named.names, List.map_append]
  exact congrArg₂ (· ++ ·) (names_qualifiedCells_of_eq hleft) (names_qualifiedCells_of_eq hright)

end Join

/-- Whether every row of a table has the columns of the table, in whatever order. -/
def Table.Regular (table : Table) : Prop :=
  ∀ row ∈ table.rows, row.columns.Perm table.columns

/-- Whether every row of a table has the columns of the table in their order. -/
def Table.Ordered (table : Table) : Prop := ∀ row ∈ table.rows, row.columns = table.columns

/-- Whether a table is ordered can be computed. -/
instance (table : Table) : Decidable table.Ordered :=
  inferInstanceAs (Decidable (∀ row ∈ table.rows, row.columns = table.columns))

namespace Join

/-- The join of two tables has the rows of the nested loops, and fails with the first key column
that cannot be looked up. Two rows match when their key columns hold values with one key. When the
qualified columns are distinct and the rows have the columns of their tables, each merged row
consists of the cells of its left half and then those of its right half, so that it has the columns
of the joined table, in their order if the rows have theirs in order. -/
theorem tables_refines_nestedLoop (kind : JoinKind) (leftName : String) (left : Table)
    (leftKey rightName : String) (right : Table) (rightKey : String) :
    let l : JoinSide := ⟨leftName, left.columns, leftKey⟩
    let r : JoinSide := ⟨rightName, right.columns, rightKey⟩
    let columns := left.columns.map (leftName ++ "." ++ ·) ++
      right.columns.map (rightName ++ "." ++ ·)
    let joined := Join.tables kind leftName left leftKey rightName right rightKey
    joined = (nestedLoop kind l left.rows r right.rows).map (Table.mk columns) ∧
    ((∃ e, joined = .error e) ↔
      (∃ row ∈ left.rows, ∃ e, row.lookup leftKey = .error e) ∨
      ∃ row ∈ right.rows, ∃ e, row.lookup rightKey = .error e) ∧
    (∀ a b : Row, sameKey l r a b = true ↔ ∃ v w key, a.lookup leftKey = .ok v ∧
      b.lookup rightKey = .ok w ∧ v.joinKey? = some key ∧ w.joinKey? = some key) ∧
    (columns.Nodup → left.Regular → right.Regular →
      ∀ pair ∈ pairs kind l left.rows r right.rows,
        (mergePair l r pair).cells = l.qualifiedCells pair.1 ++ r.qualifiedCells pair.2 ∧
        (mergePair l r pair).columns.Perm columns ∧
        (left.Ordered → right.Ordered → (mergePair l r pair).columns = columns)) := by
  intro l r columns joined
  have hjoined : joined = (nestedLoop kind l left.rows r right.rows).map (Table.mk columns) := by
    rw [← rows_eq_nestedLoop]
    rfl
  refine ⟨hjoined, ?_, fun a b => sameKey_iff, fun hdistinct hleft hright pair hpair => ?_⟩
  · have hfails := nestedLoop_fails_iff kind l left.rows r right.rows
    rw [← hfails, hjoined]
    cases nestedLoop kind l left.rows r right.rows <;> simp [Except.map]
  · obtain ⟨hl, hr⟩ := mem_of_mem_pairs hpair
    have hqualified : (l.columns.map l.qualify ++ r.columns.map r.qualify).Nodup := hdistinct
    have hleftHalf : ∀ row ∈ pair.1, row.columns.Perm l.columns :=
      fun row h => hleft row (hl row h)
    have hrightHalf : ∀ row ∈ pair.2, row.columns.Perm r.columns :=
      fun row h => hright row (hr row h)
    have hcells := cells_mergePair hqualified hleftHalf hrightHalf
    refine ⟨hcells, ?_, fun hleft hright => ?_⟩
    · rw [Row.columns, hcells, Named.names, List.map_append]
      exact (names_qualifiedCells hleftHalf).append (names_qualifiedCells hrightHalf)
    · exact columns_mergePair hqualified (fun row h => hleft row (hl row h))
        (fun row h => hright row (hr row h))

/-- Two people and the pet of one of them, whose owner is given as a text. A left join keeps both
people, one with the pet and one alone, and a column that no pet has makes it fail. -/
theorem tables_refines_nestedLoop_of_pets :
    let ann : Row := .ofList [("id", .int64 1), ("name", .text "Ann")]
    let bob : Row := .ofList [("id", .int64 2), ("name", .text "Bob")]
    let rex : Row := .ofList [("owner", .text "1"), ("name", .text "Rex")]
    let people : Table := ⟨["id", "name"], [ann, bob]⟩
    let pets : Table := ⟨["owner", "name"], [rex]⟩
    let l : JoinSide := ⟨"people", people.columns, "id"⟩
    let r : JoinSide := ⟨"pets", pets.columns, "owner"⟩
    sameKey l r ann rex = true ∧
    pairs .left l people.rows r pets.rows = [(some ann, some rex), (some bob, none)] ∧
    (mergePair l r (some ann, some rex)).cells = [("people.id", .int64 1),
      ("people.name", .text "Ann"), ("pets.owner", .text "1"), ("pets.name", .text "Rex")] ∧
    (mergePair l r (some bob, none)).cells = [("people.id", .int64 2),
      ("people.name", .text "Bob"), ("pets.owner", .null), ("pets.name", .null)] ∧
    ∃ e, Join.tables .left "people" people "id" "pets" pets "tag" = .error e := by
  intro ann bob rex people pets l r
  have hdistinct : (people.columns.map ("people" ++ "." ++ ·) ++
      pets.columns.map ("pets" ++ "." ++ ·)).Nodup := by
    decide +kernel
  have hpeople : people.Ordered := by decide +kernel
  have hpets : pets.Ordered := by decide +kernel
  obtain ⟨-, -, hmatch, hcells⟩ :=
    tables_refines_nestedLoop .left "people" people "id" "pets" pets "owner"
  obtain ⟨-, hfails, -, -⟩ := tables_refines_nestedLoop .left "people" people "id" "pets" pets "tag"
  have hpairs : pairs .left l people.rows r pets.rows =
      [(some ann, some rex), (some bob, none)] := by
    decide +kernel
  have hmerged := hcells hdistinct (fun row h => .of_eq (hpeople row h))
    (fun row h => .of_eq (hpets row h))
  rw [hpairs] at hmerged
  refine ⟨(hmatch ann rex).mpr ⟨.int64 1, .text "1", _, rfl, rfl, rfl, ?_⟩, hpairs, ?_, ?_, ?_⟩
  · decide +kernel
  · exact (hmerged _ List.mem_cons_self).1
  · exact (hmerged _ (List.mem_cons_of_mem _ List.mem_cons_self)).1
  · exact hfails.mpr (.inr ⟨rex, List.mem_cons_self, .missingField "tag", rfl⟩)

end Join

end TableQuery
