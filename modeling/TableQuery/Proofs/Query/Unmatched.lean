import TableQuery.Proofs.Query.Filter
import TableQuery.Proofs.Query.NestedLoop
import TableQuery.Proofs.Row
import TableQuery.Proofs.Value.Equality

/-!
# Conditions on the second table of a join

A left join keeps the rows of the first table that have no partner, with empty cells for the columns
of the second. No comparison holds of an empty cell, so a comparison on a column of the second table
drops these rows again: what it keeps of a left join is what it keeps of the inner join
(`keep_left_eq_keep_inner`).

The reference has to find the column of the second table in every merged row
(`lookup_mergePair_right`). It does because the cells of a missing half have the names of all
declared columns, and no column of the first table has one of these names once it is qualified.
-/

namespace TableQuery

namespace Named

variable {α : Type}

/-- Names that are mapped injectively are found as before. -/
lemma lookup_map {f : String → String} (hf : Function.Injective f) (name : String)
    (entries : List (String × α)) :
    (entries.map fun entry => (f entry.1, entry.2)).lookup (f name) = entries.lookup name := by
  induction entries with
  | nil => rfl
  | cons entry entries ih =>
    obtain ⟨first, thing⟩ := entry
    rw [List.map_cons, lookup_cons, lookup_cons, ih]
    simp only [hf.eq_iff]

/-- Names that all stand for one thing are found with it. -/
lemma lookup_map_const {name : String} {list : List String} (h : name ∈ list) (thing : α) :
    (list.map fun entry => (entry, thing)).lookup name = some thing := by
  induction list with
  | nil => cases h
  | cons first list ih =>
    rw [List.map_cons, lookup_cons]
    split
    · rfl
    · rename_i hne
      exact ih ((List.mem_cons.mp h).resolve_left hne)

end Named

/-! ## References to the second table -/

namespace JoinSide

/-- Different columns of a table have different qualified names. -/
lemma qualify_injective (side : JoinSide) : Function.Injective side.qualify := by
  intro column other h
  exact (String.append_right_inj _).mp h

/-- The value of a column in one half of a pair; a half that is missing has empty cells. -/
def halfValue (half : Option Row) (column : String) : Value :=
  (half.bind fun row => row.get? column).getD .null

/-- The cells of a half hold its values under the qualified names. -/
lemma lookup_qualifiedCells {side : JoinSide} {half : Option Row} {column : String}
    (h : ∀ row ∈ half, row.columns.Perm side.columns) (hcolumn : column ∈ side.columns) :
    (side.qualifiedCells half).lookup (side.qualify column) = some (halfValue half column) := by
  cases half with
  | some row =>
    obtain ⟨value, hvalue⟩ := Row.exists_get?_of_mem ((h row rfl).mem_iff.mpr hcolumn)
    have hcells := Named.lookup_map side.qualify_injective column row.cells
    refine (hcells.trans hvalue).trans ?_
    rw [halfValue, Option.bind_some, hvalue, Option.getD_some]
  | none =>
    have hcells : side.qualifiedCells none =
        (side.columns.map side.qualify).map fun name => (name, Value.null) := by
      rw [List.map_map]
      rfl
    rw [hcells]
    exact Named.lookup_map_const (List.mem_map_of_mem hcolumn) Value.null

end JoinSide

namespace Join

variable {left right : JoinSide}

/-- A reference to a column of the right side finds the value of this column in the right half of a
pair. -/
lemma lookup_mergePair_right {pair : Option Row × Option Row} {column : String}
    (hdistinct : (left.columns.map left.qualify ++ right.columns.map right.qualify).Nodup)
    (hleft : ∀ row ∈ pair.1, row.columns.Perm left.columns)
    (hright : ∀ row ∈ pair.2, row.columns.Perm right.columns)
    (hcolumn : column ∈ right.columns) :
    (mergePair left right pair).lookup (right.qualify column) =
      .ok (JoinSide.halfValue pair.2 column) := by
  have hfresh : right.qualify column ∉ Named.names (left.qualifiedCells pair.1) := by
    intro hmem
    have hleftname := (names_qualifiedCells hleft).mem_iff.mp hmem
    exact (List.nodup_append.mp hdistinct).2.2 _ hleftname _ (List.mem_map_of_mem hcolumn) rfl
  have hnone : (left.qualifiedCells pair.1).lookup (right.qualify column) = none := by
    rw [List.lookup_eq_none_iff]
    intro cell hcell
    rw [bne_iff_ne]
    intro heq
    rw [heq] at hfresh
    exact hfresh (List.mem_map_of_mem hcell)
  apply Row.lookup_of_get?
  rw [Row.get?, cells_mergePair hdistinct hleft hright, List.lookup_append, hnone, Option.none_or]
  exact JoinSide.lookup_qualifiedCells hright hcolumn

/-! ## Rows without partners -/

/-- The pairs of a left join that have both halves are those of the inner join. -/
lemma filter_pairs_left (left : JoinSide) (leftRows : List Row) (right : JoinSide)
    (rightRows : List Row) :
    ((pairs .left left leftRows right rightRows).filter fun pair => pair.2.isSome) =
      pairs .inner left leftRows right rightRows := by
  simp only [pairs, List.filter_flatMap]
  refine congrArg (leftRows.flatMap ·) (funext fun l => ?_)
  cases hpartners : rightRows.filter fun r => sameKey left right l r with
  | nil => rfl
  | cons first partners =>
    have hpaired : orAlone (some l, none) ((first :: partners).map fun r => (some l, some r)) =
        (first :: partners).map fun r => (some l, some r) := rfl
    rw [hpaired, List.filter_map]
    exact congrArg (List.map _) (List.filter_eq_self.mpr fun _ _ => rfl)

/-- A filter that rejects the rows without partner keeps the same rows of a left join and of the
inner join. -/
lemma filter_left_eq_filter_inner (leftRows rightRows : List Row) (accepted : Row → Bool)
    (h : ∀ pair ∈ pairs .left left leftRows right rightRows, pair.2 = none →
      accepted (mergePair left right pair) = false) :
    ((pairs .left left leftRows right rightRows).map (mergePair left right)).filter accepted =
      ((pairs .inner left leftRows right rightRows).map (mergePair left right)).filter
        accepted := by
  rw [← filter_pairs_left, List.filter_map, List.filter_map, List.filter_filter]
  refine congrArg (List.map _) (List.filter_congr fun pair hpair => ?_)
  cases hpartner : pair.2 with
  | some r => simp
  | none =>
    have hrejected := h pair hpair hpartner
    simp [hrejected]

end Join

/-! ## Comparisons -/

namespace Join

/-- A comparison on a column of the right side judges the merged row of a pair by the right half. -/
lemma accepts_mergePair {pair : Option Row × Option Row} {column : String}
    (hdistinct : (left.columns.map left.qualify ++ right.columns.map right.qualify).Nodup)
    (hleft : ∀ row ∈ pair.1, row.columns.Perm left.columns)
    (hright : ∀ row ∈ pair.2, row.columns.Perm right.columns)
    (hcolumn : column ∈ right.columns) (operator : ComparisonOperator) (value : Value)
    (options : FilterOptions) :
    Filter.accepts ⟨some (.compare ⟨right.qualify column, operator, value⟩), options⟩
      (mergePair left right pair) =
      .ok ((JoinSide.halfValue pair.2 column).satisfies operator value options.ignoreCase) := by
  have hlookup := lookup_mergePair_right hdistinct hleft hright hcolumn
  rw [Filter.accepts_compare, Comparison.holds, hlookup]
  rfl

/-- A filter that rejects the rows without partner keeps the same rows of a left join and of the
inner join, unless both joins fail, with the same error. -/
lemma keep_rows_left (leftRows rightRows : List Row) (filter : Filter)
    (hjudged : ∀ kind, ∀ pair ∈ pairs kind left leftRows right rightRows,
      ∃ accepted, filter.accepts (mergePair left right pair) = .ok accepted)
    (hmissing : ∀ pair ∈ pairs .left left leftRows right rightRows, pair.2 = none →
      filter.isAccepted (mergePair left right pair) = false) :
    (∃ e, rows .left left leftRows right rightRows = .error e ∧
      rows .inner left leftRows right rightRows = .error e) ∨
    ∃ outer inner kept, rows .left left leftRows right rightRows = .ok outer ∧
      rows .inner left leftRows right rightRows = .ok inner ∧
      filter.keep outer = .ok kept ∧ filter.keep inner = .ok kept := by
  have hkeep (kind : JoinKind) :
      let merged := (pairs kind left leftRows right rightRows).map (mergePair left right)
      filter.keep merged = .ok (merged.filter filter.isAccepted) := by
    apply Filter.keep_of_judged
    intro row hrow
    obtain ⟨pair, hpair, rfl⟩ := List.mem_map.mp hrow
    exact hjudged kind pair hpair
  -- both kinds look up the keys of the right side first
  have hkeys : firstFailure? .left left leftRows right rightRows =
      firstFailure? .inner left leftRows right rightRows := rfl
  rw [rows_eq_nestedLoop, rows_eq_nestedLoop, nestedLoop, nestedLoop, hkeys]
  cases firstFailure? .inner left leftRows right rightRows with
  | some e => exact .inl ⟨e, rfl, rfl⟩
  | none =>
    refine .inr ⟨_, _, _, rfl, rfl, hkeep .left, ?_⟩
    rw [filter_left_eq_filter_inner leftRows rightRows filter.isAccepted hmissing]
    exact hkeep .inner

/-- A comparison on a column of the second table keeps the same rows of a left join as of the inner
join, unless both joins fail, with the same error. -/
theorem keep_left_eq_keep_inner (leftName : String) (left : Table) (leftKey rightName : String)
    (right : Table) (rightKey column : String) (operator : ComparisonOperator) (value : Value)
    (options : FilterOptions) (hleft : left.Regular) (hright : right.Regular)
    (hdistinct : (left.columns.map (leftName ++ "." ++ ·) ++
      right.columns.map (rightName ++ "." ++ ·)).Nodup)
    (hcolumn : column ∈ right.columns) :
    let outer := tables .left leftName left leftKey rightName right rightKey
    let inner := tables .inner leftName left leftKey rightName right rightKey
    let filter : Filter :=
      ⟨some (.compare ⟨rightName ++ "." ++ column, operator, value⟩), options⟩
    (∃ e, outer = .error e ∧ inner = .error e) ∨
    ∃ outerTable innerTable kept, outer = .ok outerTable ∧ inner = .ok innerTable ∧
      filter.keep outerTable.rows = .ok kept ∧ filter.keep innerTable.rows = .ok kept := by
  intro outer inner filter
  let l : JoinSide := ⟨leftName, left.columns, leftKey⟩
  let r : JoinSide := ⟨rightName, right.columns, rightKey⟩
  have hqualified : (l.columns.map l.qualify ++ r.columns.map r.qualify).Nodup := hdistinct
  have hverdict (kind : JoinKind) : ∀ pair ∈ pairs kind l left.rows r right.rows,
      filter.accepts (mergePair l r pair) = .ok ((JoinSide.halfValue pair.2 column).satisfies
        operator value options.ignoreCase) := by
    intro pair hpair
    obtain ⟨hl, hr⟩ := mem_of_mem_pairs hpair
    exact accepts_mergePair hqualified (fun row h => hleft row (hl row h))
      (fun row h => hright row (hr row h)) hcolumn operator value options
  have hmissing : ∀ pair ∈ pairs .left l left.rows r right.rows, pair.2 = none →
      filter.isAccepted (mergePair l r pair) = false := by
    intro pair hpair hnone
    -- the cell of a missing half is empty, and no comparison holds of it
    rw [Filter.isAccepted, hverdict .left pair hpair, hnone,
      Value.satisfies_of_null operator options.ignoreCase (.inl rfl)]
  have htables (kind : JoinKind) : tables kind leftName left leftKey rightName right rightKey =
      (rows kind l left.rows r right.rows).map
        (Table.mk (left.columns.map l.qualify ++ right.columns.map r.qualify)) := rfl
  rcases keep_rows_left left.rows right.rows filter
    (fun kind pair hpair => ⟨_, hverdict kind pair hpair⟩) hmissing with
    ⟨e, houter, hinner⟩ | ⟨outerRows, innerRows, kept, houter, hinner, hkept⟩
  · left
    refine ⟨e, (htables .left).trans ?_, (htables .inner).trans ?_⟩
    · rw [houter]
      rfl
    · rw [hinner]
      rfl
  · right
    have houter' := htables .left
    have hinner' := htables .inner
    rw [houter] at houter'
    rw [hinner] at hinner'
    exact ⟨_, _, kept, houter', hinner', hkept⟩

/-- Of two people one has a pet: a condition on the name of the pet drops the other one. -/
theorem keep_left_eq_keep_inner_of_pets :
    let people : Table := ⟨["id"], [.ofList [("id", .int64 1)], .ofList [("id", .int64 2)]]⟩
    let pets : Table := ⟨["owner", "name"], [.ofList [("name", .text "Rex"), ("owner", .text "1")]]⟩
    let l : JoinSide := ⟨"people", people.columns, "id"⟩
    let r : JoinSide := ⟨"pets", pets.columns, "owner"⟩
    let outer := tables .left "people" people "id" "pets" pets "owner"
    let inner := tables .inner "people" people "id" "pets" pets "owner"
    let filter : Filter := ⟨some (.compare ⟨"pets.name", .ne, .text "Tom"⟩), {}⟩
    ((pairs .left l people.rows r pets.rows).length = 2 ∧
      (pairs .inner l people.rows r pets.rows).length = 1) ∧
    ((∃ e, outer = .error e ∧ inner = .error e) ∨
      ∃ outerTable innerTable kept, outer = .ok outerTable ∧ inner = .ok innerTable ∧
        filter.keep outerTable.rows = .ok kept ∧ filter.keep innerTable.rows = .ok kept) := by
  intro people pets l r outer inner filter
  have hdistinct : (people.columns.map ("people" ++ "." ++ ·) ++
      pets.columns.map ("pets" ++ "." ++ ·)).Nodup := by decide +kernel
  have hpeople : people.Regular := by
    intro row hrow
    exact .of_eq ((by decide +kernel : people.Ordered) row hrow)
  have hpets : pets.Regular := by
    intro row hrow
    obtain rfl := List.mem_singleton.mp hrow
    decide +kernel
  refine ⟨by decide +kernel, ?_⟩
  exact keep_left_eq_keep_inner "people" people "id" "pets" pets "owner" "name" .ne (.text "Tom") {}
    hpeople hpets hdistinct (by decide)

end Join

end TableQuery
