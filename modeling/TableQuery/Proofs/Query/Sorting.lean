import Mathlib.Data.List.Basic
import Mathlib.Order.Compare
import TableQuery.Proofs.Row
import TableQuery.Proofs.Value.Order

/-!
# Sorted rows

Sorting looks up every key in every row and fails if one of them cannot be resolved. Otherwise it
reorders the rows: they stand in the lexicographic order of their keys (`Row.InOrder`), and rows
that are level on all keys keep their order (`sortRows_sorts`).

The order of two values need not be transitive, so this is asked of the values that occur, key by
key. It carries over to the order by several keys, and merge sort needs it of the sorted rows only.
-/

namespace TableQuery

/-! ## Sorting by a comparison that is transitive on the items -/

section MergeSort

variable {α : Type} {compared : α → α → Ordering} {items : List α}

/-- Whether a comparison is transitive among the items of a list, and turns around when its sides
are swapped. -/
abbrev TransitiveAmong (compared : α → α → Ordering) (items : List α) : Prop :=
  Std.TransCmp fun a b : {item // item ∈ items} => compared a.1 b.1

/-- Sorting items as members of their list sorts the items. -/
lemma map_val_mergeSort_attach :
    (items.attach.mergeSort fun a b => compared a.1 b.1 != .gt).map Subtype.val =
      items.mergeSort fun a b => compared a b != .gt := by
  rw [List.map_mergeSort (s := fun a b => compared a b != .gt) fun _ _ _ _ => rfl,
    List.attach_map_subtype_val]

/-- Not to stand after one another is transitive among the items. -/
lemma ne_gt_trans (h : TransitiveAmong compared items) (a b c : {item // item ∈ items})
    (hab : (compared a.1 b.1 != .gt) = true) (hbc : (compared b.1 c.1 != .gt) = true) :
    (compared a.1 c.1 != .gt) = true := by
  rw [bne_iff_ne, ne_eq, Ordering.ne_gt_iff_isLE] at hab hbc ⊢
  exact h.isLE_trans hab hbc

/-- Of two items one does not stand after the other. -/
lemma ne_gt_total (h : TransitiveAmong compared items) (a b : {item // item ∈ items}) :
    (compared a.1 b.1 != .gt || compared b.1 a.1 != .gt) = true := by
  rw [h.eq_swap]
  cases compared b.1 a.1 <;> rfl

/-- Sorted items stand in order. -/
lemma pairwise_mergeSort_among (h : TransitiveAmong compared items) :
    (items.mergeSort fun a b => compared a b != .gt).Pairwise fun a b => compared a b ≠ .gt := by
  rw [← map_val_mergeSort_attach, List.pairwise_map]
  refine (List.pairwise_mergeSort (ne_gt_trans h) (ne_gt_total h) items.attach).imp ?_
  intro a b hab
  exact bne_iff_ne.mp hab

/-- Items that are level with one another keep their order. -/
lemma filter_mergeSort_among (h : TransitiveAmong compared items) (kind : α → Bool)
    (hlevel : ∀ a ∈ items, ∀ b ∈ items, kind a = true → kind b = true → compared a b = .eq) :
    (items.mergeSort fun a b => compared a b != .gt).filter kind = items.filter kind := by
  let isKind (item : {item // item ∈ items}) : Bool := kind item.1
  have hpairwise : (items.attach.filter isKind).Pairwise fun a b =>
      (compared a.1 b.1 != .gt) = true := by
    refine List.pairwise_of_forall_mem_list fun a ha b hb => ?_
    rw [hlevel a.1 a.2 b.1 b.2 (List.mem_filter.mp ha).2 (List.mem_filter.mp hb).2]
    rfl
  have hsublist := (List.sublist_mergeSort (ne_gt_trans h) (ne_gt_total h) hpairwise
    List.filter_sublist).filter isKind
  have hlength := ((List.mergeSort_perm items.attach fun a b =>
    compared a.1 b.1 != .gt).filter isKind).length_eq
  rw [List.filter_filter] at hsublist
  simp only [Bool.and_self] at hsublist
  have heq := hsublist.eq_of_length hlength.symm
  rw [← map_val_mergeSort_attach, List.filter_map]
  conv_rhs => rw [← List.attach_map_subtype_val items, List.filter_map]
  exact congrArg (List.map Subtype.val) heq.symm

end MergeSort

/-! ## The order of rows -/

namespace OrderKey

variable {nullsFirst : Bool} {key : OrderKey} {a b : Value}

/-- Whether a value comes before another one under a sort key: it is smaller, or greater if the key
is descending. -/
def Precedes (key : OrderKey) (nullsFirst : Bool) (a b : Value) : Prop :=
  match key.direction with
  | .ascending => a.sortCompare nullsFirst b = .lt
  | .descending => b.sortCompare nullsFirst a = .lt

/-- What a key compares as smaller comes before, in the direction of the key. -/
lemma precedes_of_compare (h : key.compare nullsFirst a b = .lt) : key.Precedes nullsFirst a b := by
  unfold compare at h
  unfold Precedes
  cases hdirection : key.direction with
  | ascending => simpa only [hdirection] using h
  | descending =>
    simp only [hdirection] at h
    dsimp only
    rw [Value.sortCompare_swap, h]

/-- Values are level under a key, in either direction, exactly when they are level in the order of
sorting. -/
lemma compare_eq_eq_iff :
    key.compare nullsFirst a b = .eq ↔ a.sortCompare nullsFirst b = .eq := by
  unfold compare
  cases key.direction with
  | ascending => rfl
  | descending => cases a.sortCompare nullsFirst b <;> simp

/-- The order under a key turns around when its sides are swapped. -/
lemma compare_swap (key : OrderKey) (nullsFirst : Bool) (a b : Value) :
    key.compare nullsFirst a b = (key.compare nullsFirst b a).swap := by
  unfold compare
  rw [Value.sortCompare_swap nullsFirst b a]
  cases key.direction <;> rfl

/-- Whether the order of sorting is transitive on the values that a key has in some rows. -/
def TransitiveOn (key : OrderKey) (nullsFirst : Bool) (rows : List Row) : Prop :=
  ∀ a ∈ rows, ∀ b ∈ rows, ∀ c ∈ rows,
    (a.value key.field).sortCompare nullsFirst (b.value key.field) ≠ .gt →
    (b.value key.field).sortCompare nullsFirst (c.value key.field) ≠ .gt →
    (a.value key.field).sortCompare nullsFirst (c.value key.field) ≠ .gt

/-- Whether the order of sorting is transitive on the values of a key can be computed. -/
instance (key : OrderKey) (nullsFirst : Bool) (rows : List Row) :
    Decidable (key.TransitiveOn nullsFirst rows) :=
  inferInstanceAs (Decidable (∀ a ∈ rows, ∀ b ∈ rows, ∀ c ∈ rows, _ → _ → _))

/-- A key orders the rows by its values, in its own direction. -/
lemma TransitiveOn.among {rows : List Row} (h : key.TransitiveOn nullsFirst rows) :
    TransitiveAmong
      (fun row other => key.compare nullsFirst (row.value key.field) (other.value key.field))
      rows where
  eq_swap := key.compare_swap nullsFirst _ _
  isLE_trans {a b c} hab hbc := by
    rw [← Ordering.ne_gt_iff_isLE] at hab hbc ⊢
    have hforward := h a.1 a.2 b.1 b.2 c.1 c.2
    have hbackward := h c.1 c.2 b.1 b.2 a.1 a.2
    unfold compare at hab hbc ⊢
    cases hdirection : key.direction with
    | ascending =>
      simp only [hdirection] at hab hbc ⊢
      exact hforward hab hbc
    | descending =>
      simp only [hdirection, ← Value.sortCompare_swap] at hab hbc ⊢
      exact hbackward hbc hab

end OrderKey

namespace Row

variable {nullsFirst : Bool}

/-- Whether a row may stand before another one: it comes before it under the first key on which the
two are not level, if there is such a key. -/
inductive InOrder (nullsFirst : Bool) (row other : Row) : List OrderKey → Prop
  | level : InOrder nullsFirst row other []
  | first {key : OrderKey} {keys : List OrderKey}
      (h : key.Precedes nullsFirst (row.value key.field) (other.value key.field)) :
      InOrder nullsFirst row other (key :: keys)
  | later {key : OrderKey} {keys : List OrderKey}
      (h : (row.value key.field).sortCompare nullsFirst (other.value key.field) = .eq)
      (rest : InOrder nullsFirst row other keys) : InOrder nullsFirst row other (key :: keys)

/-- Whether two rows are level on all of some keys. -/
def Level (keys : List OrderKey) (nullsFirst : Bool) (row other : Row) : Prop :=
  ∀ key ∈ keys, (row.value key.field).sortCompare nullsFirst (other.value key.field) = .eq

/-- Whether two rows are level can be computed. -/
instance (keys : List OrderKey) (nullsFirst : Bool) (row other : Row) :
    Decidable (row.Level keys nullsFirst other) :=
  inferInstanceAs (Decidable (∀ key ∈ keys, _))

/-- The order of two rows by some keys. -/
def compareBy (keys : List OrderKey) (nullsFirst : Bool) (row other : Row) : Ordering :=
  compareKeys nullsFirst keys (keys.map fun key => row.value key.field)
    (keys.map fun key => other.value key.field)

/-- The first key decides, and the others where it does not. -/
lemma compareBy_cons (key : OrderKey) (keys : List OrderKey) (nullsFirst : Bool)
    (row other : Row) :
    row.compareBy (key :: keys) nullsFirst other =
      (key.compare nullsFirst (row.value key.field) (other.value key.field)).then
        (row.compareBy keys nullsFirst other) :=
  rfl

/-- Rows that the keys do not compare the other way around stand in order. -/
lemma inOrder_of_compareBy {keys : List OrderKey} {row other : Row}
    (h : row.compareBy keys nullsFirst other ≠ .gt) : row.InOrder nullsFirst other keys := by
  induction keys with
  | nil => exact .level
  | cons key keys ih =>
    rw [compareBy_cons] at h
    cases horder : key.compare nullsFirst (row.value key.field) (other.value key.field) with
    | lt => exact .first (OrderKey.precedes_of_compare horder)
    | eq =>
      rw [horder] at h
      exact .later (OrderKey.compare_eq_eq_iff.mp horder) (ih h)
    | gt =>
      rw [horder] at h
      exact absurd rfl h

/-- The keys compare two rows as equal exactly when these are level on all of them. -/
lemma compareBy_eq_eq_iff {keys : List OrderKey} {row other : Row} :
    row.compareBy keys nullsFirst other = .eq ↔ row.Level keys nullsFirst other := by
  induction keys with
  | nil => simp [compareBy, compareKeys, Level]
  | cons key keys ih =>
    rw [compareBy_cons, Ordering.then_eq_eq, OrderKey.compare_eq_eq_iff, ih]
    simp [Level]

/-- Keys that order the rows one by one order them lexicographically. -/
lemma transitiveAmong_compareBy {keys : List OrderKey} {rows : List Row}
    (h : ∀ key ∈ keys, key.TransitiveOn nullsFirst rows) :
    TransitiveAmong (compareBy keys nullsFirst) rows := by
  induction keys with
  | nil => exact { eq_swap := rfl, isLE_trans := fun _ _ => rfl }
  | cons key keys ih =>
    have hkey := (h key List.mem_cons_self).among
    have hkeys := ih fun other hother => h other (List.mem_cons_of_mem key hother)
    exact inferInstanceAs (Std.TransCmp (compareLex
      (fun a b : {row // row ∈ rows} =>
        key.compare nullsFirst (a.1.value key.field) (b.1.value key.field))
      fun a b => compareBy keys nullsFirst a.1 b.1))

end Row

/-! ## Sorting rows -/

/-- Rows that resolve all keys are sorted by them. -/
lemma sortRows_eq {orderBy : List OrderKey} {rows : List Row} (nullsFirst : Bool)
    (h : ∀ row ∈ rows, row.Resolves (orderBy.map OrderKey.field)) :
    sortRows orderBy nullsFirst rows =
      .ok (rows.mergeSort fun row other => row.compareBy orderBy nullsFirst other != .gt) := by
  let keysOf (row : Row) : List Value := orderBy.map fun key => row.value key.field
  have hkeys : (rows.mapM fun row => row.lookupAll (orderBy.map OrderKey.field)) =
      .ok (rows.map keysOf) := by
    refine Result.mapM_eq_ok fun row hrow => ?_
    rw [(h row hrow).lookupAll_eq, List.map_map]
    rfl
  have hsorted : (((rows.map keysOf).zip rows).mergeSort fun a b =>
      compareKeys nullsFirst orderBy a.1 b.1 != .gt) =
      (rows.mergeSort fun row other => row.compareBy orderBy nullsFirst other != .gt).map
        fun row => (keysOf row, row) := by
    rw [← List.map_prod_right_eq_zip]
    symm
    exact List.map_mergeSort (f := fun row => (keysOf row, row))
      (s := fun a b => compareKeys nullsFirst orderBy a.1 b.1 != .gt) fun _ _ _ _ => rfl
  rw [sortRows, hkeys]
  refine (congrArg (fun sorted => Except.ok (sorted.map Prod.snd)) hsorted).trans ?_
  rw [List.map_map]
  exact congrArg Except.ok (List.map_id _)

/-- Sorting fails when some key cannot be looked up in some row, and only then. -/
lemma sortRows_fails_iff (orderBy : List OrderKey) (nullsFirst : Bool) (rows : List Row) :
    (∃ e, sortRows orderBy nullsFirst rows = .error e) ↔
      ∃ row ∈ rows, ∃ key ∈ orderBy, ∃ e, row.lookup key.field = .error e := by
  constructor
  · rintro ⟨e, he⟩
    by_contra hresolve
    push Not at hresolve
    have hall : ∀ row ∈ rows, row.Resolves (orderBy.map OrderKey.field) := by
      intro row hrow field hfield
      obtain ⟨key, hkey, rfl⟩ := List.mem_map.mp hfield
      cases hlookup : row.lookup key.field with
      | error e => exact absurd hlookup (hresolve row hrow key hkey e)
      | ok value => exact ⟨value, rfl⟩
    rw [sortRows_eq nullsFirst hall] at he
    cases he
  · rintro ⟨row, hrow, key, hkey, hfails⟩
    obtain ⟨e, he⟩ := Result.exists_error_of_mapM (f := fun row : Row =>
      row.lookupAll (orderBy.map OrderKey.field)) hrow
      (Result.exists_error_of_mapM (List.mem_map_of_mem hkey) hfails)
    refine ⟨e, ?_⟩
    rw [sortRows, he]
    rfl

/-- Sorting fails exactly when a key cannot be resolved in some row. Otherwise, if the order of the
values that occur is transitive for each key, the rows are reordered lexicographically, and those
that are level on all keys keep their order. -/
theorem sortRows_sorts (orderBy : List OrderKey) (nullsFirst : Bool) (rows : List Row) :
    ((∃ e, sortRows orderBy nullsFirst rows = .error e) ↔
      ∃ row ∈ rows, ∃ key ∈ orderBy, ∃ e, row.lookup key.field = .error e) ∧
    ((∀ row ∈ rows, row.Resolves (orderBy.map OrderKey.field)) →
      (∀ key ∈ orderBy, key.TransitiveOn nullsFirst rows) →
      ∃ sorted, sortRows orderBy nullsFirst rows = .ok sorted ∧ sorted.Perm rows ∧
        (sorted.Pairwise fun row other => row.InOrder nullsFirst other orderBy) ∧
        ∀ row ∈ rows, (sorted.filter fun other => row.Level orderBy nullsFirst other) =
          rows.filter fun other => row.Level orderBy nullsFirst other) := by
  refine ⟨sortRows_fails_iff orderBy nullsFirst rows, fun hresolve htransitive => ?_⟩
  have hamong := Row.transitiveAmong_compareBy htransitive
  refine ⟨_, sortRows_eq nullsFirst hresolve, List.mergeSort_perm _ _, ?_, fun row hrow => ?_⟩
  · exact (pairwise_mergeSort_among hamong).imp Row.inOrder_of_compareBy
  · refine filter_mergeSort_among hamong _ fun a ha b hb hleft hright => ?_
    have hrowa := Row.compareBy_eq_eq_iff.mpr (of_decide_eq_true hleft)
    have hrowb := Row.compareBy_eq_eq_iff.mpr (of_decide_eq_true hright)
    have hsame := hamong.congr_left (a := ⟨row, hrow⟩) (b := ⟨a, ha⟩) (c := ⟨b, hb⟩) hrowa
    exact hsame.symm.trans hrowb

/-- People by descending age, where the one without age comes last, and by ascending team: two of
one age and one team keep their order. -/
theorem sortRows_sorts_of_people :
    let ann := Row.ofList [("name", .text "Ann"), ("team", .text "red"), ("age", .int64 30)]
    let bob := Row.ofList [("name", .text "Bob"), ("team", .text "red"), ("age", .null)]
    let cid := Row.ofList [("name", .text "Cid"), ("team", .text "red"), ("age", .text "30")]
    let dan := Row.ofList [("name", .text "Dan"), ("team", .text "blue"), ("age", .int64 30)]
    let rows := [ann, bob, cid, dan]
    let keys : List OrderKey := [⟨"age", .descending⟩, ⟨"team", .ascending⟩]
    (∀ row ∈ rows, row.Resolves ["age", "team"]) ∧
    (∀ key ∈ keys, key.TransitiveOn true rows) ∧
    (∃ sorted, sortRows keys true rows = .ok sorted ∧ sorted.Perm rows ∧
      (sorted.Pairwise fun row other => row.InOrder true other keys) ∧
      (sorted.filter fun other => ann.Level keys true other) = [ann, cid]) ∧
    ∃ e, sortRows [⟨"size", .ascending⟩] true rows = .error e := by
  intro ann bob cid dan rows keys
  have hresolve : ∀ row ∈ rows, row.Resolves ["age", "team"] := by decide
  have htransitive : ∀ key ∈ keys, key.TransitiveOn true rows := by decide
  obtain ⟨sorted, hsorted, hperm, hpairwise, hstable⟩ :=
    (sortRows_sorts keys true rows).2 hresolve htransitive
  have hlevel : (rows.filter fun other => ann.Level keys true other) = [ann, cid] := by decide
  refine ⟨hresolve, htransitive, ⟨sorted, hsorted, hperm, hpairwise, ?_⟩, ?_⟩
  · exact (hstable ann List.mem_cons_self).trans hlevel
  · exact (sortRows_sorts _ true rows).1.mpr
      ⟨ann, List.mem_cons_self, _, List.mem_cons_self, _, rfl⟩

end TableQuery
