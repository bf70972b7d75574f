import TableQuery.Proofs.Query.Groups
import TableQuery.Proofs.Value.GroupKey

/-!
# Groups as classes of rows

Rows agree when the fields that they are grouped by hold identical values. Grouping puts the rows
that agree together, the classes in the order in which they first appear and the rows of a class in
their order, and gives one row for each class (`aggregateRows_summarises`).

Classes are found through composite keys, so this needs that a key determines the values it is made
of. It does while no text holds the separator (`Value.groupKeys_eq_iff`). What an entry of the
select list shows is found in the row of a group under the name of the entry: two aggregates of one
name have one value (`AggregateCall.value_eq_of_toText`), and a field must not have the name of an
aggregate.
-/

namespace TableQuery

/-! ## Names of aggregates -/

namespace AggregateCall

variable {call other : AggregateCall} {group : List Row} {value : Value}

/-- The texts of two calls are equal exactly when their functions and the texts of their arguments
are. -/
lemma toText_eq_iff : call.toText = other.toText ↔
    call.function = other.function ∧ call.argument.toText = other.argument.toText := by
  have hopening (function : AggregateFunction) : '(' ∉ function.name.toList := by
    cases function <;> decide
  have hname {function function' : AggregateFunction} :
      function.name = function'.name ↔ function = function' := by
    cases function <;> cases function' <;> decide
  have hchars (call : AggregateCall) : call.toText.toList =
      call.function.name.toList ++ '(' :: (call.argument.toText.toList ++ [')']) := by
    simp [toText]
  rw [← String.toList_inj, hchars, hchars, Text.append_mark_inj (hopening _) (hopening _),
    List.append_left_inj, String.toList_inj, String.toList_inj, hname]

/-- Only the number of rows is taken of whole rows. -/
lemma function_of_star (h : call.argument = .star) (hvalue : call.value group = .ok value) :
    call.function = .count := by
  by_contra hne
  rw [AggregateCall.value, h] at hvalue
  simp only [if_neg hne] at hvalue
  cases hvalue

/-- COUNT is the number of rows, whatever it is taken of. -/
lemma value_of_count (h : call.function = .count) (hvalue : call.value group = .ok value) :
    value = .int64 (Int64.ofNat group.length) := by
  obtain ⟨function, argument⟩ := call
  obtain rfl : function = .count := h
  cases argument with
  | star => exact (Except.ok.inj hvalue).symm
  | column name =>
    obtain ⟨values, -, hcount⟩ := Result.bind_eq_ok hvalue
    exact (Except.ok.inj hcount).symm

/-- Aggregates of one name have one value. -/
lemma value_eq_of_toText {value' : Value} (h : call.toText = other.toText)
    (hvalue : call.value group = .ok value) (hother : other.value group = .ok value') :
    value = value' := by
  obtain ⟨hfunction, hargument⟩ := toText_eq_iff.mp h
  by_cases hcount : call.function = .count
  · rw [value_of_count hcount hvalue, value_of_count (hfunction ▸ hcount) hother]
  · -- both are taken of the column of one name
    obtain ⟨function, argument⟩ := call
    obtain ⟨function', argument'⟩ := other
    cases argument with
    | star => exact absurd (function_of_star rfl hvalue) hcount
    | column name =>
      cases argument' with
      | star => exact absurd (hfunction.trans (function_of_star rfl hother)) hcount
      | column name' =>
        obtain rfl : function = function' := hfunction
        obtain rfl : name = name' := hargument
        rw [hvalue] at hother
        exact Except.ok.inj hother

end AggregateCall

/-! ## Classes -/

namespace Row

/-- Whether the fields hold identical values in two rows. -/
def Agrees (groupBy : List String) (row other : Row) : Prop :=
  ∀ field ∈ groupBy, (row.value field).Identical (other.value field)

/-- Whether two rows agree can be computed. -/
instance (groupBy : List String) (row other : Row) : Decidable (row.Agrees groupBy other) :=
  inferInstanceAs (Decidable (∀ _ ∈ _, _))

/-- Groups are the classes of the rows that agree. Each has the rows that agree with its first one,
in their order; no two have rows that agree; together they have all rows; and they come in the order
in which their first rows appear. -/
structure Classes (groupBy : List String) (rows : List Row) (groups : List (List Row)) : Prop where
  members : ∀ group ∈ groups, ∃ first rest, group = first :: rest ∧
    group = rows.filter fun row => row.Agrees groupBy first
  apart : groups.Pairwise fun group later =>
    ∀ row ∈ group, ∀ other ∈ later, ¬ row.Agrees groupBy other
  flatten_perm : groups.flatten.Perm rows
  ordered : groups.Pairwise fun group later =>
    rows.findIdx (· ∈ group) < rows.findIdx (· ∈ later)

variable {groupBy : List String} {row other : Row} {rows : List Row}

/-- Without separators in their texts, rows agree when they have one key. -/
lemma agrees_iff (hrow : ∀ field ∈ groupBy, (row.value field).Unseparated)
    (hother : ∀ field ∈ groupBy, (other.value field).Unseparated) :
    row.Agrees groupBy other ↔
      Value.groupKeys (groupBy.map row.value) = Value.groupKeys (groupBy.map other.value) := by
  have hvalues {row : Row} (h : ∀ field ∈ groupBy, (row.value field).Unseparated) :
      ∀ v ∈ groupBy.map row.value, v.Unseparated := List.forall_mem_map.mpr h
  rw [Value.groupKeys_eq_iff (hvalues hrow) (hvalues hother), List.forall₂_map_left_iff,
    List.forall₂_map_right_iff, List.forall₂_same]
  rfl

/-- The rows with the key of each first row of a key are classes, if rows of one key agree. -/
lemma classes_keepNew {key : Row → String}
    (hkey : ∀ row ∈ rows, ∀ other ∈ rows, row.Agrees groupBy other ↔ key row = key other) :
    Classes groupBy rows ((Index.keepNew key ∅ rows).1.map fun first =>
      rows.filter fun row => key row == key first) where
  members := by
    intro group hgroup
    obtain ⟨first, hfirst, rfl⟩ := List.mem_map.mp hgroup
    obtain ⟨rest, hrest⟩ := List.head?_eq_some_iff.mp (Index.head?_filter_of_mem_keepNew hfirst)
    refine ⟨first, rest, hrest, List.filter_congr fun row hrow => ?_⟩
    rw [Bool.eq_iff_iff, beq_iff_eq, decide_eq_true_iff,
      hkey row hrow first (Index.mem_of_mem_keepNew hfirst)]
  apart := by
    refine List.pairwise_map.mpr ((Index.pairwise_keepNew key ∅ rows).imp fun hlt row hrow other
      hother hagrees => ?_)
    obtain ⟨hrow, hfirst⟩ := List.mem_filter.mp hrow
    obtain ⟨hother, hlater⟩ := List.mem_filter.mp hother
    rw [← eq_of_beq hfirst, ← eq_of_beq hlater, (hkey row hrow other hother).mp hagrees] at hlt
    exact absurd hlt (Nat.lt_irrefl _)
  flatten_perm := by
    have hperm := Index.flatMap_keepNew_perm key ∅ rows
    rw [List.filter_eq_self.mpr (fun row _ => by simp)] at hperm
    exact hperm
  ordered := by
    -- a class stands at the place of its first row, which is the one that was kept
    have hfound (first : Row) : rows.findIdx (· ∈ rows.filter fun row => key row == key first) =
        rows.findIdx fun row => key row == key first := by
      refine Index.findIdx_congr fun row hrow => ?_
      rw [Bool.eq_iff_iff, decide_eq_true_iff, List.mem_filter, and_iff_right hrow]
    refine List.pairwise_map.mpr ((Index.pairwise_keepNew key ∅ rows).imp fun hlt => ?_)
    rw [hfound, hfound]
    exact hlt

end Row

/-! ## Rows of classes -/

/-- A row shows the group fields of a group, by a value identical to that of each of its rows, and
the values of aggregates over it. -/
structure Row.Summarises (groupBy : List String) (fields : List SelectItem) (group : List Row)
    (row : Row) : Prop where
  shows_fields : ∀ field ∈ groupBy, .column field ∈ fields →
    ∃ value, row.get? field = some value ∧ ∀ member ∈ group, (member.value field).Identical value
  shows_aggregates : ∀ call, .aggregate call ∈ fields →
    ∃ value, row.get? call.toText = some value ∧ call.value group = .ok value

section Summaries

variable {groupBy : List String} {fields : List SelectItem} {rows : List Row}

/-- The cells of a group have the names of the items that are shown. -/
lemma names_shownCells (group : List Row) :
    Named.names (shownCells groupBy fields group) =
      (fields.filter (·.isShown groupBy)).map SelectItem.name :=
  List.map_map

section Names

variable {group : List Row}
  (hnames : ∀ call, .aggregate call ∈ fields → call.toText ∉ groupBy)
  (hvalues : ∀ call, .aggregate call ∈ fields → ∃ value, call.value group = .ok value)

include hnames hvalues

/-- Entries of one name show one value, if no group field has the name of an aggregate. -/
lemma groupValue_eq_of_name {item other : SelectItem} (hitem : item ∈ fields)
    (hshown : item.isShown groupBy = true) (hother : other ∈ fields)
    (hothershown : other.isShown groupBy = true) (h : item.name = other.name) :
    item.groupValue group = other.groupValue group := by
  cases item with
  | star => cases hshown
  | column name =>
    cases other with
    | star => cases hothershown
    | column name' =>
      obtain rfl : name = name' := h
      rfl
    | aggregate call =>
      obtain rfl : name = call.toText := h
      exact absurd (List.contains_iff_mem.mp hshown) (hnames call hother)
  | aggregate call =>
    cases other with
    | star => cases hothershown
    | column name =>
      obtain rfl : call.toText = name := h
      exact absurd (List.contains_iff_mem.mp hothershown) (hnames call hitem)
    | aggregate call' =>
      obtain ⟨value, hvalue⟩ := hvalues call hitem
      obtain ⟨value', hvalue'⟩ := hvalues call' hother
      rw [SelectItem.groupValue, SelectItem.groupValue, hvalue, hvalue']
      exact AggregateCall.value_eq_of_toText h hvalue hvalue'

/-- What an entry shows is found under its name. -/
lemma get?_shownCells {item : SelectItem} (hitem : item ∈ fields)
    (hshown : item.isShown groupBy = true) :
    (Row.ofList (shownCells groupBy fields group)).get? item.name =
      some (item.groupValue group) := by
  refine Row.get?_ofList_eq ?_ ?_
  · rw [names_shownCells]
    exact List.mem_map_of_mem (List.mem_filter.mpr ⟨hitem, hshown⟩)
  · intro cell hcell hname
    obtain ⟨other, hother, rfl⟩ := List.mem_map.mp hcell
    obtain ⟨hother, hothershown⟩ := List.mem_filter.mp hother
    exact groupValue_eq_of_name hnames hvalues hother hothershown hitem hshown hname

/-- The cells that are shown of a class of rows that agree make up a row that summarises it. -/
lemma summarises_shownCells {first : Row} (hfirst : group.head? = some first)
    (hagree : ∀ row ∈ group, row.Agrees groupBy first) :
    (Row.ofList (shownCells groupBy fields group)).Summarises groupBy fields group where
  shows_fields := by
    intro field hfield hitem
    have hcell := get?_shownCells hnames hvalues hitem (List.contains_iff_mem.mpr hfield)
    rw [SelectItem.groupValue, hfirst] at hcell
    exact ⟨first.value field, hcell, fun row hrow => hagree row hrow field hfield⟩
  shows_aggregates := by
    intro call hitem
    obtain ⟨value, hvalue⟩ := hvalues call hitem
    have hcell := get?_shownCells hnames hvalues hitem rfl
    rw [SelectItem.groupValue, hvalue] at hcell
    exact ⟨value, hcell, hvalue⟩

end Names

/-- The sum of the lengths of groups is that of their counts, up to overflow of a count. -/
lemma sum_counts (groups : List (List Row)) :
    let counts := groups.map fun group => Int64.ofNat group.length
    Int64.ofInt (counts.map Int64.toInt).sum = Int64.ofNat groups.flatten.length ∧
    (groups.flatten.length < 2 ^ 63 → (counts.map Int64.toInt).sum = groups.flatten.length) := by
  induction groups with
  | nil => exact ⟨rfl, fun _ => rfl⟩
  | cons group groups ih =>
    obtain ⟨hwrapped, hexact⟩ := ih
    simp only [List.map_cons, List.sum_cons, List.flatten_cons, List.length_append]
    constructor
    · rw [Int64.ofInt_add, hwrapped, Int64.ofInt_toInt, Int64.ofNat_add]
    · intro hlength
      rw [hexact (Nat.lt_of_le_of_lt (Nat.le_add_left ..) hlength),
        Int64.toInt_ofNat_of_lt (Nat.lt_of_le_of_lt (Nat.le_add_right ..) hlength), Nat.cast_add]

/-- Rows are grouped into their classes. -/
lemma groupRows_classes (hne : groupBy ≠ []) (hresolves : ∀ row ∈ rows, row.Resolves groupBy)
    (hunseparated : ∀ row ∈ rows, ∀ field ∈ groupBy, (row.value field).Unseparated) :
    ∃ groups, groupRows groupBy rows = .ok groups ∧ Row.Classes groupBy rows groups := by
  refine ⟨_, groupRows_eq hne hresolves, Row.classes_keepNew fun row hrow other hother => ?_⟩
  exact Row.agrees_iff (hunseparated row hrow) (hunseparated other hother)

/-- The row of a class shows what the class has in common, if no aggregate fails. -/
lemma groupRow_summarises {groups : List (List Row)} (hclasses : Row.Classes groupBy rows groups)
    (hresolves : ∀ row ∈ rows, row.Resolves groupBy)
    (hnames : ∀ call, .aggregate call ∈ fields → call.toText ∉ groupBy)
    (hvalues : ∀ first ∈ rows, ∀ call, .aggregate call ∈ fields →
      ∃ value, call.value (rows.filter fun row => row.Agrees groupBy first) = .ok value)
    {group : List Row} (hgroup : group ∈ groups) :
    groupRow groupBy fields group = .ok (.ofList (shownCells groupBy fields group)) ∧
      (Row.ofList (shownCells groupBy fields group)).Summarises groupBy fields group := by
  obtain ⟨first, rest, hcons, hfilter⟩ := hclasses.members group hgroup
  have hfirst : group.head? = some first := by rw [hcons, List.head?_cons]
  have hagree : ∀ row ∈ group, row ∈ rows ∧ row.Agrees groupBy first := by
    intro row hrow
    rw [hfilter, List.mem_filter, decide_eq_true_iff] at hrow
    exact hrow
  have hmem : first ∈ rows := (hagree first (List.mem_of_mem_head? hfirst)).1
  have hvalues' := hfilter ▸ hvalues first hmem
  exact ⟨groupRow_eq_ofList hfirst (hresolves first hmem) hvalues',
    summarises_shownCells hnames hvalues' hfirst fun row hrow => (hagree row hrow).2⟩

/-- Rows that are grouped by fields which all of them resolve, by values without separators, give
one row for each class of rows that agree. -/
theorem aggregateRows_summarises (groupBy : List String) (fields : List SelectItem)
    (rows : List Row) (hne : groupBy ≠ []) (hresolves : ∀ row ∈ rows, row.Resolves groupBy)
    (hunseparated : ∀ row ∈ rows, ∀ field ∈ groupBy, (row.value field).Unseparated)
    (hnames : ∀ call, .aggregate call ∈ fields → call.toText ∉ groupBy)
    (hvalues : ∀ first ∈ rows, ∀ call, .aggregate call ∈ fields →
      ∃ value, call.value (rows.filter fun row => row.Agrees groupBy first) = .ok value) :
    ∃ groups out, groupRows groupBy rows = .ok groups ∧
      aggregateRows groupBy fields rows = .ok out ∧ Row.Classes groupBy rows groups ∧
      List.Forall₂ (Row.Summarises groupBy fields) groups out ∧
      (.aggregate ⟨.count, .star⟩ ∈ fields → ∃ counts : List Int64,
        out.map (fun row => row.get? "COUNT(*)") = counts.map (fun n => some (.int64 n)) ∧
        Int64.ofInt (counts.map Int64.toInt).sum = Int64.ofNat rows.length ∧
        (rows.length < 2 ^ 63 → (counts.map Int64.toInt).sum = rows.length)) ∧
      ∃ columns, ∀ row ∈ out, row.columns = columns := by
  obtain ⟨groups, hgroups, hclasses⟩ := groupRows_classes hne hresolves hunseparated
  have hrow (group : List Row) (hgroup : group ∈ groups) :=
    groupRow_summarises hclasses hresolves hnames hvalues hgroup
  let summary (group : List Row) : Row := .ofList (shownCells groupBy fields group)
  refine ⟨groups, groups.map summary, hgroups, ?_, hclasses, ?_, ?_, ?_⟩
  · rw [aggregateRows, hgroups]
    exact Result.mapM_eq_ok fun group hgroup => (hrow group hgroup).1
  · rw [List.forall₂_map_right_iff, List.forall₂_same]
    exact fun group hgroup => (hrow group hgroup).2
  · intro hcount
    have hlength : groups.flatten.length = rows.length := hclasses.flatten_perm.length_eq
    rw [← hlength]
    refine ⟨groups.map fun group => Int64.ofNat group.length, ?_, sum_counts groups⟩
    rw [List.map_map, List.map_map]
    refine List.map_congr_left fun group hgroup => ?_
    obtain ⟨value, hcell, hvalue⟩ := (hrow group hgroup).2.shows_aggregates _ hcount
    rw [AggregateCall.value_of_count rfl hvalue] at hcell
    exact hcell
  · refine ⟨(summary []).columns, fun row hmem => ?_⟩
    obtain ⟨group, -, rfl⟩ := List.mem_map.mp hmem
    refine Row.columns_foldl_insert rfl ?_
    rw [names_shownCells, names_shownCells]

/-- Sales by shop, where the text `1`, the integer `1` and an empty cell are three shops. -/
theorem aggregateRows_summarises_of_sales :
    let fields : List SelectItem :=
      [.aggregate ⟨.count, .star⟩, .column "shop", .aggregate ⟨.sum, .column "x"⟩]
    let rows : List Row := [.ofList [("shop", .text "1"), ("x", .int64 2)],
      .ofList [("shop", .int64 1), ("x", .text " 3 ")], .ofList [("shop", .text "1"), ("x", .null)],
      .ofList [("x", .int64 4), ("shop", .null)]]
    (["shop"] ≠ [] ∧ (∀ row ∈ rows, row.Resolves ["shop"]) ∧
      (∀ row ∈ rows, ∀ field ∈ ["shop"], (row.value field).Unseparated) ∧
      (∀ call, .aggregate call ∈ fields → call.toText ∉ ["shop"]) ∧
      ∀ first ∈ rows, ∀ call, .aggregate call ∈ fields →
        ∃ value, call.value (rows.filter fun row => row.Agrees ["shop"] first) = .ok value) ∧
    ∃ groups out, groupRows ["shop"] rows = .ok groups ∧
      aggregateRows ["shop"] fields rows = .ok out ∧ Row.Classes ["shop"] rows groups ∧
      List.Forall₂ (Row.Summarises ["shop"] fields) groups out ∧
      (∃ counts : List Int64,
        out.map (fun row => row.get? "COUNT(*)") = counts.map (fun n => some (.int64 n)) ∧
        (counts.map Int64.toInt).sum = 4) ∧
      ∃ columns, ∀ row ∈ out, row.columns = columns := by
  intro fields rows
  have hcalls {call : AggregateCall} (h : .aggregate call ∈ fields) :
      call ∈ [⟨.count, .star⟩, ⟨.sum, .column "x"⟩] := by simpa [fields] using h
  have hresolves : ∀ row ∈ rows, row.Resolves ["shop"] := by decide
  have hunseparated : ∀ row ∈ rows, ∀ field ∈ ["shop"], (row.value field).Unseparated := by
    decide
  have hnames : ∀ call, .aggregate call ∈ fields → call.toText ∉ ["shop"] := by
    intro call hcall
    exact (by decide : ∀ call ∈ [⟨.count, .star⟩, ⟨.sum, .column "x"⟩],
      AggregateCall.toText call ∉ ["shop"]) call (hcalls hcall)
  have hvalues : ∀ first ∈ rows, ∀ call, .aggregate call ∈ fields →
      ∃ value, call.value (rows.filter fun row => row.Agrees ["shop"] first) = .ok value := by
    intro first hfirst call hcall
    have hsome : ∀ first ∈ rows, ∀ call ∈ [⟨.count, .star⟩, ⟨.sum, .column "x"⟩],
        (AggregateCall.value call
          (rows.filter fun row => row.Agrees ["shop"] first)).toOption.isSome = true := by decide
    obtain ⟨value, hvalue⟩ :=
      Option.isSome_iff_exists.mp (hsome first hfirst call (hcalls hcall))
    exact ⟨value, Result.eq_ok_of_toOption hvalue⟩
  refine ⟨⟨by decide, hresolves, hunseparated, hnames, hvalues⟩, ?_⟩
  obtain ⟨groups, out, hgroups, hout, hclasses, hsummaries, hcounts, hcolumns⟩ :=
    aggregateRows_summarises ["shop"] fields rows (by decide) hresolves hunseparated hnames hvalues
  obtain ⟨counts, hcells, -, hsum⟩ := hcounts (by simp [fields])
  exact ⟨groups, out, hgroups, hout, hclasses, hsummaries, ⟨counts, hcells, hsum (by decide)⟩,
    hcolumns⟩

end Summaries

end TableQuery
