import TableQuery.Proofs.Sql.Conditions

/-!
# Clauses read back

Each clause of a query that is written as tokens is read back: the select list, a join with its keys
in either order, sort keys and limits.
-/

namespace TableQuery

open Sql

namespace Sql.Parser

/-! ## Limits -/

/-- A limit is read back: its digits fit 64 bits without the sign as well. -/
lemma limit_reads {i : Int64} (h : Int64.minValue < i) :
    Reads limit (writeInteger i) i anything := by
  intro rest _
  unfold writeInteger limit
  by_cases hneg : i.toInt < 0
  · have hnat : (i.toInt.natAbs : Int) = (-i).toInt := by
      rw [Literal.toInt_neg_of_ne_minValue (Int64.ne_of_lt h).symm]
      omega
    rw [if_pos hneg, hnat]
    refine ((symbol_reads "-").bind_eq _ (follows_anything _)).trans ?_
    rw [ahead_bind]
    simp only [List.head?_cons, Literal.readInt64?_writeInt, ↓reduceIte, Int64.neg_neg]
    rfl
  · have hnat : (i.toInt.natAbs : Int) = i.toInt := by omega
    rw [if_neg hneg, hnat]
    refine ((symbol_absent "-").bind_eq _ (follows_cons rfl _)).trans ?_
    rw [ahead_bind]
    simp only [List.head?_cons, Literal.readInt64?_writeInt, Bool.false_eq_true, ↓reduceIte]
    rfl

/-! ## Select lists -/

/-- A function is known by its name. -/
lemma ofName?_name (function : AggregateFunction) :
    AggregateFunction.ofName? function.name = some function := by
  cases function <;> decide +kernel

/-- The argument of an aggregate is read back, the star under COUNT alone. -/
lemma aggregateArgument_reads {call : AggregateCall}
    (h : call.argument = .star → call.function = .count) :
    Reads (aggregateArgument call.function) [call.argument.write] call.argument
      fun token => token != point := by
  intro rest hrest
  unfold aggregateArgument
  cases hargument : call.argument with
  | star =>
    refine ((symbol_reads "*").bind_eq _ (follows_anything _)).trans ?_
    rw [h hargument]
    rfl
  | column name =>
    refine ((symbol_absent "*").bind_eq _ (follows_cons rfl _)).trans ?_
    exact (fieldRef_reads _ name).bind_eq _ hrest

/-- An aggregate is read back, the name of its function included. -/
lemma aggregate_reads {call : AggregateCall} (h : call.argument = .star → call.function = .count) :
    Reads (aggregate call.function.name) (SelectItem.aggregate call).write (.aggregate call)
      anything := by
  intro rest _
  unfold aggregate
  rw [ofName?_name]
  change (skip >>= _) (plainWord call.function.name :: ([.symbol "("] ++
    ([call.argument.write] ++ ([.symbol ")"] ++ rest)))) = _
  rw [skip_bind]
  refine ((expectSymbol_reads "(" _).bind_eq _ (follows_anything _)).trans ?_
  refine ((aggregateArgument_reads h).bind_eq _ (follows_cons rfl _)).trans ?_
  exact (expectSymbol_reads ")" _).bind_eq _ (follows_anything rest)

/-- An entry of a select list is read back unless a point follows. -/
lemma selectItem_reads {item : SelectItem} (h : item.WellFormed) :
    Reads selectItem item.write item fun token => token != point := by
  intro rest hrest
  cases item with
  | star => exact h.elim
  | column name =>
    change (fieldRef "field name" >>= fun field => pure (SelectItem.column field))
      ([quotedName name] ++ rest) = _
    exact (fieldRef_reads "field name" name).bind_eq _ hrest
  | aggregate call =>
    change aggregate call.function.name
      ([plainWord call.function.name] ++ ([.symbol "("] ++
        ([call.argument.write] ++ ([.symbol ")"] ++ rest)))) = _
    exact aggregate_reads h rest (follows_anything rest)

/-- The first token of an entry that may stand beside others is no star. -/
lemma follows_selectItem {item : SelectItem} (h : item.WellFormed) (rest : List Token) :
    Follows (fun token => token != .symbol "*") (item.write ++ rest) := by
  cases item with
  | star => exact h.elim
  | column name => exact follows_cons rfl _
  | aggregate call => exact follows_cons rfl _

/-- No entry of a select list starts with DISTINCT. -/
lemma follows_selectList {fields : List SelectItem} (hne : fields ≠ []) (rest : List Token) :
    Follows (fun token => !token.isKeyword "DISTINCT")
      (writeList SelectItem.write fields ++ rest) := by
  refine follows_writeList hne (fun item _ rest => ?_) rest
  cases item with
  | star => exact follows_cons rfl _
  | column name => exact follows_cons rfl _
  | aggregate call =>
    have hword : (!(plainWord call.function.name).isKeyword "DISTINCT") = true := by
      cases call.function <;> decide
    exact follows_cons hword _

/-- A select list is read back, be it the star alone or a list of entries. -/
lemma selectList_reads {fields : List SelectItem}
    (h : fields = [.star] ∨ fields ≠ [] ∧ ∀ item ∈ fields, item.WellFormed) :
    Reads selectList (writeList SelectItem.write fields) fields
      fun token => token != point && token != comma := by
  intro rest hrest
  unfold selectList
  rcases h with rfl | ⟨hne, hitems⟩
  · have hcomma : ¬ rest.head? = some comma := by
      intro hhead
      have hstop := (follows_and.mp hrest).2 comma hhead
      exact absurd hstop (by decide)
    refine ((symbol_reads "*").bind_eq _ (follows_anything _)).trans ?_
    rw [if_pos rfl, ahead_bind]
    exact congrFun (if_neg hcomma) rest
  · have hstar := follows_writeList hne
      (fun item hitem => follows_selectItem (hitems item hitem)) rest
    refine ((symbol_absent "*").bind_eq _ hstar).trans ?_
    exact separated_reads _ rfl hne (fun item hitem => selectItem_reads (hitems item hitem)) rest
      hrest

/-! ## Sort keys -/

/-- What may follow a sort key. -/
def endsOrderKey (token : Token) : Bool :=
  token != point && (!token.isKeyword "DESC" && !token.isKeyword "ASC")

/-- A sort key is read back, with or without a word for the default direction. -/
lemma orderKey_reads (style : Style) (key : OrderKey) :
    Reads orderKey (key.write style) key endsOrderKey := by
  intro rest hrest
  obtain ⟨hpoint, hwords⟩ := follows_and.mp hrest
  obtain ⟨hdesc, hasc⟩ := follows_and.mp hwords
  obtain ⟨field, direction⟩ := key
  have hwell : (SelectItem.column field).WellFormed := trivial
  have hitem := selectItem_reads hwell
  unfold orderKey
  cases direction with
  | descending =>
    refine (hitem.bind_eq _ (follows_cons rfl _)).trans ?_
    exact (keyword_reads rfl).bind_eq _ (follows_anything rest)
  | ascending =>
    have hword : Follows (fun token => token != point && !token.isKeyword "DESC")
        (writeOptional "ASC" style.ascending ++ rest) :=
      follows_optional rfl style.ascending (follows_and.mpr ⟨hpoint, hdesc⟩)
    obtain ⟨hpoint', hdesc'⟩ := follows_and.mp hword
    refine (hitem.bind_eq _ hpoint').trans ?_
    refine ((keyword_absent "DESC").bind_eq _ hdesc').trans ?_
    exact (optional_keyword_reads style.ascending rfl).bind_eq _ hasc

/-! ## Joins -/

/-- The kind of a join is read up to the word JOIN. -/
lemma joinKind_reads (style : Style) (kind : JoinKind) :
    Reads joinKind (kind.write style) kind fun token => token == plainWord "JOIN" := by
  intro rest hrest
  obtain ⟨inner, outer, ascending, swapKeys, semicolon⟩ := style
  cases rest with
  | nil => cases kind <;> cases inner <;> cases outer <;> rfl
  | cons token rest =>
    have hword := hrest token rfl
    obtain rfl := beq_iff_eq.mp hword
    cases kind <;> cases inner <;> cases outer <;> rfl

/-- A column with its table is read back. -/
lemma qualifiedColumn_reads (ref : ColumnRef) :
    Reads qualifiedColumn ref.write ref anything := by
  intro rest _
  refine ((name_reads _ ref.table).bind_eq _ (follows_anything _)).trans ?_
  refine ((symbol_reads ".").bind_eq _ (follows_anything _)).trans ?_
  exact (name_reads _ ref.column).bind_eq _ (follows_anything rest)

/-- The keys of a join are told apart in either order. -/
lemma joinKeys?_write {table : String} {clause : JoinClause} (h : clause.WellFormed table) :
    joinKeys? table clause.table clause.leftKey clause.rightKey =
        some (clause.leftKey, clause.rightKey) ∧
      joinKeys? table clause.table clause.rightKey clause.leftKey =
        some (clause.leftKey, clause.rightKey) := by
  have hdistinct := h.distinct
  have hleft := h.leftKey
  have hright := h.rightKey
  unfold Text.sameIgnoringAsciiCase at hdistinct hleft hright
  rw [beq_iff_eq] at hleft hright
  simp only [joinKeys?, Text.sameIgnoringAsciiCase, hleft, hright, hdistinct]
  simp

/-- A join is read back, with its keys in either order. -/
lemma join_reads (style : Style) {table : String} {clause : JoinClause}
    (h : clause.WellFormed table) :
    Reads (join table) (clause.write style) clause anything := by
  intro rest _
  have hread (first second : ColumnRef) (hkeys : joinKeys? table clause.table first second =
      some (clause.leftKey, clause.rightKey)) :
      join table (clause.kind.write style ++ ([plainWord "JOIN"] ++ ([quotedName clause.table] ++
        ([plainWord "ON"] ++ (first.write ++ ([.symbol "="] ++ (second.write ++ rest))))))) =
          .ok (clause, rest) := by
    unfold join
    refine ((joinKind_reads style clause.kind).bind_eq _ (follows_cons ?_ _)).trans ?_
    · rfl
    refine ((expectKeyword_reads _ rfl).bind_eq _ (follows_anything _)).trans ?_
    refine ((name_reads _ clause.table).bind_eq _ (follows_anything _)).trans ?_
    rw [h.distinct]
    refine ((expectKeyword_reads _ rfl).bind_eq _ (follows_anything _)).trans ?_
    refine ((qualifiedColumn_reads first).bind_eq _ (follows_anything _)).trans ?_
    refine ((expectSymbol_reads "=" _).bind_eq _ (follows_anything _)).trans ?_
    refine ((qualifiedColumn_reads second).bind_eq _ (follows_anything rest)).trans ?_
    rw [hkeys]
    rfl
  obtain ⟨hkeys, hswapped⟩ := joinKeys?_write h
  unfold JoinClause.write
  cases style.swapKeys with
  | false => simpa using hread clause.leftKey clause.rightKey hkeys
  | true => simpa using hread clause.rightKey clause.leftKey hswapped

/-- Whether a token cannot start a join. -/
def startsNoJoin (token : Token) : Bool :=
  match token.keyword? with
  | some name => !joinStarts.contains name
  | none => true

/-- A join that is written starts with one of its words. -/
lemma optionalJoin_write (style : Style) (table : String) (clause : JoinClause)
    (rest : List Token) :
    optionalJoin table (clause.write style ++ rest) =
      (join table >>= fun clause => pure (some clause)) (clause.write style ++ rest) := by
  obtain ⟨inner, outer, ascending, swapKeys, semicolon⟩ := style
  obtain ⟨kind, joined, leftKey, rightKey⟩ := clause
  cases kind <;> cases inner <;> cases outer <;> cases swapKeys <;> rfl

/-- Nothing is taken for a join when none comes next. -/
lemma optionalJoin_absent (table : String) : Reads (optionalJoin table) [] none startsNoJoin := by
  intro rest hrest
  cases rest with
  | nil => rfl
  | cons token rest =>
    have hstart := hrest token rfl
    unfold startsNoJoin at hstart
    change optionalJoin table (token :: rest) = _
    rw [optionalJoin, ahead_bind, List.head?_cons, Option.bind_some]
    cases hword : token.keyword? with
    | none => rfl
    | some name =>
      rw [hword, Bool.not_eq_true'] at hstart
      simp only [hstart]
      rfl

/-- A join is read back if it is there, and nothing is taken for it if it is not. -/
lemma optionalJoin_reads (style : Style) {table : String} {clause? : Option JoinClause}
    (h : ∀ clause ∈ clause?, clause.WellFormed table) :
    Reads (optionalJoin table) ((clause?.map (JoinClause.write style)).getD []) clause?
      startsNoJoin := by
  intro rest hrest
  cases clause? with
  | none => exact optionalJoin_absent table rest hrest
  | some clause =>
    refine (optionalJoin_write style table clause rest).trans ?_
    exact (join_reads style (h clause rfl)).bind_eq _ (follows_anything rest)

/-! ## Lists of names and keys -/

/-- Items behind GROUP BY or ORDER BY are read back. -/
lemma byClause_reads {α : Type} (name : String) {item : Parser α} {write : α → List Token}
    {next : Token → Bool} (hname : (plainWord name).isKeyword name) (hcomma : next comma)
    {items? : Option (List α)} (hne : items? ≠ some [])
    (hitem : ∀ a, Reads item (write a) a next) :
    Reads (byClause name item)
      (writeClause name (fun items => plainWord "BY" :: writeList write items) items?) items?
      fun token => (next token && token != comma) && !token.isKeyword name := by
  refine clause_reads name hname items? fun items hitems => ?_
  have hitems' : items ≠ [] := by
    rintro rfl
    exact hne hitems
  intro rest hrest
  refine ((expectKeyword_reads _ rfl).bind_eq _ (follows_anything _)).trans ?_
  exact separated_reads next hcomma hitems' (fun a _ => hitem a) rest hrest

end Sql.Parser

end TableQuery
