import TableQuery.Proofs.Sql.Clauses

/-!
# Statements read back

Parsing undoes writing: the tokens of a well-formed statement, in any style, are read back as that
statement with nothing left over (`statement_write`).
-/

namespace TableQuery

open Sql

namespace Sql.Parser

/-! ## Ends of statements -/

/-- The end of a statement is taken, with its semicolon or without. -/
lemma finish_ending (style : Style) : finish style.ending = .ok ((), []) := by
  obtain ⟨inner, outer, ascending, swapKeys, semicolon⟩ := style
  cases semicolon <;> rfl

/-- Behind the end of a statement the parser goes on with no tokens. -/
lemma finish_bind {α : Type} (then_ : Unit → Parser α) (style : Style) :
    (finish >>= then_) style.ending = then_ () [] := by
  change (finish style.ending).bind (fun (a, rest) => then_ a rest) = then_ () []
  rw [finish_ending]
  rfl

/-- What may stand at the end of a query may stand before its end, if a semicolon may. -/
lemma follows_ending {next : Token → Bool} (h : next (.symbol ";")) (style : Style) :
    Follows next style.ending := by
  unfold Style.ending
  split
  · exact follows_cons h []
  · exact follows_nil next

/-! ## Statements -/

/-- A query is read back, one clause after the other. -/
lemma select_write (style : Style) {s : SelectStatement} (h : s.WellFormed) :
    select (s.write style ++ style.ending) = .ok (s, []) := by
  obtain ⟨fields, table, condition?, join?, groupBy?, implicitGroup, orderBy?, limit?,
    distinct⟩ := s
  have hfields : fields ≠ [] := by
    have hcases : fields = [.star] ∨ fields ≠ [] ∧ _ := h.fields
    rcases hcases with rfl | ⟨hne, -⟩
    · exact List.cons_ne_nil _ _
    · exact hne
  have himplicit : implicitGroup = (groupBy?.isNone && fields.any SelectItem.isAggregate) :=
    h.implicitGroup
  have hwhere := clause_reads "WHERE" rfl condition? fun c hc => condition_reads (h.condition c hc)
  have hgroup := byClause_reads "GROUP" rfl rfl h.groupBy (fieldRef_reads "GROUP BY field")
  have horder := byClause_reads "ORDER" rfl rfl h.orderBy (orderKey_reads style)
  have hlimit := clause_reads "LIMIT" rfl limit? fun count hcount =>
    limit_reads (h.limit count hcount)
  simp only [SelectStatement.write, List.append_assoc]
  unfold select
  refine ((expectKeyword_reads _ rfl).bind_eq _ (follows_anything _)).trans ?_
  refine ((optional_keyword_reads distinct rfl).bind_eq _ ?_).trans ?_
  · exact follows_selectList hfields _
  refine ((selectList_reads h.fields).bind_eq _ (follows_cons ?_ _)).trans ?_
  · rfl
  refine ((expectKeyword_reads _ rfl).bind_eq _ (follows_anything _)).trans ?_
  refine ((name_reads _ table).bind_eq _ (follows_anything _)).trans ?_
  -- behind each optional clause comes one of the later clauses or the end
  refine ((optionalJoin_reads style h.join).bind_eq _ ?_).trans ?_
  · exact follows_clause rfl _ (follows_clause rfl _ (follows_clause rfl _ (follows_clause rfl _
      (follows_ending rfl style))))
  refine (hwhere.bind_eq _ ?_).trans ?_
  · exact follows_clause rfl _ (follows_clause rfl _ (follows_clause rfl _
      (follows_ending rfl style)))
  refine (hgroup.bind_eq _ ?_).trans ?_
  · exact follows_clause rfl _ (follows_clause rfl _ (follows_ending rfl style))
  refine (horder.bind_eq _ ?_).trans ?_
  · exact follows_clause rfl _ (follows_ending rfl style)
  refine (hlimit.bind_eq _ (follows_ending rfl style)).trans ?_
  rw [finish_bind, himplicit]
  rfl

/-- The texts of an insertion are read back as literals that keep them. -/
lemma separated_literal_reads {values : List String} (hne : values ≠ []) :
    Reads (separated literal) (writeList (fun text => [.quoted text]) values)
      (values.map fun text => (.text text, text)) fun token => token != comma := by
  have hwrite : writeList (fun text => [.quoted text]) values =
      writeList (fun literal : Value × String => [.quoted literal.2])
        (values.map fun text => (.text text, text)) := by
    rw [writeList, writeList, List.map_map]
    rfl
  rw [hwrite]
  refine separated_reads anything rfl ?_ fun literal hliteral => ?_
  · simpa using hne
  · obtain ⟨text, -, rfl⟩ := List.mem_map.mp hliteral
    exact literal_quoted_reads text

/-- An insertion is read back, its texts as they were. -/
lemma insert_write (style : Style) {s : InsertStatement} (h : s.WellFormed) :
    insert (s.write ++ style.ending) = .ok (s, []) := by
  obtain ⟨table, columns, values⟩ := s
  have hcolumns : columns ≠ [] := h.columns
  have hlength : columns.length = values.length := h.values
  have hvalues : values ≠ [] := by
    rintro rfl
    exact hcolumns (List.length_eq_zero_iff.mp hlength)
  have hnames := separated_reads anything rfl hcolumns fun text _ => name_reads "column name" text
  simp only [InsertStatement.write, List.append_assoc]
  unfold insert
  refine ((expectKeyword_reads _ rfl).bind_eq _ (follows_anything _)).trans ?_
  refine ((expectKeyword_reads _ rfl).bind_eq _ (follows_anything _)).trans ?_
  refine ((name_reads _ table).bind_eq _ (follows_anything _)).trans ?_
  refine ((expectSymbol_reads "(" _).bind_eq _ (follows_anything _)).trans ?_
  refine (hnames.bind_eq _ (follows_cons ?_ _)).trans ?_
  · rfl
  refine ((expectSymbol_reads ")" _).bind_eq _ (follows_anything _)).trans ?_
  refine ((expectKeyword_reads _ rfl).bind_eq _ (follows_anything _)).trans ?_
  refine ((expectSymbol_reads "(" _).bind_eq _ (follows_anything _)).trans ?_
  refine ((separated_literal_reads hvalues).bind_eq _ (follows_cons ?_ _)).trans ?_
  · rfl
  refine ((expectSymbol_reads ")" _).bind_eq _ (follows_anything _)).trans ?_
  rw [finish_bind]
  have htexts : (values.map fun text => (Value.text text, text)).map Prod.snd = values := by
    rw [List.map_map]
    exact List.map_id values
  simp only [htexts, hlength]
  rfl

/-- A deletion is read back with its condition. -/
lemma delete_write (style : Style) {s : DeleteStatement} (h : s.WellFormed) :
    delete (s.write ++ style.ending) = .ok (s, []) := by
  obtain ⟨table, condition?⟩ := s
  have hwhere := clause_reads "WHERE" rfl condition? fun c hc => condition_reads (h c hc)
  simp only [DeleteStatement.write, List.append_assoc]
  unfold delete
  refine ((expectKeyword_reads _ rfl).bind_eq _ (follows_anything _)).trans ?_
  refine ((expectKeyword_reads _ rfl).bind_eq _ (follows_anything _)).trans ?_
  refine ((name_reads _ table).bind_eq _ (follows_anything _)).trans ?_
  refine (hwhere.bind_eq _ (follows_ending rfl style)).trans ?_
  rw [finish_bind]
  rfl

/-- Parsing undoes writing: the tokens of a well-formed statement are read back as the statement. -/
theorem statement_write (style : Style) (s : Statement) (h : s.WellFormed) :
    statement (s.write style) = .ok (s, []) := by
  unfold statement
  rw [ahead_bind]
  cases s with
  | select s =>
    have hread := select_write style h
    change (select (s.write style ++ style.ending)).bind _ = _
    rw [hread]
    rfl
  | insert s =>
    have hread := insert_write style h
    change (insert (s.write ++ style.ending)).bind _ = _
    rw [hread]
    rfl
  | delete s =>
    have hread := delete_write style h
    change (delete (s.write ++ style.ending)).bind _ = _
    rw [hread]
    rfl

/-- A query with every clause, its join keys swapped, and a semicolon at its end. -/
theorem statement_write_of_people :
    let style : Style := ⟨false, true, false, true, true⟩
    let s : SelectStatement := {
      fields := [.column "name", .aggregate ⟨.count, .star⟩]
      table := "people"
      condition := some (.and (.compare ⟨"age", .ge, .int64 (-1)⟩)
        (.or (.compare ⟨"name", .like, .text "A%"⟩) (.compare ⟨"kind", .ne, .null⟩)))
      join := some ⟨.left, "pets", ⟨"people", "id"⟩, ⟨"PETS", "owner"⟩⟩
      groupBy := some ["name"]
      implicitGroup := false
      orderBy := some [⟨"COUNT(*)", .descending⟩, ⟨"name", .ascending⟩]
      limit := some (-5)
      distinct := true }
    (Statement.select s).WellFormed ∧
      statement ((Statement.select s).write style) = .ok (.select s, []) := by
  have hdistinct : Text.sameIgnoringAsciiCase "pets" "people" = false := by
    rw [Text.sameIgnoringAsciiCase, beq_eq_false_iff_ne]
    intro h
    have hchars := congrArg String.toList h
    simp [Text.asciiLower] at hchars
  have hleft : Text.sameIgnoringAsciiCase "people" "people" = true := beq_self_eq_true _
  have hright : Text.sameIgnoringAsciiCase "PETS" "pets" = true := by
    rw [Text.sameIgnoringAsciiCase, beq_iff_eq, ← String.toList_inj]
    simp [Text.asciiLower]
  intro style s
  have hwell : s.WellFormed := {
    fields := .inr (by simp [s, SelectItem.WellFormed])
    join := by
      intro clause hclause
      obtain rfl := Option.some.inj hclause
      exact ⟨hdistinct, hleft, hright⟩
    condition := by
      intro condition hcondition comparison hcomparison x
      obtain rfl := Option.some.inj hcondition
      simp only [Condition.comparisons, List.singleton_append, List.mem_cons] at hcomparison
      rcases hcomparison with rfl | rfl | rfl | hnone
      · simp
      · simp
      · simp
      · cases hnone
    groupBy := by simp [s]
    implicitGroup := rfl
    orderBy := by simp [s]
    limit := by
      intro count hcount
      obtain rfl := Option.some.inj hcount
      decide }
  exact ⟨hwell, statement_write style (.select s) hwell⟩

end Sql.Parser

end TableQuery
