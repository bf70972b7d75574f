import TableQuery.Proofs.Result
import TableQuery.Proofs.Sql.Clauses
import TableQuery.Proofs.Sql.Consumption

/-!
# The shape of what has been read

A statement that is read from any tokens has the shape that its planner and its provider count on
(`Statement.Shaped`), and it takes up all the tokens, of which only the last one may be a semicolon
(`Exhausts`). Where it is a query with a join, the two sides of ON are found among the tokens, and
with the sides changed over the same query is read (`select_swapSides`).
-/

namespace TableQuery

open Sql

/-! ## Shapes -/

/-- What holds of every query that has been read. -/
structure SelectStatement.Shaped (statement : SelectStatement) : Prop where
  fields : statement.fields = [.star] ∨
    statement.fields ≠ [] ∧ ∀ item ∈ statement.fields, item.WellFormed
  join : ∀ clause ∈ statement.join, clause.WellFormed statement.table
  groupBy : statement.groupBy ≠ some []
  implicitGroup : statement.implicitGroup = (statement.groupBy.isNone && statement.hasAggregate)
  orderBy : statement.orderBy ≠ some []

/-- What holds of every statement that has been read. -/
def Statement.Shaped : Statement → Prop
  | select statement => statement.Shaped
  | insert statement => statement.WellFormed
  | delete _ => True

namespace Sql

/-- The tokens of a column with its table. -/
inductive SpellsColumn (ref : ColumnRef) : List Token → Prop where
  | intro {table column : Token} (htable : table.name? = some ref.table)
      (hcolumn : column.name? = some ref.column) : SpellsColumn ref [table, point, column]

/-- The tokens of a query whose two sides of ON have changed places. -/
inductive SwapsSides (clause : JoinClause) : List Token → List Token → Prop where
  | intro {front one other back : List Token} {on : Token} (hon : on.isKeyword "ON")
      (hsides : SpellsColumn clause.leftKey one ∧ SpellsColumn clause.rightKey other ∨
        SpellsColumn clause.rightKey one ∧ SpellsColumn clause.leftKey other) :
      SwapsSides clause (front ++ on :: (one ++ .symbol "=" :: (other ++ back)))
        (front ++ on :: (other ++ .symbol "=" :: (one ++ back)))

/-- Tokens among which only the last one may be a semicolon. -/
def OneStatement (tokens : List Token) : Prop :=
  ∃ body, Parser.semicolon ∉ body ∧ (tokens = body ∨ tokens = body ++ [Parser.semicolon])

namespace Parser

variable {α β : Type} {parser : Parser α} {post : α → Prop} {post' : β → Prop}

/-! ## All tokens are taken -/

/-- What a success of a parser of whole statements entails. -/
def Exhausts (parser : Parser α) (post : α → Prop) : Prop :=
  ∀ ⦃tokens result rest⦄, parser tokens = .ok (result, rest) →
    post result ∧ rest = [] ∧ OneStatement tokens

/-- In front of a parser that takes all tokens another one may take some. -/
lemma Consumes.exhausts_bind {then_ : α → Parser β} (h : Consumes parser post)
    (hthen : ∀ a, post a → Exhausts (then_ a) post') : Exhausts (parser >>= then_) post' := by
  intro tokens result rest hread
  obtain ⟨a, left, hfirst, hsecond⟩ := bind_eq_ok.mp hread
  obtain ⟨ha, taken, rfl, hnone, -⟩ := h hfirst
  obtain ⟨hresult, hrest, body, hbody, hend⟩ := hthen a ha hsecond
  refine ⟨hresult, hrest, taken ++ body, ?_, ?_⟩
  · simp only [List.mem_append, hnone, hbody, or_self, not_false_eq_true]
  · obtain rfl | rfl := hend
    · exact .inl rfl
    · exact .inr (List.append_assoc ..).symm

/-- A statement ends where its tokens do, or with one more semicolon. -/
lemma finish_eq_ok {tokens rest : List Token} (h : finish tokens = .ok ((), rest)) :
    rest = [] ∧ (tokens = [] ∨ tokens = [semicolon]) := by
  unfold finish at h
  obtain ⟨found, left, hfound, h⟩ := bind_eq_ok.mp h
  rw [ahead_bind] at h
  split at h
  · rename_i hempty
    obtain rfl := List.isEmpty_iff.mp hempty
    obtain ⟨-, rfl⟩ := Prod.mk.inj (Except.ok.inj h)
    refine ⟨rfl, ?_⟩
    cases tokens with
    | nil => exact .inl rfl
    | cons token behind =>
      simp only [symbol, accept] at hfound
      split at hfound
      · rename_i htoken
        obtain ⟨-, rfl⟩ := Prod.mk.inj (Except.ok.inj hfound)
        obtain rfl := beq_iff_eq.mp htoken
        exact .inr rfl
      · cases hfound
  · cases h

/-- Behind the end of a statement nothing is left to be taken. -/
lemma exhausts_finish {then_ : Unit → Parser α}
    (h : ∀ result rest, then_ () [] = .ok (result, rest) → post result ∧ rest = []) :
    Exhausts (finish >>= then_) post := by
  intro tokens result rest hread
  obtain ⟨_, left, hfinish, hthen⟩ := bind_eq_ok.mp hread
  obtain ⟨rfl, hend⟩ := finish_eq_ok hfinish
  obtain ⟨hresult, rfl⟩ := h result rest hthen
  exact ⟨hresult, rfl, [], List.not_mem_nil, hend⟩

/-! ## The three kinds of statement -/

/-- A query takes all tokens and has the shape of its clauses. -/
lemma exhausts_select : Exhausts select SelectStatement.Shaped := by
  refine (consumes_expectKeyword _ _).exhausts_bind fun _ _ => ?_
  refine (consumes_keyword _).exhausts_bind fun distinct _ => ?_
  refine consumes_selectList.exhausts_bind fun fields hfields => ?_
  refine (consumes_expectKeyword _ _).exhausts_bind fun _ _ => ?_
  refine (consumes_name _).exhausts_bind fun table _ => ?_
  refine (consumes_optionalJoin table).exhausts_bind fun join hjoin => ?_
  refine (consumes_clause _ consumes_condition).exhausts_bind fun condition _ => ?_
  refine (consumes_byClause _ (consumes_fieldRef _)).exhausts_bind fun groupBy hgroupBy => ?_
  refine (consumes_byClause _ consumes_orderKey).exhausts_bind fun orderBy horderBy => ?_
  refine (consumes_clause _ consumes_limit).exhausts_bind fun limit _ => ?_
  refine exhausts_finish fun statement rest hread => ?_
  obtain ⟨rfl, rfl⟩ := Prod.mk.inj (Except.ok.inj hread)
  exact ⟨⟨hfields, hjoin, hgroupBy, rfl, horderBy⟩, rfl⟩

/-- An insertion takes all tokens and has columns, and as many values. -/
lemma exhausts_insert : Exhausts insert InsertStatement.WellFormed := by
  refine (consumes_expectKeyword _ _).exhausts_bind fun _ _ => ?_
  refine (consumes_expectKeyword _ _).exhausts_bind fun _ _ => ?_
  refine (consumes_name _).exhausts_bind fun table _ => ?_
  refine (consumes_expectSymbol (by decide) _).exhausts_bind fun _ _ => ?_
  refine (consumes_separated (consumes_name _)).exhausts_bind fun columns hcolumns => ?_
  refine (consumes_expectSymbol (by decide) _).exhausts_bind fun _ _ => ?_
  refine (consumes_expectKeyword _ _).exhausts_bind fun _ _ => ?_
  refine (consumes_expectSymbol (by decide) _).exhausts_bind fun _ _ => ?_
  refine (consumes_separated consumes_literal).exhausts_bind fun literals _ => ?_
  refine (consumes_expectSymbol (by decide) _).exhausts_bind fun _ _ => ?_
  refine exhausts_finish fun statement rest hread => ?_
  split at hread
  · rename_i hlength
    obtain ⟨rfl, rfl⟩ := Prod.mk.inj (Except.ok.inj hread)
    exact ⟨⟨hcolumns.1, hlength⟩, rfl⟩
  · cases hread

/-- A deletion takes all tokens. -/
lemma exhausts_delete : Exhausts delete fun _ => True := by
  refine (consumes_expectKeyword _ _).exhausts_bind fun _ _ => ?_
  refine (consumes_expectKeyword _ _).exhausts_bind fun _ _ => ?_
  refine (consumes_name _).exhausts_bind fun table _ => ?_
  refine (consumes_clause _ consumes_condition).exhausts_bind fun condition _ => ?_
  refine exhausts_finish fun statement rest hread => ?_
  obtain ⟨rfl, rfl⟩ := Prod.mk.inj (Except.ok.inj hread)
  exact ⟨trivial, rfl⟩

/-- A statement of any kind takes all tokens and has its shape. -/
lemma exhausts_statement : Exhausts statement Statement.Shaped := by
  intro tokens found rest hread
  obtain ⟨query, rfl, hquery⟩ | ⟨insertion, rfl, hinsertion⟩ | ⟨deletion, rfl, hdeletion⟩ :=
    statement_cases hread
  · exact exhausts_select hquery
  · exact exhausts_insert hinsertion
  · exact exhausts_delete hdeletion

/-! ## The two sides of ON -/

/-- What comes behind a parser may be exchanged for anything that looks the same to it. -/
lemma Consumes.bind_again {then_ : α → Parser β} (h : Consumes parser post)
    {tokens rest : List Token} {result : β}
    (hread : (parser >>= then_) tokens = .ok (result, rest)) :
    ∃ a taken left, post a ∧ tokens = taken ++ left ∧ then_ a left = .ok (result, rest) ∧
      ∀ left', Alike left left' → (parser >>= then_) (taken ++ left') = then_ a left' := by
  obtain ⟨a, left, hfirst, hsecond⟩ := bind_eq_ok.mp hread
  obtain ⟨ha, taken, rfl, -, hagain⟩ := h hfirst
  refine ⟨a, taken, left, ha, rfl, hsecond, fun left' hleft => ?_⟩
  change (parser (taken ++ left')).bind (fun found => then_ found.1 found.2) = _
  rw [hagain left' hleft]
  rfl

/-- An expected keyword that was found stood in front. -/
lemma expectKeyword_eq_ok {name reason : String} {tokens rest : List Token}
    (h : expectKeyword name reason tokens = .ok ((), rest)) :
    ∃ token, token.isKeyword name ∧ tokens = token :: rest := by
  unfold expectKeyword at h
  obtain ⟨found, left, hfound, h⟩ := bind_eq_ok.mp h
  split at h
  · obtain ⟨-, rfl⟩ := Prod.mk.inj (Except.ok.inj h)
    subst_vars
    exact accept_eq_ok_true hfound
  · cases h

/-- An expected symbol that was found stood in front. -/
lemma expectSymbol_eq_ok {text reason : String} {tokens rest : List Token}
    (h : expectSymbol text reason tokens = .ok ((), rest)) :
    tokens = .symbol text :: rest := by
  unfold expectSymbol at h
  obtain ⟨found, left, hfound, h⟩ := bind_eq_ok.mp h
  split at h
  · obtain ⟨-, rfl⟩ := Prod.mk.inj (Except.ok.inj h)
    subst_vars
    obtain ⟨token, htoken, rfl⟩ := accept_eq_ok_true hfound
    rw [beq_iff_eq.mp htoken]
  · cases h

/-- A key of a join is read exactly from the tokens that spell it. -/
lemma qualifiedColumn_eq_ok {tokens rest : List Token} {ref : ColumnRef}
    (h : qualifiedColumn tokens = .ok (ref, rest)) :
    ∃ written, SpellsColumn ref written ∧ tokens = written ++ rest := by
  unfold qualifiedColumn at h
  obtain ⟨table, left, htable, h⟩ := bind_eq_ok.mp h
  obtain ⟨found, left', hfound, h⟩ := bind_eq_ok.mp h
  split at h
  · obtain ⟨column, hform, hcolumn⟩ := exists_of_bind_pure h
    subst hform
    subst_vars
    obtain ⟨first, hfirst, rfl⟩ := name_eq_ok.mp htable
    obtain ⟨point', hpoint, rfl⟩ := accept_eq_ok_true hfound
    obtain ⟨second, hsecond, rfl⟩ := name_eq_ok.mp hcolumn
    obtain rfl := beq_iff_eq.mp hpoint
    exact ⟨_, ⟨hfirst, hsecond⟩, rfl⟩
  · cases h

/-- Tokens that spell a column with its table are read as this column. -/
lemma qualifiedColumn_reads_of_spells {ref : ColumnRef} {written : List Token}
    (h : SpellsColumn ref written) : Reads qualifiedColumn written ref anything := by
  obtain ⟨htable, hcolumn⟩ := h
  intro rest _
  refine ((name_reads_of_name? htable _).bind_eq _ (follows_anything _)).trans ?_
  refine ((symbol_reads ".").bind_eq _ (follows_anything _)).trans ?_
  exact (name_reads_of_name? hcolumn _).bind_eq _ (follows_anything rest)

/-- Keys that have been told apart are the two that were read, in one order or the other. -/
lemma joinKeys?_eq_some {table joined : String} {first second leftKey rightKey : ColumnRef}
    (h : joinKeys? table joined first second = some (leftKey, rightKey)) :
    first = leftKey ∧ second = rightKey ∨ first = rightKey ∧ second = leftKey := by
  unfold joinKeys? at h
  dsimp only at h
  split at h
  · obtain ⟨rfl, rfl⟩ := Prod.mk.inj (Option.some.inj h)
    exact .inl ⟨rfl, rfl⟩
  · split at h
    · obtain ⟨rfl, rfl⟩ := Prod.mk.inj (Option.some.inj h)
      exact .inr ⟨rfl, rfl⟩
    · cases h

/-- Changed over, the sides stand in as many tokens as before, and behind the same one. -/
lemma alike_of_swapsSides {clause : JoinClause} {tokens swapped : List Token}
    (h : SwapsSides clause tokens swapped) : Alike tokens swapped := by
  obtain @⟨front, one, other, back, on, -, -⟩ := h
  constructor
  · simp only [List.length_append, List.length_cons]
    omega
  · simp only [List.head?_append, List.head?_cons]

/-- Sides that have changed places have done so behind any tokens. -/
lemma swapsSides_append {clause : JoinClause} {tokens swapped : List Token}
    (h : SwapsSides clause tokens swapped) (front : List Token) :
    SwapsSides clause (front ++ tokens) (front ++ swapped) := by
  obtain ⟨hon, hsides⟩ := h
  rw [← List.append_assoc, ← List.append_assoc]
  exact ⟨hon, hsides⟩

/-- A join is read as the same one with its two sides changed over. -/
lemma join_swapSides {table : String} {tokens rest : List Token} {clause : JoinClause}
    (h : join table tokens = .ok (clause, rest)) :
    ∃ swapped, SwapsSides clause tokens swapped ∧ join table swapped = .ok (clause, rest) := by
  have hwell := (consumes_join table h).1
  unfold join at h ⊢
  obtain ⟨kind, words, _, -, rfl, h₁, hkind⟩ := consumes_joinKind.bind_again h
  obtain ⟨_, word, _, -, rfl, h₂, hword⟩ := (consumes_expectKeyword _ _).bind_again h₁
  obtain ⟨joined, name, _, -, rfl, h₃, hname⟩ := (consumes_name _).bind_again h₂
  clear h h₁ h₂
  split at h₃
  · cases h₃
  rename_i hdistinct
  obtain ⟨_, _, hon, h₄⟩ := bind_eq_ok.mp h₃
  obtain ⟨on, hisOn, rfl⟩ := expectKeyword_eq_ok hon
  obtain ⟨first, _, hfirst, h₅⟩ := bind_eq_ok.mp h₄
  obtain ⟨one, hone, rfl⟩ := qualifiedColumn_eq_ok hfirst
  obtain ⟨_, _, hequals, h₆⟩ := bind_eq_ok.mp h₅
  obtain rfl := expectSymbol_eq_ok hequals
  obtain ⟨second, back, hsecond, h₇⟩ := bind_eq_ok.mp h₆
  obtain ⟨other, hother, rfl⟩ := qualifiedColumn_eq_ok hsecond
  cases hkeys : joinKeys? table joined first second with
  | none =>
    rw [hkeys] at h₇
    cases h₇
  | some keys =>
    rw [hkeys] at h₇
    obtain ⟨rfl, rfl⟩ := Prod.mk.inj (Except.ok.inj h₇)
    -- the keys are told apart by their tables, so they are found in either order
    have hsides : (SpellsColumn keys.1 one ∧ SpellsColumn keys.2 other ∨
        SpellsColumn keys.2 one ∧ SpellsColumn keys.1 other) ∧
        joinKeys? table joined second first = some keys := by
      obtain ⟨rfl, rfl⟩ | ⟨rfl, rfl⟩ := joinKeys?_eq_some hkeys
      · exact ⟨.inl ⟨hone, hother⟩, (joinKeys?_write hwell).2⟩
      · exact ⟨.inr ⟨hone, hother⟩, (joinKeys?_write hwell).1⟩
    obtain ⟨hspelled, hswapped⟩ := hsides
    have hbase : SwapsSides ⟨kind, joined, keys.1, keys.2⟩
        (on :: (one ++ .symbol "=" :: (other ++ back)))
        (on :: (other ++ .symbol "=" :: (one ++ back))) :=
      @SwapsSides.intro _ [] one other back on hisOn hspelled
    have hname' := swapsSides_append hbase name
    have hword' := swapsSides_append hname' word
    refine ⟨_, swapsSides_append hword' words, ?_⟩
    refine (hkind _ (alike_of_swapsSides hword')).trans ?_
    refine (hword _ (alike_of_swapsSides hname')).trans ?_
    refine (hname _ (alike_of_swapsSides hbase)).trans ?_
    rw [if_neg hdistinct]
    refine ((expectKeyword_reads_of_isKeyword hisOn _).bind_eq _ (follows_anything _)).trans ?_
    refine ((qualifiedColumn_reads_of_spells hother).bind_eq _ (follows_anything _)).trans ?_
    refine ((expectSymbol_reads "=" _).bind_eq _ (follows_anything _)).trans ?_
    refine ((qualifiedColumn_reads_of_spells hone).bind_eq _ (follows_anything back)).trans ?_
    rw [hswapped]
    rfl

/-- A join that is read, be it optional, is read with its sides changed over too. -/
lemma optionalJoin_swapSides {table : String} {tokens rest : List Token} {clause : JoinClause}
    (h : optionalJoin table tokens = .ok (some clause, rest)) :
    ∃ swapped, SwapsSides clause tokens swapped ∧
      optionalJoin table swapped = .ok (some clause, rest) := by
  obtain ⟨swapped, hswaps, hswapped⟩ := join_swapSides (join_of_optionalJoin h)
  refine ⟨swapped, hswaps, ?_⟩
  unfold optionalJoin at h ⊢
  rw [ahead_bind] at h ⊢
  rw [(alike_of_swapsSides hswaps).head]
  cases hword : tokens.head?.bind Token.keyword? with
  | none =>
    rw [hword] at h
    cases h
  | some name =>
    rw [hword] at h
    dsimp only at h ⊢
    split at h
    · rw [if_pos ‹_›]
      exact bind_eq_ok.mpr ⟨clause, rest, hswapped, rfl⟩
    · cases h

/-- A query with a join is read as the same one with the two sides of ON changed over. -/
lemma select_swapSides {tokens rest : List Token} {query : SelectStatement}
    (h : select tokens = .ok (query, rest)) {clause : JoinClause}
    (hclause : query.join = some clause) :
    ∃ swapped, SwapsSides clause tokens swapped ∧ select swapped = .ok (query, rest) := by
  unfold select at h ⊢
  obtain ⟨_, front₁, _, -, rfl, h₁, hagain₁⟩ := (consumes_expectKeyword _ _).bind_again h
  obtain ⟨distinct, front₂, _, -, rfl, h₂, hagain₂⟩ := (consumes_keyword _).bind_again h₁
  obtain ⟨fields, front₃, _, -, rfl, h₃, hagain₃⟩ := consumes_selectList.bind_again h₂
  obtain ⟨_, front₄, _, -, rfl, h₄, hagain₄⟩ := (consumes_expectKeyword _ _).bind_again h₃
  obtain ⟨table, front₅, behind, -, rfl, h₅, hagain₅⟩ := (consumes_name _).bind_again h₄
  obtain ⟨join?, left, hjoin, hthen⟩ := bind_eq_ok.mp h₅
  clear h h₁ h₂ h₃ h₄ h₅
  obtain ⟨condition, _, -, h₆⟩ := bind_eq_ok.mp hthen
  obtain ⟨groupBy, _, -, h₇⟩ := bind_eq_ok.mp h₆
  obtain ⟨orderBy, _, -, h₈⟩ := bind_eq_ok.mp h₇
  obtain ⟨limit, _, -, h₉⟩ := bind_eq_ok.mp h₈
  obtain ⟨_, _, -, hpure⟩ := bind_eq_ok.mp h₉
  obtain ⟨rfl, -⟩ := Prod.mk.inj (Except.ok.inj hpure)
  obtain rfl : join? = some clause := hclause
  obtain ⟨swapped, hbase, hswapped⟩ := optionalJoin_swapSides hjoin
  -- from the join outwards: each clause in front of it sees tokens that look the same
  have hswap₅ := swapsSides_append hbase front₅
  have hswap₄ := swapsSides_append hswap₅ front₄
  have hswap₃ := swapsSides_append hswap₄ front₃
  have hswap₂ := swapsSides_append hswap₃ front₂
  refine ⟨_, swapsSides_append hswap₂ front₁, ?_⟩
  refine (hagain₁ _ (alike_of_swapsSides hswap₂)).trans ?_
  refine (hagain₂ _ (alike_of_swapsSides hswap₃)).trans ?_
  refine (hagain₃ _ (alike_of_swapsSides hswap₄)).trans ?_
  refine (hagain₄ _ (alike_of_swapsSides hswap₅)).trans ?_
  refine (hagain₅ _ (alike_of_swapsSides hbase)).trans ?_
  exact bind_eq_ok.mpr ⟨some clause, left, hswapped, hthen⟩

/-- What is read as a query is a statement as well. -/
lemma statement_of_select {tokens rest : List Token} {query : SelectStatement}
    (h : select tokens = .ok (query, rest)) :
    statement tokens = .ok (.select query, rest) := by
  have hfirst := h
  unfold select at hfirst
  obtain ⟨_, left, hfirst, -⟩ := bind_eq_ok.mp hfirst
  obtain ⟨token, htoken, rfl⟩ := expectKeyword_eq_ok hfirst
  unfold statement
  rw [ahead_bind, List.head?_cons]
  dsimp only
  rw [if_pos htoken]
  exact bind_eq_ok.mpr ⟨query, rest, h, rfl⟩

/-- A statement that is read from any tokens is well shaped, it takes up all of them, and a query
with a join reads the same with the two sides of ON changed over. -/
theorem shaped_of_statement {tokens rest : List Token} {found : Statement}
    (h : statement tokens = .ok (found, rest)) :
    found.Shaped ∧ (rest = [] ∧ OneStatement tokens) ∧
      ∀ query clause, found = .select query → query.join = some clause →
        ∃ swapped, SwapsSides clause tokens swapped ∧ statement swapped = .ok (found, rest) := by
  obtain ⟨hshaped, htokens⟩ := exhausts_statement h
  refine ⟨hshaped, htokens, ?_⟩
  rintro query clause rfl hclause
  obtain ⟨swapped, hswaps, hswapped⟩ := select_swapSides (select_of_statement h) hclause
  exact ⟨swapped, hswaps, statement_of_select hswapped⟩

/-- The keys of a join that are written the other way round, in capitals of their own, and with a
semicolon behind them. -/
theorem shaped_of_statement_of_users :
    let clause : JoinClause := ⟨.inner, "orders", ⟨"users", "id"⟩, ⟨"Orders", "user_id"⟩⟩
    let tokens := [plainWord "SELECT", plainWord "name", plainWord "FROM", plainWord "users",
      plainWord "JOIN", plainWord "orders", plainWord "ON", plainWord "Orders", point,
      plainWord "user_id", .symbol "=", plainWord "users", point, plainWord "id", semicolon]
    ∃ query, query.join = some clause ∧ statement tokens = .ok (.select query, []) ∧
      query.Shaped ∧ OneStatement tokens ∧
        ∃ swapped, SwapsSides clause tokens swapped ∧
          statement swapped = .ok (.select query, []) := by
  intro clause tokens
  let query : SelectStatement :=
    { fields := [.column "name"], table := "users", condition := none, join := some clause
      groupBy := none, implicitGroup := false, orderBy := none, limit := none, distinct := false }
  have hread : statement tokens = .ok (.select query, []) := by
    refine Result.eq_ok_of_toOption ?_
    decide +kernel
  obtain ⟨hshaped, ⟨-, htokens⟩, hswaps⟩ := shaped_of_statement hread
  exact ⟨query, rfl, hread, hshaped, htokens, hswaps query clause rfl rfl⟩

end Parser

end Sql

end TableQuery
