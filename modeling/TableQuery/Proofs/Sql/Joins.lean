import Mathlib.Tactic.Common
import TableQuery.Sql.Statement.Parser

/-!
# The tables that the keys of a join name

What has been read is traced back through the parsers that read it, from a text through a statement
and a query to its join. The two keys of the join name the two tables of the query, which they may
spell in another ASCII case than FROM and JOIN do (`sameTables_of_parse`).
-/

namespace TableQuery

/-- Two texts are the same up to ASCII case when their characters are. -/
lemma Text.sameIgnoringAsciiCase_eq (a b : String) :
    sameIgnoringAsciiCase a b = (a.toList.map Char.toLower == b.toList.map Char.toLower) := by
  rw [sameIgnoringAsciiCase, asciiLower, asciiLower, Bool.eq_iff_iff, beq_iff_eq, beq_iff_eq,
    ← String.toList_inj, String.toList_map, String.toList_map]

namespace Sql.Parser

variable {α β : Type}

/-- A parser behind another one gives a result when both do, one after the other. -/
lemma bind_eq_ok {parser : Parser α} {then_ : α → Parser β} {tokens rest : List Token}
    {result : β} :
    (parser >>= then_) tokens = .ok (result, rest) ↔
      ∃ first left, parser tokens = .ok (first, left) ∧ then_ first left = .ok (result, rest) := by
  change (parser tokens).bind (fun found => then_ found.1 found.2) = .ok (result, rest) ↔ _
  cases parser tokens with
  | error e => simp [Except.bind]
  | ok found =>
    obtain ⟨first, left⟩ := found
    simp [Except.bind]

/-- A result that is put into another form was read before. -/
lemma exists_of_bind_pure {parser : Parser α} {form : α → β} {tokens rest : List Token}
    {result : β} (h : (parser >>= fun a => pure (form a)) tokens = .ok (result, rest)) :
    ∃ a, form a = result ∧ parser tokens = .ok (a, rest) := by
  obtain ⟨a, left, hread, hform⟩ := bind_eq_ok.mp h
  obtain ⟨hresult, rfl⟩ := Prod.mk.inj (Except.ok.inj hform)
  exact ⟨a, hresult, hread⟩

/-! ## From a statement to its join -/

/-- A statement has been read by the parser of its kind. -/
lemma statement_cases {tokens rest : List Token} {found : Statement}
    (h : statement tokens = .ok (found, rest)) :
    (∃ query, found = .select query ∧ select tokens = .ok (query, rest)) ∨
      (∃ insertion, found = .insert insertion ∧ insert tokens = .ok (insertion, rest)) ∨
        ∃ deletion, found = .delete deletion ∧ delete tokens = .ok (deletion, rest) := by
  unfold statement at h
  obtain ⟨_, _, hahead, h⟩ := bind_eq_ok.mp h
  obtain ⟨rfl, rfl⟩ := Prod.mk.inj (Except.ok.inj hahead)
  cases hfirst : tokens.head? with
  | none =>
    rw [hfirst] at h
    cases h
  | some first =>
    rw [hfirst] at h
    dsimp only at h
    split at h
    · obtain ⟨query, hfound, hquery⟩ := exists_of_bind_pure h
      exact .inl ⟨query, hfound.symm, hquery⟩
    · split at h
      · obtain ⟨insertion, hfound, hinsertion⟩ := exists_of_bind_pure h
        exact .inr (.inl ⟨insertion, hfound.symm, hinsertion⟩)
      · split at h
        · obtain ⟨deletion, hfound, hdeletion⟩ := exists_of_bind_pure h
          exact .inr (.inr ⟨deletion, hfound.symm, hdeletion⟩)
        · cases first <;> cases h

/-- A statement that is a query has been read as a query. -/
lemma select_of_statement {tokens rest : List Token} {query : SelectStatement}
    (h : statement tokens = .ok (.select query, rest)) : select tokens = .ok (query, rest) := by
  obtain ⟨found, hfound, hquery⟩ | ⟨_, hinsert, -⟩ | ⟨_, hdelete, -⟩ := statement_cases h
  · rwa [Statement.select.inj hfound]
  · cases hinsert
  · cases hdelete

/-- The join of a query has been read behind its table. -/
lemma optionalJoin_of_select {tokens rest : List Token} {query : SelectStatement}
    (h : select tokens = .ok (query, rest)) :
    ∃ behind left, optionalJoin query.table behind = .ok (query.join, left) := by
  unfold select at h
  obtain ⟨-, _, -, h⟩ := bind_eq_ok.mp h
  obtain ⟨distinct, _, -, h⟩ := bind_eq_ok.mp h
  obtain ⟨fields, _, -, h⟩ := bind_eq_ok.mp h
  obtain ⟨-, _, -, h⟩ := bind_eq_ok.mp h
  obtain ⟨table, behind, -, h⟩ := bind_eq_ok.mp h
  obtain ⟨join, left, hjoin, h⟩ := bind_eq_ok.mp h
  obtain ⟨condition, _, -, h⟩ := bind_eq_ok.mp h
  obtain ⟨groupBy, _, -, h⟩ := bind_eq_ok.mp h
  obtain ⟨orderBy, _, -, h⟩ := bind_eq_ok.mp h
  obtain ⟨limit, _, -, h⟩ := bind_eq_ok.mp h
  obtain ⟨-, _, -, h⟩ := bind_eq_ok.mp h
  obtain ⟨rfl, -⟩ := Prod.mk.inj (Except.ok.inj h)
  exact ⟨behind, left, hjoin⟩

/-- A join that is there has been read as one. -/
lemma join_of_optionalJoin {table : String} {behind left : List Token} {clause : JoinClause}
    (h : optionalJoin table behind = .ok (some clause, left)) :
    join table behind = .ok (clause, left) := by
  unfold optionalJoin at h
  obtain ⟨_, _, hahead, h⟩ := bind_eq_ok.mp h
  obtain ⟨rfl, rfl⟩ := Prod.mk.inj (Except.ok.inj hahead)
  cases hword : behind.head?.bind Token.keyword? with
  | none =>
    rw [hword] at h
    cases h
  | some name =>
    rw [hword] at h
    dsimp only at h
    split at h
    · obtain ⟨found, hsome, hfound⟩ := exists_of_bind_pure h
      rwa [← Option.some.inj hsome]
    · cases h

/-- The keys of a join have been told apart by the names of its tables. -/
lemma joinKeys?_of_join {table : String} {tokens rest : List Token} {clause : JoinClause}
    (h : join table tokens = .ok (clause, rest)) :
    ∃ first second,
      joinKeys? table clause.table first second = some (clause.leftKey, clause.rightKey) := by
  unfold join at h
  obtain ⟨kind, _, -, h⟩ := bind_eq_ok.mp h
  obtain ⟨-, _, -, h⟩ := bind_eq_ok.mp h
  obtain ⟨joined, _, -, h⟩ := bind_eq_ok.mp h
  split at h
  · cases h
  · obtain ⟨-, _, -, h⟩ := bind_eq_ok.mp h
    obtain ⟨first, _, -, h⟩ := bind_eq_ok.mp h
    obtain ⟨-, _, -, h⟩ := bind_eq_ok.mp h
    obtain ⟨second, _, -, h⟩ := bind_eq_ok.mp h
    cases hkeys : joinKeys? table joined first second with
    | none =>
      rw [hkeys] at h
      cases h
    | some keys =>
      rw [hkeys] at h
      obtain ⟨rfl, -⟩ := Prod.mk.inj (Except.ok.inj h)
      exact ⟨first, second, hkeys⟩

/-- Keys that have been told apart name one table each. -/
lemma sameTables_of_joinKeys? {table joined : String} {first second leftKey rightKey : ColumnRef}
    (h : joinKeys? table joined first second = some (leftKey, rightKey)) :
    Text.sameIgnoringAsciiCase leftKey.table table = true ∧
      Text.sameIgnoringAsciiCase rightKey.table joined = true := by
  unfold joinKeys? at h
  dsimp only at h
  split at h
  · rename_i hboth
    obtain ⟨rfl, rfl⟩ := Prod.mk.inj (Option.some.inj h)
    exact Bool.and_eq_true_iff.mp hboth
  · split at h
    · rename_i hboth
      obtain ⟨rfl, rfl⟩ := Prod.mk.inj (Option.some.inj h)
      exact (Bool.and_eq_true_iff.mp hboth).symm
    · cases h

/-! ## From a text to its join -/

/-- What has been read from a text has been read from its tokens. -/
lemma exists_tokens_of_read {parser : Parser α} {text : String} {result : α}
    (h : parser.read text = .ok result) :
    ∃ tokens rest, Token.scan text = .ok tokens ∧ parser tokens = .ok (result, rest) := by
  unfold Parser.read at h
  cases hscan : Token.scan text with
  | error e =>
    rw [hscan] at h
    cases h
  | ok tokens =>
    rw [hscan] at h
    change (parser tokens).bind (fun found => .ok found.1) = .ok result at h
    cases hread : parser tokens with
    | error e =>
      rw [hread] at h
      cases h
    | ok found =>
      rw [hread] at h
      obtain rfl := Except.ok.inj h
      exact ⟨tokens, found.2, rfl, hread⟩

/-- The keys of a join that a text spells name the two tables of its query, in any ASCII case. -/
lemma sameTables_of_parse {text : String} {query : SelectStatement} {clause : JoinClause}
    (hparse : Statement.parse text = .ok (.select query)) (hjoin : query.join = some clause) :
    Text.sameIgnoringAsciiCase clause.leftKey.table query.table = true ∧
      Text.sameIgnoringAsciiCase clause.rightKey.table clause.table = true := by
  obtain ⟨tokens, _, -, hstatement⟩ := exists_tokens_of_read hparse
  obtain ⟨behind, _, hoptional⟩ := optionalJoin_of_select (select_of_statement hstatement)
  rw [hjoin] at hoptional
  obtain ⟨first, second, hkeys⟩ := joinKeys?_of_join (join_of_optionalJoin hoptional)
  exact sameTables_of_joinKeys? hkeys

end Sql.Parser

end TableQuery
