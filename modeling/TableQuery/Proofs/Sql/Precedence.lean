import TableQuery.Proofs.Sql.Chains
import TableQuery.Proofs.Sql.Clauses

/-!
# AND before OR

A chain of comparisons behind WHERE is read as its tree, at whatever depth of parentheses the parser
allows for. So it holds of a row when all comparisons of one of its runs hold; where conditions are
read as lists, all comparisons of the chain have to hold (`exists_condition_of_chain`).
-/

namespace TableQuery

namespace Sql

namespace Parser

/-! ## Chains are read as their trees -/

/-- No token is two keywords. -/
lemma isKeyword_eq_false {token : Token} {word other : String} (h : token.isKeyword word = true)
    (hne : word ≠ other) : token.isKeyword other = false := by
  unfold Token.isKeyword at h ⊢
  rw [beq_iff_eq] at h
  rw [h]
  exact beq_false_of_ne fun heq => hne (Option.some.inj heq)

/-- A keyword is no symbol. -/
lemma ne_symbol_of_isKeyword {token : Token} {word : String} (h : token.isKeyword word = true)
    (text : String) : token != .symbol text := by
  rw [bne_iff_ne]
  rintro rfl
  cases h

variable (spelling : Spelling) (chain : Chain)

/-- An operand may be a comparison at any depth of parentheses. -/
lemma atom_reads (depth : Nat) :
    Reads (atom depth) spelling.tokens (.compare spelling.comparison) anything := by
  cases depth with
  | zero => exact comparison_reads_of_spelledBy spelling.spelled
  | succ depth =>
    intro rest _
    refine ((symbol_absent "(").bind_eq _ (follows_spelledBy spelling.spelled "(" rest)).trans ?_
    exact comparison_reads_of_spelledBy spelling.spelled rest (follows_anything rest)

variable {operand : Parser Condition}
  (hoperand : ∀ spelling : Spelling,
    Reads operand spelling.tokens (.compare spelling.comparison) anything)

include hoperand

/-- A run is read as its tree, up to a token other than AND. -/
lemma conjunction_reads {links : List Link} (hlinks : ∀ link ∈ links, link.connective = .and) :
    Reads (Parser.chain "AND" .and operand)
      (spelling.tokens ++ spellOperands Link.keyword (fun link => link.tokens) links)
      (Chain.conjunction spelling links) fun token => !token.isKeyword "AND" := by
  refine chain_reads .and (fun link hlink => ⟨?_, rfl⟩) (hoperand spelling)
    fun (link : Link) _ => hoperand link.toSpelling
  have hword := link.isKeyword
  rwa [hlinks link hlink] at hword

/-- A chain is read as its tree. -/
lemma disjunction_reads_of_chain :
    Reads (disjunction operand) chain.tokens chain.condition endsCondition := by
  have htokens : chain.tokens =
      (chain.first.tokens ++
        spellOperands Link.keyword (fun link => link.tokens) (Chain.upToOr chain.links)) ++
      spellOperands (fun opening => opening.1.keyword) (fun opening => opening.1.tokens ++
        spellOperands Link.keyword (fun link => link.tokens) opening.2)
        (Chain.openings chain.links) := by
    rw [Chain.tokens, Chain.flatMap_openings, ← List.append_assoc]
    rfl
  rw [htokens]
  refine chain_reads .or ?_ (conjunction_reads chain.first hoperand fun link hlink =>
    Chain.connective_of_mem_upToOr hlink) ?_
  · intro opening hopening
    obtain ⟨_, _, -, hor, -⟩ := Chain.mem_openings.mp hopening
    have hword := opening.1.isKeyword
    rw [hor] at hword
    refine ⟨hword, ?_⟩
    rw [isKeyword_eq_false hword (by decide)]
    rfl
  · intro opening hopening
    obtain ⟨_, _, -, -, hrun⟩ := Chain.mem_openings.mp hopening
    refine conjunction_reads opening.1.toSpelling hoperand fun link hlink => ?_
    rw [hrun] at hlink
    exact Chain.connective_of_mem_upToOr hlink

omit hoperand

/-- A chain behind WHERE is read as the condition that its tree is. -/
lemma where_reads_of_chain {keyword : Token} (hword : keyword.isKeyword "WHERE") :
    Reads (clause "WHERE" condition) (keyword :: chain.tokens) (some chain.condition)
      endsCondition := by
  intro rest hrest
  have hkeyword : Reads (Parser.keyword "WHERE") [keyword] true anything := accept_reads hword
  have hcondition : Reads condition chain.tokens chain.condition endsCondition := by
    intro rest hrest
    unfold condition
    rw [conditionWithin_eq]
    exact disjunction_reads_of_chain chain (fun spelling => atom_reads spelling _) rest hrest
  refine (hkeyword.bind_eq _ (follows_anything _)).trans ?_
  exact hcondition.bind_eq _ hrest

end Parser

/-! ## Statements with a chain -/

/-- How a query for all columns or a deletion starts, up to and with WHERE and with keywords in any
case, and the statement that a condition behind it completes. -/
inductive UpToWhere : List Token → (Condition → Statement) → Prop where
  | select {select origin table filter : Token} {name : String}
      (hselect : select.isKeyword "SELECT") (horigin : origin.isKeyword "FROM")
      (htable : table.name? = some name) (hfilter : filter.isKeyword "WHERE") :
      UpToWhere [select, .symbol "*", origin, table, filter] fun condition =>
        .select {
          fields := [.star]
          table := name
          condition := some condition
          join := none
          groupBy := none
          implicitGroup := false
          orderBy := none
          limit := none
          distinct := false }
  | delete {delete origin table filter : Token} {name : String}
      (hdelete : delete.isKeyword "DELETE") (horigin : origin.isKeyword "FROM")
      (htable : table.name? = some name) (hfilter : filter.isKeyword "WHERE") :
      UpToWhere [delete, origin, table, filter] fun condition => .delete ⟨name, some condition⟩

namespace Parser

variable {select delete origin table filter : Token} {name : String} (chain : Chain)

/-- A query for all columns is read with the tree of the chain behind its WHERE. -/
lemma select_of_chain (hselect : select.isKeyword "SELECT") (horigin : origin.isKeyword "FROM")
    (htable : table.name? = some name) (hfilter : filter.isKeyword "WHERE") :
    Parser.select (select :: .symbol "*" :: origin :: table :: filter :: chain.tokens) =
      .ok ({
        fields := [.star]
        table := name
        condition := some chain.condition
        join := none
        groupBy := none
        implicitGroup := false
        orderBy := none
        limit := none
        distinct := false }, []) := by
  have htokens : select :: .symbol "*" :: origin :: table :: filter :: chain.tokens =
      [select] ++ ([] ++ ([.symbol "*"] ++ ([origin] ++ ([table] ++ ([] ++
        ((filter :: chain.tokens) ++ [])))))) := by simp
  -- the keyword of the condition is none of the words that start a join
  have hnojoin : startsNoJoin filter = true := by
    have hword := hfilter
    unfold Token.isKeyword at hword
    rw [startsNoJoin, beq_iff_eq.mp hword]
    decide
  have hsymbols : (origin != point && origin != comma) = true := by
    rw [Bool.and_eq_true_iff]
    exact ⟨ne_symbol_of_isKeyword horigin ".", ne_symbol_of_isKeyword horigin ","⟩
  rw [htokens]
  unfold Parser.select
  refine ((expectKeyword_reads_of_isKeyword hselect _).bind_eq _ (follows_anything _)).trans ?_
  refine ((keyword_absent "DISTINCT").bind_eq _ (follows_cons rfl _)).trans ?_
  refine ((selectList_reads (.inl rfl)).bind_eq _ (follows_cons hsymbols _)).trans ?_
  refine ((expectKeyword_reads_of_isKeyword horigin _).bind_eq _ (follows_anything _)).trans ?_
  refine ((name_reads_of_name? htable _).bind_eq _ (follows_anything _)).trans ?_
  refine ((optionalJoin_absent name).bind_eq _ (follows_cons hnojoin _)).trans ?_
  refine ((where_reads_of_chain chain hfilter).bind_eq _ (follows_nil _)).trans ?_
  rfl

/-- A deletion is read with the tree of the chain behind its WHERE. -/
lemma delete_of_chain (hdelete : delete.isKeyword "DELETE") (horigin : origin.isKeyword "FROM")
    (htable : table.name? = some name) (hfilter : filter.isKeyword "WHERE") :
    Parser.delete (delete :: origin :: table :: filter :: chain.tokens) =
      .ok (⟨name, some chain.condition⟩, []) := by
  have htokens : delete :: origin :: table :: filter :: chain.tokens =
      [delete] ++ ([origin] ++ ([table] ++ ((filter :: chain.tokens) ++ []))) := by simp
  rw [htokens]
  unfold Parser.delete
  refine ((expectKeyword_reads_of_isKeyword hdelete _).bind_eq _ (follows_anything _)).trans ?_
  refine ((expectKeyword_reads_of_isKeyword horigin _).bind_eq _ (follows_anything _)).trans ?_
  refine ((name_reads_of_name? htable _).bind_eq _ (follows_anything _)).trans ?_
  refine ((where_reads_of_chain chain hfilter).bind_eq _ (follows_nil _)).trans ?_
  rfl

/-- A statement whose condition is a chain is read with the tree of the chain. -/
lemma statement_of_upToWhere {front : List Token} {complete : Condition → Statement}
    (h : UpToWhere front complete) :
    statement (front ++ chain.tokens) = .ok (complete chain.condition, []) := by
  cases h with
  | select hselect horigin htable hfilter =>
    have hread := select_of_chain chain hselect horigin htable hfilter
    simp only [List.cons_append, List.nil_append, statement, ahead_bind, List.head?_cons, hselect,
      if_true]
    change (Parser.select _).bind _ = _
    rw [hread]
    rfl
  | delete hdelete horigin htable hfilter =>
    have hread := delete_of_chain chain hdelete horigin htable hfilter
    have hselect := isKeyword_eq_false hdelete (by decide : "DELETE" ≠ "SELECT")
    have hinsert := isKeyword_eq_false hdelete (by decide : "DELETE" ≠ "INSERT")
    simp only [List.cons_append, List.nil_append, statement, ahead_bind, List.head?_cons, hselect,
      hinsert, hdelete, if_true, Bool.false_eq_true, if_false]
    change (Parser.delete _).bind _ = _
    rw [hread]
    rfl

end Parser

/-- A chain of comparisons without parentheses is read as a condition on these comparisons in this
order, wherever a WHERE is read and in whole statements. On a row in which all their fields resolve
the condition has a verdict. Read as a tree, it holds when all comparisons of some run hold; read as
a list, when all comparisons hold. -/
theorem exists_condition_of_chain (chain : Chain) :
    ∃ condition : Condition,
      (∀ (filter : Token) (rest : List Token), filter.isKeyword "WHERE" = true →
        Parser.Follows Parser.endsCondition rest →
        Parser.clause "WHERE" Parser.condition ((filter :: chain.tokens) ++ rest) =
          .ok (some condition, rest)) ∧
      (∀ (front : List Token) (complete : Condition → Statement) (text : String),
        UpToWhere front complete → Token.scan text = .ok (front ++ chain.tokens) →
        Statement.parse text = .ok (complete condition)) ∧
      condition.comparisons = chain.comparisons ∧
      ∀ row : Row, row.Resolves (Comparison.fields chain.comparisons) → ∀ ignoreCase,
        (∃ verdict, condition.holds ⟨.boolean, ignoreCase⟩ row = .ok verdict ∧
          (verdict = true ↔ ∃ run, chain.IsRun run ∧
            ∀ comparison ∈ run, comparison.holds ignoreCase row = .ok true)) ∧
        ∃ verdict, condition.holds ⟨.conjunctive, ignoreCase⟩ row = .ok verdict ∧
          (verdict = true ↔
            ∀ comparison ∈ chain.comparisons, comparison.holds ignoreCase row = .ok true) := by
  refine ⟨chain.condition, ?_, ?_, chain.comparisons_condition, ?_⟩
  · intro filter rest hfilter hrest
    exact Parser.where_reads_of_chain chain hfilter rest hrest
  · intro front complete text hfront hscan
    unfold Statement.parse Parser.read
    rw [hscan]
    change (Parser.statement (front ++ chain.tokens)).bind _ = _
    rw [Parser.statement_of_upToWhere chain hfront]
    rfl
  · intro row hresolves ignoreCase
    -- comparisons of the chain hold when their verdicts say so, as their fields resolve
    have hall {comparisons : List Comparison} (hsub : comparisons ⊆ chain.comparisons) :
        comparisons.all (Comparison.verdict ignoreCase row) = true ↔
          ∀ comparison ∈ comparisons, comparison.holds ignoreCase row = .ok true := by
      rw [List.all_eq_true]
      refine forall₂_congr fun comparison hmem => ?_
      rw [Comparison.holds_eq_verdict hresolves (hsub hmem), Except.ok.injEq]
    have hfields := hresolves
    rw [← chain.comparisons_condition] at hfields
    constructor
    · refine ⟨_, Condition.holdsTree_eq_verdict hfields ignoreCase, ?_⟩
      rw [chain.verdict_condition, List.any_eq_true]
      refine exists_congr fun run => ?_
      rw [Chain.mem_runs]
      exact and_congr_right fun hrun => hall hrun.subset
    · refine ⟨_, Condition.holdAll_eq_all hfields ignoreCase, ?_⟩
      rw [chain.comparisons_condition]
      exact hall (List.Subset.refl _)

/-- Of three comparisons the last two make up a run that holds, while the first one does not hold.
The keywords are in any case, and a field and a number are written in more than one token. -/
theorem exists_condition_of_chain_of_letters :
    let text := "delete from t where t.a = -2 Or b >= 2 and c like 'x%'"
    let comparisons : List Comparison :=
      [⟨"t.a", .eq, .int64 (-2)⟩, ⟨"b", .ge, .int64 2⟩, ⟨"c", .like, .text "x%"⟩]
    let row : Row := .ofList [("a", .int64 1), ("b", .int64 2), ("c", .text "xy")]
    ∃ condition, Statement.parse text = .ok (.delete ⟨"t", some condition⟩) ∧
      condition.comparisons = comparisons ∧ row.Resolves (Comparison.fields comparisons) ∧
      condition.holds ⟨.boolean, false⟩ row = .ok true ∧
      condition.holds ⟨.conjunctive, false⟩ row = .ok false := by
  intro text comparisons row
  let word (text : String) : Token := .word text none
  let second : Link := {
    comparison := ⟨"b", .ge, .int64 2⟩
    tokens := [word "b", .symbol ">=", .number "2" false]
    spelled := .intro (.column (by decide +kernel)) rfl (.number (by decide +kernel))
    connective := .or
    keyword := word "Or"
    isKeyword := by decide +kernel }
  let third : Link := {
    comparison := ⟨"c", .like, .text "x%"⟩
    tokens := [word "c", word "like", .quoted "x%"]
    spelled := .intro (.column (by decide +kernel)) (by decide +kernel) (.word rfl)
    connective := .and
    keyword := word "and"
    isKeyword := by decide +kernel }
  let chain : Chain := {
    first := {
      comparison := ⟨"t" ++ "." ++ "a", .eq, .int64 (-2)⟩
      tokens := [word "t", point, word "a"] ++
        ([.symbol "="] ++ [.symbol "-", .number "2" false])
      spelled := .intro
        (show SpellsField ("t" ++ "." ++ "a") [word "t", point, word "a"] from
          .qualified (by decide +kernel) (by decide +kernel)) rfl
        (show SpellsLiteral (.int64 (-2), "-" ++ "2") [.symbol "-", .number "2" false] from
          .negative (by decide +kernel)) }
    links := [second, third] }
  have hfront : UpToWhere [word "delete", word "from", word "t", word "where"]
      fun condition => .delete ⟨"t", some condition⟩ :=
    .delete (by decide +kernel) (by decide +kernel) (by decide +kernel) (by decide +kernel)
  have hscan : Token.scan text =
      .ok ([word "delete", word "from", word "t", word "where"] ++ chain.tokens) := by
    decide +kernel
  have hchain : chain.comparisons = comparisons := by decide +kernel
  have hresolves : row.Resolves (Comparison.fields comparisons) := by
    intro field hfield
    simp only [Comparison.fields, comparisons, List.map_cons, List.map_nil, List.mem_cons,
      List.not_mem_nil, or_false] at hfield
    rcases hfield with rfl | rfl | rfl
    · exact ⟨.int64 1, by decide +kernel⟩
    · exact ⟨.int64 2, by decide +kernel⟩
    · exact ⟨.text "xy", by decide +kernel⟩
  obtain ⟨condition, -, hparse, hcomparisons, hholds⟩ := exists_condition_of_chain chain
  rw [hchain] at hcomparisons hholds
  obtain ⟨⟨tree, htree, hrun⟩, list, hlist, hall⟩ := hholds row hresolves false
  refine ⟨condition, hparse _ _ text hfront hscan, hcomparisons, hresolves, ?_, ?_⟩
  · have hlinks : chain.links = [] ++ second :: [third] := rfl
    have hbehind : chain.IsRun (Chain.runFrom second.toSpelling [third]) := .behindOr hlinks rfl
    rw [htree, hrun.mpr ⟨_, hbehind, by decide +kernel⟩]
  · rw [hlist]
    cases list with
    | false => rfl
    | true =>
      have hfirst := hall.mp rfl ⟨"t.a", .eq, .int64 (-2)⟩ List.mem_cons_self
      exact absurd hfirst (by decide +kernel)

end Sql

end TableQuery
