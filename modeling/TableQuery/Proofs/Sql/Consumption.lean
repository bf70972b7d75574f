import TableQuery.Proofs.Sql.Joins
import TableQuery.Proofs.Sql.Spelling

/-!
# What parsers consume

`Consumes` says of a parser what holds whenever it succeeds: the result is acceptable, the tokens
left are the end of the tokens given, no semicolon is among those taken, and the same tokens are
taken with the same result in front of any rest that looks the same to a parser, which sees no more
of it than its length and its first token. It holds of the ways in which parsers are put together
(`Consumes.bind`, `consumes_separated`, `consumes_chain`) and of all parsers below a statement.
-/

namespace TableQuery

namespace Sql.Parser

variable {α β : Type}

/-- The token that ends a statement. -/
def semicolon : Token := .symbol ";"

/-- Two lists of tokens that look the same to the parser in front of them. -/
structure Alike (rest rest' : List Token) : Prop where
  length : rest'.length = rest.length
  head : rest'.head? = rest.head?

/-- Behind the same tokens lists still look the same. -/
lemma Alike.append {rest rest' : List Token} (h : Alike rest rest') (taken : List Token) :
    Alike (taken ++ rest) (taken ++ rest') where
  length := by simp only [List.length_append, h.length]
  head := by simp only [List.head?_append, h.head]

/-- What a success of a parser entails. -/
def Consumes (parser : Parser α) (post : α → Prop) : Prop :=
  ∀ ⦃tokens result rest⦄, parser tokens = .ok (result, rest) →
    post result ∧ ∃ taken, tokens = taken ++ rest ∧ semicolon ∉ taken ∧
      ∀ rest', Alike rest rest' → parser (taken ++ rest') = .ok (result, rest')

/-! ## One parser after the other -/

variable {parser : Parser α} {post : α → Prop} {post' : β → Prop}

/-- A result that is given without reading takes nothing. -/
lemma consumes_pure {a : α} (h : post a) : Consumes (pure a) post := by
  intro tokens result rest hread
  obtain ⟨rfl, rfl⟩ := Prod.mk.inj (Except.ok.inj hread)
  exact ⟨h, [], rfl, List.not_mem_nil, fun _ _ => rfl⟩

/-- Of a parser that never succeeds there is nothing to say. -/
lemma consumes_throw (e : Error) : Consumes (throw e) post := by
  intro tokens result rest hread
  cases hread

/-- A parser that fails never succeeds, whatever the reason. -/
lemma consumes_fail (reason : String) : Consumes (fail reason) post := by
  intro tokens result rest hread
  cases hread

/-- Behind a parser the next one may count on what is known of its result. -/
lemma Consumes.bind {then_ : α → Parser β} (h : Consumes parser post)
    (hthen : ∀ a, post a → Consumes (then_ a) post') : Consumes (parser >>= then_) post' := by
  intro tokens result rest hread
  obtain ⟨a, left, hfirst, hsecond⟩ := bind_eq_ok.mp hread
  obtain ⟨ha, taken, rfl, hnone, hagain⟩ := h hfirst
  obtain ⟨hresult, behind, rfl, hnone', hagain'⟩ := hthen a ha hsecond
  refine ⟨hresult, taken ++ behind, (List.append_assoc ..).symm, ?_, fun rest' hrest => ?_⟩
  · simp only [List.mem_append, hnone, hnone', or_self, not_false_eq_true]
  · rw [List.append_assoc]
    exact bind_eq_ok.mpr ⟨a, behind ++ rest', hagain _ (hrest.append behind), hagain' _ hrest⟩

/-- What is known of the results of a parser may be weakened. -/
lemma Consumes.mono {weaker : α → Prop} (h : Consumes parser post)
    (hpost : ∀ a, post a → weaker a) : Consumes parser weaker := by
  intro tokens result rest hread
  obtain ⟨hresult, htaken⟩ := h hread
  exact ⟨hpost result hresult, htaken⟩

/-- A choice between two parsers consumes as either of them does. -/
lemma Consumes.ite {c : Prop} [Decidable c] {parser' : Parser α} (h : c → Consumes parser post)
    (h' : ¬ c → Consumes parser' post) : Consumes (if c then parser else parser') post := by
  split
  · exact h ‹_›
  · exact h' ‹_›

/-- A parser that is bounded by the number of tokens that there are. -/
lemma consumes_bounded {parser : Nat → Parser α} (h : ∀ bound, Consumes (parser bound) post) :
    Consumes (fun tokens => parser tokens.length tokens) post := by
  intro tokens result rest hread
  obtain ⟨hresult, taken, rfl, hnone, hagain⟩ := h _ hread
  refine ⟨hresult, taken, rfl, hnone, fun rest' hrest => ?_⟩
  have hlength := (hrest.append taken).length
  dsimp only
  rw [hlength]
  exact hagain rest' hrest

/-! ## Single tokens -/

/-- A look at the next token takes nothing. -/
lemma consumes_ahead {then_ : List Token → Parser α}
    (hhead : ∀ tokens tokens' : List Token, tokens'.head? = tokens.head? →
      then_ tokens' = then_ tokens)
    (h : ∀ tokens, Consumes (then_ tokens) post) : Consumes (ahead >>= then_) post := by
  intro tokens result rest hread
  rw [ahead_bind] at hread
  obtain ⟨hresult, taken, rfl, hnone, hagain⟩ := h _ hread
  refine ⟨hresult, taken, rfl, hnone, fun rest' hrest => ?_⟩
  rw [ahead_bind, hhead _ _ (hrest.append taken).head]
  exact hagain rest' hrest

/-- A parser that either takes exactly the next token, whatever comes behind it, or fails. -/
lemma consumes_of_single (hnil : ∃ e, parser [] = .error e)
    (h : ∀ token, (∃ result, post result ∧ token ≠ semicolon ∧
        ∀ rest, parser (token :: rest) = .ok (result, rest)) ∨
      ∀ rest, ∃ e, parser (token :: rest) = .error e) : Consumes parser post := by
  intro tokens result rest hread
  cases tokens with
  | nil =>
    obtain ⟨e, he⟩ := hnil
    rw [he] at hread
    cases hread
  | cons token behind =>
    obtain ⟨taken, hpost, hne, hall⟩ | herror := h token
    · rw [hall] at hread
      obtain ⟨rfl, rfl⟩ := Prod.mk.inj (Except.ok.inj hread)
      refine ⟨hpost, [token], rfl, ?_, fun rest' _ => hall rest'⟩
      rw [List.mem_singleton]
      exact hne.symm
    · obtain ⟨e, he⟩ := herror behind
      rw [he] at hread
      cases hread

/-- A wanted token is taken if it is there, as long as the semicolon is not wanted. -/
lemma consumes_accept {wanted : Token → Bool} (h : wanted semicolon = false) :
    Consumes (accept wanted) fun _ => True := by
  intro tokens result rest hread
  cases tokens with
  | nil =>
    obtain ⟨rfl, rfl⟩ := Prod.mk.inj (Except.ok.inj hread)
    refine ⟨trivial, [], rfl, List.not_mem_nil, fun rest' hrest => ?_⟩
    obtain rfl := List.eq_nil_of_length_eq_zero hrest.length
    rfl
  | cons token behind =>
    simp only [accept] at hread
    cases hwanted : wanted token with
    | true =>
      rw [hwanted] at hread
      obtain ⟨rfl, rfl⟩ := Prod.mk.inj (Except.ok.inj hread)
      refine ⟨trivial, [token], rfl, ?_, fun rest' _ => ?_⟩
      · rw [List.mem_singleton]
        rintro rfl
        rw [h] at hwanted
        cases hwanted
      · exact accept_reads hwanted rest' (follows_anything rest')
    | false =>
      rw [hwanted] at hread
      obtain ⟨rfl, rfl⟩ := Prod.mk.inj (Except.ok.inj hread)
      refine ⟨trivial, [], rfl, List.not_mem_nil, fun rest' hrest => ?_⟩
      refine accept_absent wanted rest' fun first hfirst => ?_
      rw [hrest.head] at hfirst
      obtain rfl := Option.some.inj hfirst
      simp [hwanted]

/-- A wanted token that was found stood in front. -/
lemma accept_eq_ok_true {wanted : Token → Bool} {tokens rest : List Token}
    (h : accept wanted tokens = .ok (true, rest)) :
    ∃ token, wanted token = true ∧ tokens = token :: rest := by
  cases tokens with
  | nil => cases h
  | cons token behind =>
    simp only [accept] at h
    split at h
    · obtain ⟨-, rfl⟩ := Prod.mk.inj (Except.ok.inj h)
      exact ⟨token, ‹_›, rfl⟩
    · cases h

/-- Where no wanted token was found nothing was taken. -/
lemma accept_eq_ok_false {wanted : Token → Bool} {tokens rest : List Token}
    (h : accept wanted tokens = .ok (false, rest)) : tokens = rest := by
  cases tokens with
  | nil =>
    obtain ⟨-, rfl⟩ := Prod.mk.inj (Except.ok.inj h)
    rfl
  | cons token behind =>
    simp only [accept] at h
    split at h
    · cases h
    · exact (Prod.mk.inj (Except.ok.inj h)).2

/-- A keyword is taken if it is there. -/
lemma consumes_keyword (name : String) : Consumes (keyword name) fun _ => True :=
  consumes_accept rfl

/-- A symbol other than the semicolon is taken if it is there. -/
lemma consumes_symbol {text : String} (h : text ≠ ";") :
    Consumes (symbol text) fun _ => True := by
  refine consumes_accept ?_
  rw [beq_eq_false_iff_ne]
  intro hsymbol
  exact h (Token.symbol.inj hsymbol).symm

/-- An expected keyword is taken. -/
lemma consumes_expectKeyword (name reason : String) :
    Consumes (expectKeyword name reason) fun _ => True := by
  refine (consumes_keyword name).bind fun found _ => Consumes.ite ?_ ?_
  · exact fun _ => consumes_pure trivial
  · exact fun _ => consumes_fail reason

/-- An expected symbol other than the semicolon is taken. -/
lemma consumes_expectSymbol {text : String} (h : text ≠ ";") (reason : String) :
    Consumes (expectSymbol text reason) fun _ => True := by
  refine (consumes_symbol h).bind fun found _ => Consumes.ite ?_ ?_
  · exact fun _ => consumes_pure trivial
  · exact fun _ => consumes_fail reason

/-! ## Clauses, items between commas and operands between keywords -/

/-- An optional clause gives an acceptable body if it is there. -/
lemma consumes_clause (name : String) (h : Consumes parser post) :
    Consumes (clause name parser) fun found => ∀ a ∈ found, post a := by
  refine (consumes_keyword name).bind fun found _ => Consumes.ite ?_ ?_
  · intro _
    refine h.bind fun a ha => consumes_pure ?_
    intro b hb
    obtain rfl := Option.some.inj hb
    exact ha
  · intro _
    refine consumes_pure ?_
    intro b hb
    cases hb

/-- Within a bound on the commas there is an item, and all items are acceptable. -/
lemma consumes_separatedUpTo (h : Consumes parser post) (bound : Nat) :
    Consumes (separatedUpTo parser bound) fun items => items ≠ [] ∧ ∀ a ∈ items, post a := by
  have hsingle {a : α} (ha : post a) : [a] ≠ [] ∧ ∀ b ∈ [a], post b := by
    refine ⟨List.cons_ne_nil a [], fun b hb => ?_⟩
    obtain rfl := List.mem_singleton.mp hb
    exact ha
  induction bound with
  | zero => exact h.bind fun a ha => consumes_pure (hsingle ha)
  | succ bound ih =>
    refine h.bind fun a ha => (consumes_symbol (by decide)).bind fun found _ =>
      Consumes.ite ?_ ?_
    · intro _
      refine ih.bind fun items hitems => consumes_pure ⟨List.cons_ne_nil a items, ?_⟩
      intro b hb
      obtain rfl | hb := List.mem_cons.mp hb
      · exact ha
      · exact hitems.2 b hb
    · exact fun _ => consumes_pure (hsingle ha)

/-- There is an item between commas, and all of them are acceptable. -/
lemma consumes_separated (h : Consumes parser post) :
    Consumes (separated parser) fun items => items ≠ [] ∧ ∀ a ∈ items, post a :=
  consumes_bounded (consumes_separatedUpTo h)

/-- Within a bound on the keywords an operand is taken behind each of them. -/
lemma consumes_chainUpTo (name : String) (build : α → α → α)
    (h : Consumes parser fun _ => True) (bound : Nat) (left : α) :
    Consumes (chainUpTo name build parser bound left) fun _ => True := by
  induction bound generalizing left with
  | zero => exact consumes_pure trivial
  | succ bound ih =>
    refine (consumes_keyword name).bind fun found _ => Consumes.ite ?_ ?_
    · exact fun _ => h.bind fun a _ => ih (build left a)
    · exact fun _ => consumes_pure trivial

/-- Operands between keywords are taken. -/
lemma consumes_chain (name : String) (build : α → α → α) (h : Consumes parser fun _ => True) :
    Consumes (chain name build parser) fun _ => True :=
  h.bind fun first _ =>
    consumes_bounded fun bound => consumes_chainUpTo name build h bound first

/-! ## Names -/

/-- A name is read exactly when a token spells it. -/
lemma name_eq_ok {what text : String} {tokens rest : List Token} :
    name what tokens = .ok (text, rest) ↔
      ∃ token, token.name? = some text ∧ tokens = token :: rest := by
  constructor
  · intro h
    unfold name at h
    rw [ahead_bind] at h
    cases tokens with
    | nil => cases h
    | cons token behind =>
      rw [List.head?_cons, Option.bind_some] at h
      cases hname : token.name? with
      | none =>
        rw [hname] at h
        cases h
      | some found =>
        rw [hname] at h
        obtain ⟨rfl, rfl⟩ := Prod.mk.inj (Except.ok.inj h)
        exact ⟨token, hname, rfl⟩
  · rintro ⟨token, hname, rfl⟩
    unfold name
    rw [ahead_bind, List.head?_cons, Option.bind_some, hname]
    rfl

/-- The semicolon is no name. -/
lemma ne_semicolon_of_name? {token : Token} {text : String} (h : token.name? = some text) :
    token ≠ semicolon := by
  rintro rfl
  cases h

/-- A name is one token. -/
lemma consumes_name (what : String) : Consumes (name what) fun _ => True := by
  refine consumes_of_single ⟨_, rfl⟩ fun token => ?_
  cases hname : token.name? with
  | some text =>
    refine .inl ⟨text, trivial, ne_semicolon_of_name? hname, fun rest => ?_⟩
    exact name_reads_of_name? hname what rest (follows_anything rest)
  | none =>
    refine .inr fun rest => ?_
    unfold name
    rw [ahead_bind, List.head?_cons, Option.bind_some, hname]
    exact ⟨_, rfl⟩

/-- What may come behind the first name of a field. -/
lemma consumes_fieldRef_tail (first : String) :
    Consumes (do if ← symbol "." then return first ++ "." ++ (← columnName) else return first)
      fun _ => True := by
  refine (consumes_symbol (by decide)).bind fun found _ => Consumes.ite ?_ ?_
  · exact fun _ => (consumes_name _).bind fun column _ => consumes_pure trivial
  · exact fun _ => consumes_pure trivial

/-- A field is a name, or two with a point between them. -/
lemma consumes_fieldRef (what : String) : Consumes (fieldRef what) fun _ => True :=
  (consumes_name what).bind fun first _ => consumes_fieldRef_tail first

/-! ## Conditions and limits -/

/-- A literal is read from the tokens that spell it: a number behind its sign, or a word where there
is no sign. -/
lemma spells_of_literal {tokens rest : List Token} {result : Value × String}
    (hread : literal tokens = .ok (result, rest)) :
    ∃ written, SpellsLiteral result written ∧ tokens = written ++ rest := by
  unfold literal at hread
  obtain ⟨negative, left, hsign, h⟩ := bind_eq_ok.mp hread
  clear hread
  rw [ahead_bind] at h
  cases left with
  | nil => cases negative <;> cases h
  | cons token behind =>
    cases negative with
    | true =>
      -- behind a minus sign only a number is a literal
      obtain ⟨minus, hminus, rfl⟩ := accept_eq_ok_true hsign
      obtain rfl := beq_iff_eq.mp hminus
      cases token with
      | number digits long =>
        cases hvalue : numberValue? ("-" ++ digits) with
        | none =>
          simp only [List.head?_cons, ↓reduceIte, hvalue] at h
          cases h
        | some value =>
          simp only [List.head?_cons, ↓reduceIte, hvalue] at h
          obtain ⟨rfl, rfl⟩ := Prod.mk.inj (Except.ok.inj h)
          exact ⟨_, .negative hvalue, rfl⟩
      | _ => cases h
    | false =>
      obtain rfl := accept_eq_ok_false hsign
      cases hword : wordValue? token with
      | some found =>
        have hresult : (found, behind) = (result, rest) := by
          cases token with
          | number digits long => cases hword
          | _ =>
            simp only [List.head?_cons, Bool.false_eq_true, ↓reduceIte, Option.bind_some,
              hword] at h
            exact Except.ok.inj h
        obtain ⟨rfl, rfl⟩ := Prod.mk.inj hresult
        exact ⟨_, .word hword, rfl⟩
      | none =>
        cases token with
        | number digits long =>
          cases hvalue : numberValue? digits with
          | none =>
            simp only [List.head?_cons, Bool.false_eq_true, ↓reduceIte, hvalue] at h
            cases h
          | some value =>
            simp only [List.head?_cons, Bool.false_eq_true, ↓reduceIte, hvalue] at h
            obtain ⟨rfl, rfl⟩ := Prod.mk.inj (Except.ok.inj h)
            exact ⟨_, .number hvalue, rfl⟩
        | _ =>
          simp only [List.head?_cons, Bool.false_eq_true, ↓reduceIte, Option.bind_some, hword] at h
          cases h

/-- No literal is spelled with a semicolon. -/
lemma semicolon_not_mem_of_spellsLiteral {result : Value × String} {written : List Token}
    (h : SpellsLiteral result written) : semicolon ∉ written := by
  cases h with
  | number => simp [semicolon]
  | negative => simp [semicolon]
  | word h =>
    rw [List.mem_singleton]
    rintro rfl
    cases h

/-- A literal is the tokens that spell it. -/
lemma consumes_literal : Consumes literal fun _ => True := by
  intro tokens result rest hread
  obtain ⟨written, hspells, rfl⟩ := spells_of_literal hread
  refine ⟨trivial, written, rfl, semicolon_not_mem_of_spellsLiteral hspells, fun rest' _ => ?_⟩
  exact literal_reads_of_spells hspells rest' (follows_anything rest')

/-- A limit is a number, perhaps behind a sign. -/
lemma consumes_limit : Consumes limit fun _ => True := by
  refine (consumes_symbol (by decide)).bind fun negative _ => ?_
  refine consumes_of_single ⟨_, rfl⟩ fun token => ?_
  cases token with
  | number digits long =>
    cases hvalue : Literal.readInt64? digits.toList with
    | some i =>
      refine .inl ⟨if negative then -i else i, trivial, by rintro ⟨⟩, fun rest => ?_⟩
      simp only [ahead_bind, List.head?_cons, hvalue]
      rfl
    | none =>
      refine .inr fun rest => ?_
      simp only [ahead_bind, List.head?_cons, hvalue]
      exact ⟨_, rfl⟩
  | _ => exact .inr fun rest => ⟨_, rfl⟩

/-- An operator is one token. -/
lemma consumes_operator : Consumes operator fun _ => True := by
  refine consumes_of_single ⟨_, rfl⟩ fun token => ?_
  cases hoperator : operator? token with
  | some operator =>
    refine .inl ⟨operator, trivial, ?_, fun rest => ?_⟩
    · rintro rfl
      cases hoperator
    · exact operator_reads_of_operator? hoperator rest (follows_anything rest)
  | none =>
    refine .inr fun rest => ?_
    unfold operator
    rw [ahead_bind, List.head?_cons, Option.bind_some, hoperator]
    cases unsupportedOperator? (token :: rest) <;> exact ⟨_, rfl⟩

/-- A comparison is a field, an operator and a literal. -/
lemma consumes_comparison : Consumes comparison fun _ => True :=
  (consumes_fieldRef _).bind fun _ _ => consumes_operator.bind fun _ _ =>
    consumes_literal.bind fun _ _ => consumes_pure trivial

/-- A group is what stands between parentheses, or a comparison. -/
lemma consumes_group {inner : Parser Condition} (h : Consumes inner fun _ => True) :
    Consumes (group inner) fun _ => True := by
  refine (consumes_symbol (by decide)).bind fun found _ => Consumes.ite ?_ ?_
  · intro _
    exact h.bind fun _ _ => (consumes_expectSymbol (by decide) _).bind fun _ _ =>
      consumes_pure trivial
  · exact fun _ => consumes_comparison

/-- Operands between AND and OR are taken if each of them is. -/
lemma consumes_disjunction {operand : Parser Condition} (h : Consumes operand fun _ => True) :
    Consumes (disjunction operand) fun _ => True :=
  consumes_chain "OR" Condition.or (consumes_chain "AND" Condition.and h)

/-- At every depth of parentheses a condition is taken. -/
lemma consumes_conditionWithin (depth : Nat) :
    Consumes (conditionWithin depth) fun _ => True := by
  induction depth with
  | zero => exact consumes_disjunction consumes_comparison
  | succ depth ih => exact consumes_disjunction (consumes_group ih)

/-- A condition is taken, at a depth that the number of tokens bounds. -/
lemma consumes_condition : Consumes condition fun _ => True :=
  consumes_bounded consumes_conditionWithin

/-! ## Select lists and sort keys -/

/-- The star is read under COUNT alone. -/
lemma consumes_aggregateArgument (function : AggregateFunction) :
    Consumes (aggregateArgument function) fun argument =>
      argument = .star → function = .count := by
  refine (consumes_symbol (by decide)).bind fun found _ => Consumes.ite ?_ ?_
  · intro _
    refine Consumes.ite ?_ ?_
    · exact fun hcount => consumes_pure fun _ => hcount
    · exact fun _ => consumes_fail _
  · intro _
    refine (consumes_fieldRef _).bind fun name _ => consumes_pure ?_
    rintro ⟨⟩

/-- The name of the function that some tokens apply. -/
def calledFunction? (tokens : List Token) : Option String :=
  match tokens.head?, tokens.tail.head? with
  | some (.word name none), some (.symbol "(") => some name
  | _, _ => none

/-- Whether a function is applied is seen from one token behind its name. -/
lemma calledFunction?_cons (token : Token) {rest rest' : List Token}
    (h : rest'.head? = rest.head?) :
    calledFunction? (token :: rest') = calledFunction? (token :: rest) := by
  simp only [calledFunction?, List.tail_cons, List.head?_cons, h]

/-- A function is applied when a word stands in front of a parenthesis. -/
lemma calledFunction?_eq_some {tokens : List Token} {name : String} :
    calledFunction? tokens = some name ↔
      ∃ rest, tokens = .word name none :: .symbol "(" :: rest := by
  constructor
  · intro h
    unfold calledFunction? at h
    split at h
    · rename_i found hfirst hsecond
      obtain rfl := Option.some.inj h
      obtain ⟨behind, rfl⟩ := List.head?_eq_some_iff.mp hfirst
      obtain ⟨rest, hrest⟩ := List.head?_eq_some_iff.mp hsecond
      exact ⟨rest, congrArg _ hrest⟩
    · cases h
  · rintro ⟨rest, rfl⟩
    rfl

/-- An entry is read as an aggregate if a function is applied, and as a column otherwise. -/
lemma selectItem_eq (tokens : List Token) :
    selectItem tokens =
      match calledFunction? tokens with
      | some name => aggregate name tokens
      | none => (fieldRef "field name" >>= fun field => pure (.column field)) tokens := by
  unfold selectItem
  rw [ahead_bind]
  split
  · rfl
  · rename_i hcall
    cases hname : calledFunction? tokens with
    | none => rfl
    | some name =>
      obtain ⟨rest, rfl⟩ := calledFunction?_eq_some.mp hname
      exact absurd rfl (hcall name rest)

/-- An aggregate behind the name of its function. -/
lemma consumes_aggregate_tail (function : AggregateFunction) :
    Consumes (do
      expectSymbol "(" "expected `(`"
      let argument ← aggregateArgument function
      expectSymbol ")" "expected `)` after aggregate argument"
      return SelectItem.aggregate ⟨function, argument⟩) SelectItem.WellFormed :=
  (consumes_expectSymbol (by decide) _).bind fun _ _ =>
    (consumes_aggregateArgument function).bind fun _ hargument =>
      (consumes_expectSymbol (by decide) _).bind fun _ _ => consumes_pure hargument

/-- An entry of a select list is a column or an aggregate, and the star is not among them. To tell
them apart takes a look at the second token, which one of the first two parsers takes. -/
lemma consumes_selectItem : Consumes selectItem SelectItem.WellFormed := by
  intro tokens item rest hread
  rw [selectItem_eq] at hread
  cases hname : calledFunction? tokens with
  | some name =>
    rw [hname] at hread
    obtain ⟨behind, rfl⟩ := calledFunction?_eq_some.mp hname
    dsimp only at hread
    unfold aggregate at hread
    rw [skip_bind] at hread
    cases hfunction : AggregateFunction.ofName? name with
    | none =>
      rw [hfunction] at hread
      cases hread
    | some function =>
      rw [hfunction] at hread
      -- the parenthesis that was looked at is the first token that the tail takes
      obtain ⟨hitem, taken, htaken, hnone, hagain⟩ := consumes_aggregate_tail function hread
      refine ⟨hitem, .word name none :: taken, congrArg _ htaken, ?_, fun rest' hrest => ?_⟩
      · rw [List.mem_cons, not_or]
        exact ⟨by rintro ⟨⟩, hnone⟩
      · have halike := hrest.append taken
        rw [← htaken] at halike
        rw [List.cons_append, selectItem_eq, calledFunction?_cons _ halike.head, hname]
        dsimp only
        unfold aggregate
        rw [skip_bind, hfunction]
        exact hagain rest' hrest
  | none =>
    rw [hname] at hread
    obtain ⟨field, rfl, hfield⟩ := exists_of_bind_pure hread
    obtain ⟨first, left, hfirst, htail⟩ := bind_eq_ok.mp hfield
    obtain ⟨token, htoken, rfl⟩ := name_eq_ok.mp hfirst
    obtain ⟨-, taken, rfl, hnone, hagain⟩ := consumes_fieldRef_tail first htail
    refine ⟨trivial, token :: taken, rfl, ?_, fun rest' hrest => ?_⟩
    · rw [List.mem_cons, not_or]
      exact ⟨(ne_semicolon_of_name? htoken).symm, hnone⟩
    · rw [List.cons_append, selectItem_eq, calledFunction?_cons _ (hrest.append taken).head, hname]
      refine bind_eq_ok.mpr ⟨field, rest', ?_, rfl⟩
      exact bind_eq_ok.mpr ⟨first, taken ++ rest', name_eq_ok.mpr ⟨token, htoken, rfl⟩,
        hagain rest' hrest⟩

/-- A select list is the star alone or a list of entries without a star. -/
lemma consumes_selectList :
    Consumes selectList fun fields =>
      fields = [.star] ∨ fields ≠ [] ∧ ∀ item ∈ fields, item.WellFormed := by
  refine (consumes_symbol (by decide)).bind fun found _ => Consumes.ite ?_ ?_
  · intro _
    refine consumes_ahead (fun tokens tokens' h => by rw [h]) fun tokens => Consumes.ite ?_ ?_
    · exact fun _ => consumes_fail _
    · exact fun _ => consumes_pure (.inl rfl)
  · exact fun _ => (consumes_separated consumes_selectItem).mono fun fields hfields => .inr hfields

/-- A sort key is an entry of a select list with an optional direction. -/
lemma consumes_orderKey : Consumes orderKey fun _ => True := by
  refine consumes_selectItem.bind fun item _ => (consumes_keyword _).bind fun found _ =>
    Consumes.ite ?_ ?_
  · exact fun _ => consumes_pure trivial
  · exact fun _ => (consumes_keyword _).bind fun _ _ => consumes_pure trivial

/-- A list behind GROUP BY or ORDER BY has an item. -/
lemma consumes_byClause {parser : Parser α} (name : String)
    (h : Consumes parser fun _ => True) :
    Consumes (byClause name parser) fun items => items ≠ some [] := by
  have hbody : Consumes (do
      expectKeyword "BY" ("expected BY after " ++ name)
      separated parser) fun items => items ≠ [] :=
    (consumes_expectKeyword _ _).bind fun _ _ =>
      (consumes_separated h).mono fun items hitems => hitems.1
  refine (consumes_clause name hbody).mono fun items hitems => ?_
  rintro rfl
  exact hitems [] rfl rfl

/-! ## Joins -/

/-- A column with its table is two names with a point between them. -/
lemma consumes_qualifiedColumn : Consumes qualifiedColumn fun _ => True := by
  refine (consumes_name _).bind fun table _ => (consumes_symbol (by decide)).bind fun found _ =>
    Consumes.ite ?_ ?_
  · exact fun _ => (consumes_name _).bind fun column _ => consumes_pure trivial
  · exact fun _ => consumes_fail _

/-- The words in front of JOIN are taken. -/
lemma consumes_joinKind : Consumes joinKind fun _ => True := by
  refine (consumes_keyword _).bind fun inner _ => Consumes.ite ?_ ?_
  · exact fun _ => consumes_pure trivial
  intro _
  refine (consumes_keyword _).bind fun left _ => Consumes.ite ?_ ?_
  · exact fun _ => (consumes_keyword _).bind fun _ _ => consumes_pure trivial
  intro _
  refine (consumes_keyword _).bind fun right _ => Consumes.ite ?_ ?_
  · exact fun _ => (consumes_keyword _).bind fun _ _ => consumes_pure trivial
  intro _
  refine consumes_ahead (fun tokens tokens' h => by rw [h]) fun tokens => ?_
  cases tokens.head?.bind Token.keyword? with
  | none => exact consumes_pure trivial
  | some name =>
    refine Consumes.ite ?_ ?_
    · exact fun _ => consumes_throw _
    · exact fun _ => consumes_pure trivial

/-- A join is one of two tables, and its keys name one of them each. -/
lemma consumes_join (table : String) :
    Consumes (join table) fun clause => clause.WellFormed table := by
  refine consumes_joinKind.bind fun kind _ => (consumes_expectKeyword _ _).bind fun _ _ =>
    (consumes_name _).bind fun joined _ => ?_
  refine Consumes.ite (fun _ => consumes_throw _) fun hdistinct => ?_
  refine (consumes_expectKeyword _ _).bind fun _ _ => ?_
  refine consumes_qualifiedColumn.bind fun first _ => ?_
  refine (consumes_expectSymbol (by decide) _).bind fun _ _ => ?_
  refine consumes_qualifiedColumn.bind fun second _ => ?_
  cases hkeys : joinKeys? table joined first second with
  | none => exact consumes_throw _
  | some keys =>
    obtain ⟨hleft, hright⟩ := sameTables_of_joinKeys? hkeys
    exact consumes_pure ⟨Bool.eq_false_iff.mpr hdistinct, hleft, hright⟩

/-- A join is taken if one of its words comes next. -/
lemma consumes_optionalJoin (table : String) :
    Consumes (optionalJoin table) fun clause? => ∀ clause ∈ clause?, clause.WellFormed table := by
  have habsent : ∀ clause ∈ (none : Option JoinClause), clause.WellFormed table := by
    rintro clause ⟨⟩
  refine consumes_ahead (fun tokens tokens' h => by rw [h]) fun tokens => ?_
  cases tokens.head?.bind Token.keyword? with
  | none => exact consumes_pure habsent
  | some name =>
    refine Consumes.ite ?_ ?_
    · intro _
      refine (consumes_join table).bind fun clause hclause => consumes_pure ?_
      intro clause' hclause'
      obtain rfl := Option.some.inj hclause'
      exact hclause
    · exact fun _ => consumes_pure habsent

end Sql.Parser

end TableQuery
