import Mathlib.Tactic.Common
import TableQuery.Proofs.Sql.Writer
import TableQuery.Sql.Parser

/-!
# What parsers read

`Reads` says that a parser takes exactly some written tokens and gives one result, whatever comes
next as long as the next token is among those that may follow. It holds of the ways in which parsers
are put together: of one after the other (`Reads.bind_eq`), of items between commas
(`separated_reads`), of operands between keywords (`chain_reads`) and of optional clauses
(`clause_reads`).
-/

namespace TableQuery

namespace Sql.Parser

variable {α β : Type}

/-- Whether the first of some tokens, if there is one, may come next. -/
def Follows (next : Token → Bool) (rest : List Token) : Prop := ∀ token ∈ rest.head?, next token

/-- Any token may come next. -/
def anything : Token → Bool := fun _ => true

/-- Where no token is left, no condition on the next one is broken. -/
lemma follows_nil (next : Token → Bool) : Follows next [] := by
  intro token h
  cases h

/-- The next token may come next when it is among those that may. -/
lemma follows_cons {next : Token → Bool} {token : Token} (h : next token) (rest : List Token) :
    Follows next (token :: rest) := by
  intro first hfirst
  obtain rfl := Option.some.inj hfirst
  exact h

/-- Where any token may come next, every rest may. -/
lemma follows_anything (rest : List Token) : Follows anything rest := fun _ _ => rfl

/-- What two conditions allow is what each of them allows. -/
lemma follows_and {next next' : Token → Bool} {rest : List Token} :
    Follows (fun token => next token && next' token) rest ↔
      Follows next rest ∧ Follows next' rest := by
  constructor
  · intro h
    exact ⟨fun token ht => (Bool.and_eq_true_iff.mp (h token ht)).1,
      fun token ht => (Bool.and_eq_true_iff.mp (h token ht)).2⟩
  · rintro ⟨h, h'⟩ token ht
    exact Bool.and_eq_true_iff.mpr ⟨h token ht, h' token ht⟩

/-- A parser reads a result from the written tokens and stops there, whatever comes after them among
the tokens that may come next. -/
def Reads (parser : Parser α) (written : List Token) (result : α) (next : Token → Bool) : Prop :=
  ∀ rest, Follows next rest → parser (written ++ rest) = .ok (result, rest)

/-! ## One parser after the other -/

/-- Behind a parser that reads the written tokens the next one goes on with its result. -/
lemma Reads.bind_eq {parser : Parser α} {written rest : List Token} {result : α}
    {next : Token → Bool} (h : Reads parser written result next) (then_ : α → Parser β)
    (hrest : Follows next rest) : (parser >>= then_) (written ++ rest) = then_ result rest := by
  change (parser (written ++ rest)).bind (fun (a, left) => then_ a left) = then_ result rest
  rw [h rest hrest]
  rfl

/-! ## Single tokens -/

/-- Behind a look at the tokens the parser goes on with all of them. -/
lemma ahead_bind (then_ : List Token → Parser α) (tokens : List Token) :
    (ahead >>= then_) tokens = then_ tokens tokens := rfl

/-- Behind a token that is skipped the parser goes on with the others. -/
lemma skip_bind (then_ : Unit → Parser α) (token : Token) (rest : List Token) :
    (skip >>= then_) (token :: rest) = then_ () rest := rfl

/-- A token that is wanted is taken. -/
lemma accept_reads {wanted : Token → Bool} {token : Token} (h : wanted token) :
    Reads (accept wanted) [token] true anything := by
  intro rest _
  simp [accept, h]

/-- Nothing is taken when the next token is not wanted. -/
lemma accept_absent (wanted : Token → Bool) :
    Reads (accept wanted) [] false fun token => !wanted token := by
  intro rest hrest
  cases rest with
  | nil => rfl
  | cons token rest =>
    have h := hrest token rfl
    rw [Bool.not_eq_true'] at h
    simp [accept, h]

/-- A keyword that is there is taken. -/
lemma keyword_reads {name : String} (h : (plainWord name).isKeyword name) :
    Reads (keyword name) [plainWord name] true anything :=
  accept_reads h

/-- Nothing is taken when another word or none follows. -/
lemma keyword_absent (name : String) :
    Reads (keyword name) [] false fun token => !token.isKeyword name :=
  accept_absent _

/-- A symbol that is there is taken. -/
lemma symbol_reads (text : String) : Reads (symbol text) [.symbol text] true anything :=
  accept_reads (beq_self_eq_true _)

/-- Nothing is taken when another symbol or none follows. -/
lemma symbol_absent (text : String) :
    Reads (symbol text) [] false fun token => token != .symbol text :=
  accept_absent _

/-- An optional word that is there exactly when `present`. -/
lemma optional_keyword_reads {name : String} (present : Bool)
    (h : (plainWord name).isKeyword name) :
    Reads (keyword name) (writeOptional name present) present
      fun token => !token.isKeyword name := by
  cases present with
  | false => exact keyword_absent name
  | true => exact fun rest _ => keyword_reads h rest (follows_anything rest)

/-- What may follow an optional word may follow what comes before it, if the word may as well. -/
lemma follows_optional {name : String} {next : Token → Bool} (h : next (plainWord name))
    (present : Bool) {rest : List Token} (hrest : Follows next rest) :
    Follows next (writeOptional name present ++ rest) := by
  cases present with
  | false => exact hrest
  | true => exact follows_cons h _

/-- An expected keyword is taken in any of its spellings. -/
lemma expectKeyword_reads_of_isKeyword {name : String} {token : Token}
    (h : token.isKeyword name) (reason : String) :
    Reads (expectKeyword name reason) [token] () anything := by
  intro rest _
  have hword : Reads (keyword name) [token] true anything := accept_reads h
  exact hword.bind_eq _ (follows_anything rest)

/-- An expected keyword is taken as it is written. -/
lemma expectKeyword_reads {name : String} (reason : String)
    (h : (plainWord name).isKeyword name) :
    Reads (expectKeyword name reason) [plainWord name] () anything :=
  expectKeyword_reads_of_isKeyword h reason

/-- An expected symbol is taken. -/
lemma expectSymbol_reads (text reason : String) :
    Reads (expectSymbol text reason) [.symbol text] () anything := by
  intro rest _
  exact (symbol_reads text).bind_eq _ (follows_anything rest)

/-! ## Names -/

/-- A quoted name is read back. -/
lemma name_reads (what text : String) : Reads (name what) [quotedName text] text anything :=
  fun _ _ => rfl

/-- A quoted name is a field unless a point follows, which would make it a table. -/
lemma fieldRef_reads (what text : String) :
    Reads (fieldRef what) [quotedName text] text fun token => token != point := by
  intro rest hrest
  refine ((name_reads what text).bind_eq _ (follows_anything rest)).trans ?_
  exact (symbol_absent ".").bind_eq _ hrest

/-! ## Clauses -/

/-- An optional clause is read back if its body is and, where it is left out, its keyword does not
follow. -/
lemma clause_reads (name : String) {body : Parser α} {write : α → List Token}
    {next : Token → Bool} (h : (plainWord name).isKeyword name) (value : Option α)
    (hbody : ∀ a ∈ value, Reads body (write a) a next) :
    Reads (clause name body) (writeClause name write value) value
      fun token => next token && !token.isKeyword name := by
  intro rest hrest
  obtain ⟨hnext, hstop⟩ := follows_and.mp hrest
  cases value with
  | none => exact (keyword_absent name).bind_eq _ hstop
  | some a =>
    refine ((keyword_reads h).bind_eq _ (follows_anything _)).trans ?_
    exact (hbody a rfl).bind_eq _ hnext

/-- What may follow an optional clause may follow what comes before it, if the keyword of the clause
may as well. -/
lemma follows_clause {name : String} {write : α → List Token} {next : Token → Bool}
    (h : next (plainWord name)) (value : Option α) {rest : List Token}
    (hrest : Follows next rest) : Follows next (writeClause name write value ++ rest) := by
  cases value with
  | none => exact hrest
  | some a => exact follows_cons h _

/-! ## Items between commas -/

/-- A list of several items starts with the first one and a comma. -/
lemma writeList_cons_cons (write : α → List Token) (first second : α) (items : List α) :
    writeList write (first :: second :: items) =
      write first ++ ([comma] ++ writeList write (second :: items)) := by
  simp [writeList, List.intercalate_cons_cons]

/-- A list starts as its first item does. -/
lemma follows_writeList {write : α → List Token} {next : Token → Bool} {items : List α}
    (hne : items ≠ []) (h : ∀ a ∈ items, ∀ rest, Follows next (write a ++ rest))
    (rest : List Token) : Follows next (writeList write items ++ rest) := by
  obtain ⟨first, others, rfl⟩ := List.exists_cons_of_ne_nil hne
  have hfirst := h first List.mem_cons_self
  cases others with
  | nil =>
    have hwrite : writeList write [first] = write first := by simp [writeList]
    rw [hwrite]
    exact hfirst rest
  | cons second others =>
    rw [writeList_cons_cons, List.append_assoc]
    exact hfirst _

/-- There are no more items than commas and one. -/
lemma length_le_length_writeList (write : α → List Token) (items : List α) :
    items.length ≤ (writeList write items).length + 1 := by
  induction items with
  | nil => simp
  | cons first items ih =>
    cases items with
    | nil => simp
    | cons second items =>
      rw [writeList_cons_cons]
      simp only [List.length_append, List.length_cons, List.length_nil] at ih ⊢
      omega

/-- Items between commas are read back within a bound on the commas, unless another comma
follows. -/
lemma separatedUpTo_reads {item : Parser α} {write : α → List Token} {next : Token → Bool}
    {items : List α} {bound : Nat} (hcomma : next comma) (hne : items ≠ [])
    (hbound : items.length ≤ bound + 1) (hitem : ∀ a ∈ items, Reads item (write a) a next) :
    Reads (separatedUpTo item bound) (writeList write items) items
      fun token => next token && token != comma := by
  intro rest hrest
  obtain ⟨hnext, hstop⟩ := follows_and.mp hrest
  -- the bound shrinks with each comma
  induction items generalizing bound with
  | nil => exact absurd rfl hne
  | cons first items ih =>
    have hfirst := hitem first List.mem_cons_self
    cases items with
    | nil =>
      have hwrite : writeList write [first] = write first := by simp [writeList]
      rw [hwrite]
      cases bound with
      | zero => exact hfirst.bind_eq _ hnext
      | succ bound =>
        refine (hfirst.bind_eq _ hnext).trans ?_
        exact (symbol_absent ",").bind_eq _ hstop
    | cons second items =>
      obtain ⟨bound, rfl⟩ : ∃ n, bound = n + 1 := by
        simp only [List.length_cons] at hbound
        exact ⟨bound - 1, by omega⟩
      have hbound' : (second :: items).length ≤ bound + 1 := by
        simp only [List.length_cons] at hbound ⊢
        omega
      have hrec := ih (List.cons_ne_nil _ _) hbound'
        (fun a ha => hitem a (List.mem_cons_of_mem first ha))
      rw [writeList_cons_cons, List.append_assoc, List.append_assoc]
      refine (hfirst.bind_eq _ (follows_cons hcomma _)).trans ?_
      refine ((symbol_reads ",").bind_eq _ (follows_anything _)).trans ?_
      change ((separatedUpTo item bound) (writeList write (second :: items) ++ rest)).bind _ = _
      rw [hrec]
      rfl

/-- Items between commas are read back: the tokens that there are bound the commas among them. -/
lemma separated_reads {item : Parser α} {write : α → List Token} (next : Token → Bool)
    {items : List α} (hcomma : next comma) (hne : items ≠ [])
    (hitem : ∀ a ∈ items, Reads item (write a) a next) :
    Reads (separated item) (writeList write items) items
      fun token => next token && token != comma := by
  intro rest hrest
  refine separatedUpTo_reads hcomma hne ?_ hitem rest hrest
  have hlength := length_le_length_writeList write items
  rw [List.length_append]
  omega

/-! ## Operands between keywords -/

section Operands

variable {name : String} {build : α → α → α} {operand : Parser α} {keyword : β → Token}
  {write : β → List Token} {value : β → α} {next : Token → Bool} {operands : List β}

/-- Further operands as tokens, each behind a keyword of its own spelling. -/
def spellOperands (keyword : β → Token) (write : β → List Token) (operands : List β) :
    List Token :=
  operands.flatMap fun b => keyword b :: write b

/-- Further operands start with the keyword of the first one. -/
lemma spellOperands_cons (b : β) :
    spellOperands keyword write (b :: operands) =
      keyword b :: (write b ++ spellOperands keyword write operands) := by
  simp [spellOperands]

/-- There are no more operands than tokens, as each stands behind a keyword. -/
lemma length_le_length_spellOperands (keyword : β → Token) (write : β → List Token)
    (operands : List β) : operands.length ≤ (spellOperands keyword write operands).length := by
  induction operands with
  | nil => simp
  | cons first operands ih =>
    simp only [spellOperands_cons, List.length_append, List.length_cons] at ih ⊢
    omega

/-- What comes after an operand is the keyword of the next one or the rest. -/
lemma follows_spellOperands (write : β → List Token) (h : ∀ b ∈ operands, next (keyword b))
    {rest : List Token} (hrest : Follows next rest) :
    Follows next (spellOperands keyword write operands ++ rest) := by
  cases operands with
  | nil => exact hrest
  | cons first operands => exact follows_cons (h first List.mem_cons_self) _

/-- Further operands are read back within a bound on their number, unless another keyword
follows. -/
lemma chainUpTo_reads {bound : Nat} (left : α)
    (hkeyword : ∀ b ∈ operands, (keyword b).isKeyword name ∧ next (keyword b))
    (hbound : operands.length ≤ bound)
    (hoperand : ∀ b ∈ operands, Reads operand (write b) (value b) next) :
    Reads (chainUpTo name build operand bound left) (spellOperands keyword write operands)
      ((operands.map value).foldl build left)
      fun token => next token && !token.isKeyword name := by
  intro rest hrest
  obtain ⟨hrest', hstop⟩ := follows_and.mp hrest
  -- the operand so far grows on the left, and the bound shrinks with each keyword
  induction operands generalizing bound left with
  | nil =>
    cases bound with
    | zero => rfl
    | succ bound => exact (keyword_absent name).bind_eq _ hstop
  | cons first operands ih =>
    obtain ⟨bound, rfl⟩ : ∃ n, bound = n + 1 := by
      simp only [List.length_cons] at hbound
      exact ⟨bound - 1, by omega⟩
    have hbound' : operands.length ≤ bound := by
      simp only [List.length_cons] at hbound
      omega
    have hkeyword' := fun b hb => hkeyword b (List.mem_cons_of_mem first hb)
    have hrec := ih (build left (value first)) hkeyword' hbound'
      (fun b hb => hoperand b (List.mem_cons_of_mem first hb))
    have hafter : Follows next (spellOperands keyword write operands ++ rest) :=
      follows_spellOperands write (fun b hb => (hkeyword' b hb).2) hrest'
    have hfirst : Reads (Parser.keyword name) [keyword first] true anything :=
      accept_reads (hkeyword first List.mem_cons_self).1
    rw [spellOperands_cons, ← List.singleton_append, List.append_assoc, List.append_assoc]
    refine (hfirst.bind_eq _ (follows_anything _)).trans ?_
    exact ((hoperand first List.mem_cons_self).bind_eq _ hafter).trans hrec

/-- Operands between keywords are read back and joined from the left. -/
lemma chain_reads (build : α → α → α) {first : List Token} {left : α}
    (hkeyword : ∀ b ∈ operands, (keyword b).isKeyword name ∧ next (keyword b))
    (hfirst : Reads operand first left next)
    (hoperand : ∀ b ∈ operands, Reads operand (write b) (value b) next) :
    Reads (chain name build operand) (first ++ spellOperands keyword write operands)
      ((operands.map value).foldl build left)
      fun token => next token && !token.isKeyword name := by
  intro rest hrest
  have hafter : Follows next (spellOperands keyword write operands ++ rest) :=
    follows_spellOperands write (fun b hb => (hkeyword b hb).2) (follows_and.mp hrest).1
  rw [List.append_assoc]
  refine (hfirst.bind_eq _ hafter).trans ?_
  refine chainUpTo_reads left hkeyword ?_ hoperand rest hrest
  have hlength := length_le_length_spellOperands keyword write operands
  rw [List.length_append]
  omega

end Operands

end Sql.Parser

end TableQuery
