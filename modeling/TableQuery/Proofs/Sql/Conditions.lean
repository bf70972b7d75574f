import TableQuery.Proofs.Number.Literal
import TableQuery.Proofs.Sql.Spelling

/-!
# Conditions read back

A condition that is written as tokens is read back as the same tree (`condition_reads`). The proof
follows the layers of the grammar: a chain of disjuncts, each a chain of conjuncts, each a
comparison or a condition in parentheses. `Condition.spine` takes a tree apart into such a chain.
-/

namespace TableQuery

open Sql

namespace Sql

/-! ## Literals -/

/-- An integer is spelled with its sign. -/
lemma spells_writeInteger (i : Int64) :
    SpellsLiteral (.int64 i, Literal.writeInt i.toInt) (writeInteger i) := by
  have hvalue : Parser.numberValue? (Literal.writeInt i.toInt) = some (.int64 i) := by
    rw [Parser.numberValue?, Literal.readInt64?_writeInt]
  unfold writeInteger
  by_cases h : i.toInt < 0
  · rw [Literal.writeInt_of_neg h] at hvalue ⊢
    rw [if_pos h]
    exact .negative hvalue
  · have hnat : (i.toInt.natAbs : Int) = i.toInt := by omega
    rw [if_neg h, hnat]
    exact .number hvalue

/-- A quoted text is read as the literal of this text. -/
lemma Parser.literal_quoted_reads (text : String) :
    Reads literal [.quoted text] (.text text, text) anything :=
  literal_reads_of_spells (.word rfl)

/-- A literal that can be written is spelled, whatever its text. -/
lemma spells_writeLiteral {value : Value} (h : ∀ x, value ≠ .float64 x) :
    ∃ text, SpellsLiteral (value, text) (writeLiteral value) := by
  cases value with
  | null => exact ⟨_, .word rfl⟩
  | int64 i => exact ⟨_, spells_writeInteger i⟩
  | float64 x => exact absurd rfl (h x)
  | text text => exact ⟨_, .word rfl⟩

/-! ## Comparisons -/

/-- A comparison is read back if its literal can be written. -/
lemma Parser.comparison_reads {comparison : Comparison}
    (h : ∀ x, comparison.value ≠ .float64 x) :
    Reads Parser.comparison comparison.write (.compare comparison) anything := by
  obtain ⟨text, hliteral⟩ := spells_writeLiteral h
  have hoperator : operator? comparison.operator.write = some comparison.operator := by
    cases comparison.operator <;> rfl
  exact comparison_reads_of_spelledBy (.intro (.column rfl) hoperator hliteral)

end Sql

/-! ## Chains of operands -/

/-- A connective of conditions. -/
inductive Connective where
  | and
  | or

namespace Connective

/-- The keyword of a connective. -/
def word : Connective → String
  | and => "AND"
  | or => "OR"

/-- The condition that a connective builds. -/
def build : Connective → Condition → Condition → Condition
  | and => .and
  | or => .or

/-- A connective is written as its keyword. -/
lemma isKeyword_word (connective : Connective) :
    (plainWord connective.word).isKeyword connective.word := by
  cases connective <;> rfl

end Connective

namespace Condition

/-- The operands that a connective joins at the top of a condition, from left to right: the first
one and the others. -/
def spine : Connective → Condition → Condition × List Condition
  | .and, and left right => ((left.spine .and).1, (left.spine .and).2 ++ [right])
  | .or, or left right => ((left.spine .or).1, (left.spine .or).2 ++ [right])
  | _, condition => (condition, [])

/-- The operands at the top of a condition, the first one included. -/
def operands (connective : Connective) (condition : Condition) : List Condition :=
  (condition.spine connective).1 :: (condition.spine connective).2

/-- An operand of a connective as tokens. -/
def writeOperand : Connective → Condition → List Token
  | .and, condition => parenthesize (!condition.isCompare) condition.write
  | .or, condition => parenthesize condition.isOr condition.write

/-- A chain of operands as tokens: below AND there is no disjunction without parentheses. -/
def writeChain : Connective → Condition → List Token
  | .and, condition => parenthesize condition.isOr condition.write
  | .or, condition => condition.write

/-- A condition is built from its operands from the left. -/
lemma foldl_spine (connective : Connective) (condition : Condition) :
    (condition.spine connective).2.foldl connective.build (condition.spine connective).1 =
      condition := by
  induction condition with
  | compare comparison => cases connective <;> rfl
  | and left right ihleft ihright =>
    cases connective with
    | and => rw [spine, List.foldl_append, ihleft]; rfl
    | or => rfl
  | or left right ihleft ihright =>
    cases connective with
    | and => rfl
    | or => rw [spine, List.foldl_append, ihleft]; rfl

/-- One more operand at the end of a chain. -/
lemma writeOperands_concat (name : String) (write : Condition → List Token)
    (operands : List Condition) (last : Condition) :
    writeOperands name write (operands ++ [last]) =
      writeOperands name write operands ++ plainWord name :: write last := by
  simp [writeOperands]

/-- A condition is written as the chain of its operands. -/
lemma writeChain_eq (connective : Connective) (condition : Condition) :
    writeChain connective condition =
      writeOperand connective (condition.spine connective).1 ++
        writeOperands connective.word (writeOperand connective)
          (condition.spine connective).2 := by
  induction condition with
  | compare comparison => cases connective <;> exact (List.append_nil _).symm
  | and left right ihleft ihright =>
    cases connective with
    | and =>
      rw [spine, writeOperands_concat, ← List.append_assoc, ← ihleft]
      rfl
    | or => exact (List.append_nil _).symm
  | or left right ihleft ihright =>
    cases connective with
    | and => exact (List.append_nil _).symm
    | or =>
      rw [spine, writeOperands_concat, ← List.append_assoc, ← ihleft]
      rfl

/-- The operands of a condition have no other comparisons than the condition. -/
lemma comparisons_subset_of_mem_operands {connective : Connective} {condition operand : Condition}
    (hmem : operand ∈ condition.operands connective) :
    operand.comparisons ⊆ condition.comparisons := by
  induction condition with
  | compare comparison =>
    obtain rfl : operand = compare comparison := by
      cases connective <;> simpa [operands, spine] using hmem
    exact List.Subset.refl _
  | and left right ihleft ihright =>
    cases connective with
    | and =>
      have hcases : operand ∈ left.operands .and ∨ operand = right := by
        simpa [operands, spine, or_assoc] using hmem
      rcases hcases with hleft | rfl
      · exact List.subset_append_of_subset_left _ (ihleft hleft)
      · exact List.subset_append_right _ _
    | or =>
      obtain rfl : operand = and left right := by simpa [operands, spine] using hmem
      exact List.Subset.refl _
  | or left right ihleft ihright =>
    cases connective with
    | and =>
      obtain rfl : operand = or left right := by simpa [operands, spine] using hmem
      exact List.Subset.refl _
    | or =>
      have hcases : operand ∈ left.operands .or ∨ operand = right := by
        simpa [operands, spine, or_assoc] using hmem
      rcases hcases with hleft | rfl
      · exact List.subset_append_of_subset_left _ (ihleft hleft)
      · exact List.subset_append_right _ _

/-- The operands of a condition can be written if the condition can. -/
lemma WellFormed.operand {connective : Connective} {condition operand : Condition}
    (h : condition.WellFormed) (hmem : operand ∈ condition.operands connective) :
    operand.WellFormed :=
  fun comparison hcomparison =>
    h comparison (comparisons_subset_of_mem_operands hmem hcomparison)

/-- Each operand takes no more tokens than the whole chain. -/
lemma length_writeOperand_le {connective : Connective} {condition operand : Condition}
    (hmem : operand ∈ condition.operands connective) :
    (writeOperand connective operand).length ≤ (writeChain connective condition).length := by
  rw [writeChain_eq, List.length_append]
  rcases List.mem_cons.mp hmem with rfl | hrest
  · omega
  · obtain ⟨before, after, hsplit⟩ := List.append_of_mem hrest
    rw [hsplit]
    simp only [writeOperands, List.flatMap_append, List.flatMap_cons, List.length_append,
      List.length_cons]
    omega

/-- A condition is written in some tokens. -/
lemma length_write_pos (condition : Condition) : 0 < condition.write.length := by
  cases condition <;> simp only [write, Comparison.write, List.length_append, List.length_cons] <;>
    omega

end Condition

namespace Sql.Parser

/-! ## Layers of the grammar -/

/-- What the operands between AND are at some depth of parentheses. -/
def atom : Nat → Parser Condition
  | 0 => comparison
  | depth + 1 => group (conditionWithin depth)

/-- At every depth a condition is a disjunction over the operands of this depth. -/
lemma conditionWithin_eq (depth : Nat) : conditionWithin depth = disjunction (atom depth) := by
  cases depth <;> rfl

/-- The tokens that end a condition: neither of the connectives. -/
def endsCondition (token : Token) : Bool := !token.isKeyword "AND" && !token.isKeyword "OR"

/-- A chain of operands is read back if its operands are. -/
lemma chain_spine_reads (connective : Connective) {operand : Parser Condition}
    (next : Token → Bool) {condition : Condition} (hnext : next (plainWord connective.word))
    (h : ∀ c ∈ condition.operands connective,
      Reads operand (Condition.writeOperand connective c) c next) :
    Reads (chain connective.word connective.build operand)
      (Condition.writeChain connective condition) condition
      fun token => next token && !token.isKeyword connective.word := by
  have hchain : Reads (chain connective.word connective.build operand)
      (Condition.writeOperand connective (condition.spine connective).1 ++
        spellOperands (fun _ => plainWord connective.word) (Condition.writeOperand connective)
          (condition.spine connective).2)
      (((condition.spine connective).2.map id).foldl connective.build
        (condition.spine connective).1)
      fun token => next token && !token.isKeyword connective.word :=
    chain_reads connective.build (fun _ _ => ⟨connective.isKeyword_word, hnext⟩)
      (h _ List.mem_cons_self) fun c hc => h c (List.mem_cons_of_mem _ hc)
  rw [List.map_id, Condition.foldl_spine] at hchain
  rw [Condition.writeChain_eq]
  exact hchain

/-- A condition is read back if the conjuncts of its disjuncts are. -/
lemma disjunction_reads {operand : Parser Condition} {condition : Condition}
    (h : ∀ disjunct ∈ condition.operands .or, ∀ conjunct ∈ disjunct.operands .and,
      Reads operand (Condition.writeOperand .and conjunct) conjunct anything) :
    Reads (disjunction operand) condition.write condition endsCondition :=
  chain_spine_reads .or (fun token => !token.isKeyword "AND") rfl fun disjunct hdisjunct =>
    chain_spine_reads .and anything rfl (h disjunct hdisjunct)

/-- An operand of AND is read back if the condition in its parentheses is. -/
lemma group_reads {inner : Parser Condition} {condition : Condition} (h : condition.WellFormed)
    (hinner : condition.isCompare = false →
      Reads inner condition.write condition endsCondition) :
    Reads (group inner) (Condition.writeOperand .and condition) condition anything := by
  intro rest _
  cases hcompare : condition.isCompare with
  | true =>
    obtain ⟨comparison, rfl⟩ : ∃ comparison, condition = .compare comparison := by
      cases condition with
      | compare comparison => exact ⟨comparison, rfl⟩
      | and left right => cases hcompare
      | or left right => cases hcompare
    refine ((symbol_absent "(").bind_eq _ (follows_cons ?_ _)).trans ?_
    · rfl
    · exact comparison_reads (h comparison List.mem_cons_self) rest (follows_anything rest)
  | false =>
    rw [Condition.writeOperand, hcompare, Bool.not_false, parenthesize, if_pos rfl,
      List.append_assoc, List.append_assoc]
    refine ((symbol_reads "(").bind_eq _ (follows_anything _)).trans ?_
    refine ((hinner hcompare).bind_eq _ (follows_cons ?_ _)).trans ?_
    · rfl
    · exact (expectSymbol_reads ")" _).bind_eq _ (follows_anything rest)

/-- A condition is read back at any depth that its tokens allow. -/
lemma conditionWithin_reads {depth : Nat} {condition : Condition} (h : condition.WellFormed)
    (hdepth : condition.write.length ≤ depth) :
    Reads (conditionWithin depth) condition.write condition endsCondition := by
  induction depth generalizing condition with
  | zero =>
    have hpos := condition.length_write_pos
    omega
  | succ depth ih =>
    rw [conditionWithin_eq]
    refine disjunction_reads fun disjunct hdisjunct conjunct hconjunct => ?_
    have hwell := (h.operand hdisjunct).operand hconjunct
    -- the parentheses around a conjunct pay for the depth that it takes
    have hdisjunct' : (Condition.writeChain .and disjunct).length ≤ condition.write.length :=
      Condition.length_writeOperand_le hdisjunct
    have hconjunct' := Condition.length_writeOperand_le hconjunct
    refine group_reads hwell fun hcompare => ih hwell ?_
    have hparentheses :
        (Condition.writeOperand .and conjunct).length = conjunct.write.length + 2 := by
      simp [Condition.writeOperand, hcompare, parenthesize]
    omega

/-- A condition is read back as it was written. -/
theorem condition_reads {c : Condition} (h : c.WellFormed) :
    Reads condition c.write c endsCondition := by
  intro rest hrest
  refine conditionWithin_reads h ?_ rest hrest
  rw [List.length_append]
  omega

end Sql.Parser

end TableQuery
