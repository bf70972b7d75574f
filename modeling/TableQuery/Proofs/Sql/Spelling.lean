import TableQuery.Proofs.Sql.Reads
import TableQuery.Sql.Statement.Parser

/-!
# Comparisons as they can be spelled

`Comparison.SpelledBy` relates a comparison to all ways of spelling it: its field as a name or as a
table and a column around a point, with or without quotes, and its literal as a number with or
without a minus sign, as a text or as a word. Each of them is read as the comparison
(`comparison_reads_of_spelledBy`).
-/

namespace TableQuery

open Sql

/-! ## Spellings -/

namespace Sql

/-- The tokens that refer to a field. -/
inductive SpellsField : String → List Token → Prop where
  | column {field : String} {token : Token} (h : token.name? = some field) :
      SpellsField field [token]
  | qualified {table column : String} {first second : Token} (hfirst : first.name? = some table)
      (hsecond : second.name? = some column) :
      SpellsField (table ++ "." ++ column) [first, point, second]

/-- The tokens of a literal, given its value and its text. -/
inductive SpellsLiteral : Value × String → List Token → Prop where
  | number {value : Value} {digits : String} {long : Bool}
      (h : Parser.numberValue? digits = some value) :
      SpellsLiteral (value, digits) [.number digits long]
  | negative {value : Value} {digits : String} {long : Bool}
      (h : Parser.numberValue? ("-" ++ digits) = some value) :
      SpellsLiteral (value, "-" ++ digits) [.symbol "-", .number digits long]
  | word {result : Value × String} {token : Token} (h : Parser.wordValue? token = some result) :
      SpellsLiteral result [token]

end Sql

/-- The tokens of a comparison: a field, an operator and a literal. -/
inductive Comparison.SpelledBy (comparison : Comparison) : List Token → Prop where
  | intro {field literal : List Token} {operator : Token} {text : String}
      (hfield : SpellsField comparison.field field)
      (hoperator : Parser.operator? operator = some comparison.operator)
      (hliteral : SpellsLiteral (comparison.value, text) literal) :
      comparison.SpelledBy (field ++ ([operator] ++ literal))

namespace Sql.Parser

/-! ## Fields -/

/-- A token that is a name is read as this name. -/
lemma name_reads_of_name? {token : Token} {text : String} (h : token.name? = some text)
    (what : String) : Reads (name what) [token] text anything := by
  intro rest _
  unfold name
  rw [ahead_bind, List.singleton_append, List.head?_cons, Option.bind_some, h]
  rfl

/-- A field is read in either form unless a point follows. -/
lemma fieldRef_reads_of_spells {field : String} {tokens : List Token}
    (h : SpellsField field tokens) (what : String) :
    Reads (fieldRef what) tokens field fun token => token != point := by
  intro rest hrest
  cases h with
  | column h =>
    refine ((name_reads_of_name? h what).bind_eq _ (follows_anything rest)).trans ?_
    exact (symbol_absent ".").bind_eq _ hrest
  | qualified hfirst hsecond =>
    refine ((name_reads_of_name? hfirst what).bind_eq _ (follows_anything _)).trans ?_
    refine ((symbol_reads ".").bind_eq _ (follows_anything _)).trans ?_
    exact (name_reads_of_name? hsecond _).bind_eq _ (follows_anything rest)

/-- A field starts with a name and so with no symbol. -/
lemma follows_spellsField {field : String} {tokens : List Token} (h : SpellsField field tokens)
    (text : String) (rest : List Token) :
    Follows (fun token => token != .symbol text) (tokens ++ rest) := by
  have hname {token : Token} {name : String} (h : token.name? = some name) :
      (token != .symbol text) = true := by
    rw [bne_iff_ne]
    rintro rfl
    cases h
  cases h with
  | column h =>
    refine follows_cons ?_ _
    exact hname h
  | qualified h _ =>
    refine follows_cons ?_ _
    exact hname h

/-! ## Operators -/

/-- A token that spells an operator is read as this operator. -/
lemma operator_reads_of_operator? {token : Token} {operator : ComparisonOperator}
    (h : operator? token = some operator) : Reads Parser.operator [token] operator anything := by
  intro rest _
  unfold Parser.operator
  rw [ahead_bind, List.singleton_append, List.head?_cons, Option.bind_some, h]
  rfl

/-- No operator is a point. -/
lemma ne_point_of_operator? {token : Token} {operator : ComparisonOperator}
    (h : operator? token = some operator) : token != point := by
  rw [bne_iff_ne]
  rintro rfl
  cases h

/-! ## Literals -/

/-- A literal is read in each of its forms. -/
lemma literal_reads_of_spells {result : Value × String} {tokens : List Token}
    (h : SpellsLiteral result tokens) : Reads literal tokens result anything := by
  intro rest _
  unfold literal
  cases h with
  | number h =>
    refine ((symbol_absent "-").bind_eq _ (follows_cons rfl _)).trans ?_
    rw [ahead_bind]
    simp only [List.head?_cons, Bool.false_eq_true, ↓reduceIte, h]
    rfl
  | negative h =>
    refine ((symbol_reads "-").bind_eq _ (follows_anything _)).trans ?_
    rw [ahead_bind]
    simp only [List.head?_cons, ↓reduceIte, h]
    rfl
  | @word _ token h =>
    refine ((symbol_absent "-").bind_eq _ (follows_cons ?_ _)).trans ?_
    · rw [bne_iff_ne]
      rintro rfl
      cases h
    · rw [ahead_bind]
      cases token with
      | number digits long => cases h
      | symbol text => cases h
      | other text => cases h
      | quoted text =>
        simp only [List.head?_cons, Option.bind_some, h]
        rfl
      | word text quote =>
        simp only [List.head?_cons, Option.bind_some, h]
        rfl

/-! ## Comparisons -/

/-- A comparison starts with its field and so with no symbol. -/
lemma follows_spelledBy {comparison : Comparison} {tokens : List Token}
    (h : comparison.SpelledBy tokens) (text : String) (rest : List Token) :
    Follows (fun token => token != .symbol text) (tokens ++ rest) := by
  obtain ⟨hfield, -, -⟩ := h
  rw [List.append_assoc]
  exact follows_spellsField hfield text _

/-- A comparison is read in each of its spellings. -/
lemma comparison_reads_of_spelledBy {comparison : Comparison} {tokens : List Token}
    (h : comparison.SpelledBy tokens) :
    Reads Parser.comparison tokens (.compare comparison) anything := by
  obtain ⟨hfield, hoperator, hliteral⟩ := h
  intro rest _
  rw [List.append_assoc, List.append_assoc]
  refine ((fieldRef_reads_of_spells hfield _).bind_eq _ (follows_cons ?_ _)).trans ?_
  · exact ne_point_of_operator? hoperator
  refine ((operator_reads_of_operator? hoperator).bind_eq _ (follows_anything _)).trans ?_
  exact (literal_reads_of_spells hliteral).bind_eq _ (follows_anything rest)

end Sql.Parser

end TableQuery
