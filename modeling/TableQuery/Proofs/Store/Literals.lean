import TableQuery.Proofs.Sql.Consumption
import TableQuery.Proofs.Sql.Precedence
import TableQuery.Proofs.Store.Selections
import TableQuery.Proofs.Store.Session
import TableQuery.Proofs.Value.Equality
import TableQuery.Proofs.Value.Literal

/-!
# Literals in insertions and in conditions

One literal stands in two statements: an insertion keeps its text, which becomes a cell, and a
condition keeps its value, which cells are compared with. A row that is inserted with a literal is
found by the condition that its column equals this literal (`inserted_literal_found`), unless the
literal is a number that is too large (`exists_inserted_literal_missed`).
-/

namespace TableQuery

open Sql

namespace Sql.Parser

/-! ## The two statements -/

/-- The insertion of one literal into one column. -/
def insertionOf (table column : Token) (literal : List Token) : List Token :=
  [plainWord "INSERT", plainWord "INTO", table, .symbol "(", column, .symbol ")",
    plainWord "VALUES", .symbol "("] ++ (literal ++ [.symbol ")"])

/-- The query for the rows whose column equals a literal. -/
def selectionOf (table column : Token) (literal : List Token) : List Token :=
  [plainWord "SELECT", .symbol "*", plainWord "FROM", table, plainWord "WHERE"] ++
    ([column] ++ ([.symbol "="] ++ literal))

variable {table field : Token} {name column text : String} {value : Value} {written : List Token}

/-- A list of one item is this item. -/
lemma separated_single_reads {α : Type} {item : Parser α} {a : α} {written : List Token}
    (h : Reads item written a anything) :
    Reads (separated item) written [a] fun token => token != comma := by
  have hlist : writeList (fun _ => written) [a] = written := by simp [writeList]
  have hitem : ∀ b ∈ [a], Reads item written b anything := by
    intro b hb
    rwa [List.mem_singleton.mp hb]
  have hitems := separated_reads anything rfl (List.cons_ne_nil a []) hitem
  rwa [hlist] at hitems

/-- The insertion of a literal is read as one of the text of the literal. -/
lemma statement_insertionOf (htable : table.name? = some name) (hfield : field.name? = some column)
    (hwritten : SpellsLiteral (value, text) written) :
    statement (insertionOf table field written) = .ok (.insert ⟨name, [column], [text]⟩, []) := by
  have hinsert : insert ([plainWord "INSERT"] ++ ([plainWord "INTO"] ++ ([table] ++
      ([.symbol "("] ++ ([field] ++ ([.symbol ")"] ++ ([plainWord "VALUES"] ++ ([.symbol "("] ++
        (written ++ ([.symbol ")"] ++ [])))))))))) = .ok (⟨name, [column], [text]⟩, []) := by
    have hcolumns := separated_single_reads (name_reads_of_name? hfield "column name")
    have hvalues := separated_single_reads (literal_reads_of_spells hwritten)
    unfold insert
    refine ((expectKeyword_reads _ rfl).bind_eq _ (follows_anything _)).trans ?_
    refine ((expectKeyword_reads _ rfl).bind_eq _ (follows_anything _)).trans ?_
    refine ((name_reads_of_name? htable _).bind_eq _ (follows_anything _)).trans ?_
    refine ((expectSymbol_reads "(" _).bind_eq _ (follows_anything _)).trans ?_
    refine (hcolumns.bind_eq _ (follows_cons rfl _)).trans ?_
    refine ((expectSymbol_reads ")" _).bind_eq _ (follows_anything _)).trans ?_
    refine ((expectKeyword_reads _ rfl).bind_eq _ (follows_anything _)).trans ?_
    refine ((expectSymbol_reads "(" _).bind_eq _ (follows_anything _)).trans ?_
    refine (hvalues.bind_eq _ (follows_cons rfl _)).trans ?_
    refine ((expectSymbol_reads ")" _).bind_eq _ (follows_anything _)).trans ?_
    rfl
  have hstatement : statement (insertionOf table field written) =
      (insert >>= fun found => pure (.insert found)) (insertionOf table field written) := rfl
  rw [hstatement]
  exact bind_eq_ok.mpr ⟨_, [], hinsert, rfl⟩

/-- The query for a literal is read as one that compares with the value of the literal. -/
lemma statement_selectionOf (htable : table.name? = some name) (hfield : field.name? = some column)
    (hwritten : SpellsLiteral (value, text) written) :
    statement (selectionOf table field written) =
      .ok (.select (.selection name (some (.compare ⟨column, .eq, value⟩))), []) := by
  have hequals : operator? (.symbol "=") = some .eq := rfl
  let chain : Chain := ⟨⟨⟨column, .eq, value⟩, _, .intro (.column hfield) hequals hwritten⟩, []⟩
  have hfront : UpToWhere [plainWord "SELECT", .symbol "*", plainWord "FROM", table,
      plainWord "WHERE"] fun condition => .select (.selection name (some condition)) :=
    .select rfl rfl htable rfl
  have hread := statement_of_upToWhere chain hfront
  have htokens : chain.tokens = [field] ++ ([.symbol "="] ++ written) := List.append_nil _
  rwa [htokens] at hread

end Sql.Parser

namespace MemoryStore

variable {name column text : String} {value : Value} {table : Table}

/-! ## The new row -/

/-- The new row has the cell that the text becomes. -/
lemma lookup_newRow_single (hcolumn : column ∈ table.columns) (text : String) :
    (newRow table [column] [text]).lookup column = .ok (Value.infer text) := by
  refine Row.lookup_of_get? ((get?_newRow hcolumn _ _).trans ?_)
  simp

/-- A row at the end is kept behind the others if it is accepted. -/
lemma keep_push {filter : Filter} {row : Row} {accepted : Bool}
    (h : filter.accepts row = .ok accepted) (rows : List Row) :
    filter.keep (rows ++ [row]) =
      (filter.keep rows).map (· ++ if accepted then [row] else []) := by
  have hlast : filter.keep [row] = .ok (if accepted then [row] else []) := by
    rw [Filter.keep, h]
    rfl
  rw [Filter.keep_append, hlast]
  cases filter.keep rows <;> rfl

/-! ## Insertions found again -/

/-- One column of a table that is there takes one literal. -/
lemma run_insert_single (settings : Settings) {store : MemoryStore} (hname : name ≠ "")
    (htable : store.get? name = some table) (hcolumn : column ∈ table.columns) (text : String) :
    (Engine.mk settings store).run (.insert ⟨name, [column], [text]⟩) =
      (.ok (.inserted 1), store.register name (table.push (newRow table [column] [text]))) := by
  obtain ⟨e, -, ⟨e', hcheck⟩ | hmissing⟩ | ⟨found, hfound, hrun⟩ :=
    run_insert settings store ⟨name, [column], [text]⟩
  · have hnamed : ¬ name.isEmpty = true := by rwa [String.isEmpty_iff]
    unfold Engine.checkInsert at hcheck
    rw [if_neg hnamed] at hcheck
    cases hcheck
  · obtain ⟨missing, hmem, hnot⟩ := hmissing table htable
    rw [List.mem_singleton.mp hmem] at hnot
    exact absurd hcolumn hnot
  · obtain rfl := Option.some.inj (htable.symm.trans hfound)
    exact hrun

/-- A literal means the same in an insertion and in a condition. The cell that its text becomes is
level with its value, and a row that is inserted with it comes last in what the query for it gives,
behind what the query gave before; or the literal is a number that is too large, and the row is not
found. -/
theorem inserted_literal_found (settings : Settings) {store : MemoryStore} {first second : Token}
    {written : List Token} {name column text : String} {value : Value} {table : Table}
    (hread : Parser.literal written = .ok ((value, text), [])) (hvalue : value ≠ .null)
    (htext : Text.trim text ≠ "") (hfirst : first.name? = some name) (hname : name ≠ "")
    (hsecond : second.name? = some column) (htable : store.get? name = some table)
    (hcolumn : column ∈ table.columns) :
    let insertion := Statement.insert ⟨name, [column], [text]⟩
    let query := Statement.select (.selection name (some (.compare ⟨column, .eq, value⟩)))
    ((Value.infer text).compare? value = some .eq ↔ ¬ value.Overflows text) ∧
    Parser.statement (Parser.insertionOf first second written) = .ok (insertion, []) ∧
    Parser.statement (Parser.selectionOf first second written) = .ok (query, []) ∧
    ∃ (row : Row) (after : MemoryStore),
      (Engine.mk settings store).run insertion = (.ok (.inserted 1), after) ∧
      after.get? = Function.update store.get? name (some (table.push row)) ∧
      row.lookup column = .ok (Value.infer text) ∧
      ((∃ kept found, (Engine.mk settings store).run query = (.ok (.rows kept), store) ∧
          (Engine.mk settings after).run query = (.ok (.rows (kept ++ found)), after) ∧
          (found = [row] ∧ ¬ value.Overflows text ∨ found = [] ∧ value.Overflows text)) ∨
        ∃ e, (Engine.mk settings store).run query = (.error e, store) ∧
          (Engine.mk settings after).run query = (.error e, after)) := by
  intro insertion query
  obtain ⟨tokens, hspells, htokens⟩ := Parser.spells_of_literal hread
  rw [List.append_nil] at htokens
  subst htokens
  have htrimmed : Text.trimChars text.toList ≠ [] := by
    intro hnil
    rw [Text.trim, hnil] at htext
    exact htext rfl
  have hlevel := Value.compare?_infer_iff_of_spells hspells hvalue htrimmed
  refine ⟨hlevel, Parser.statement_insertionOf hfirst hsecond hspells,
    Parser.statement_selectionOf hfirst hsecond hspells, newRow table [column] [text], _,
    run_insert_single settings hname htable hcolumn text, get?_register _ _ _,
    lookup_newRow_single hcolumn text, ?_⟩
  set row := newRow table [column] [text] with hrow
  have hlookup : row.lookup column = .ok (Value.infer text) := lookup_newRow_single hcolumn text
  have haccepts :
      Filter.accepts ⟨some (.compare ⟨column, .eq, value⟩), settings.filterOptions⟩ row =
      .ok ((Value.infer text).satisfies .eq value settings.filterOptions.ignoreCase) := by
    rw [Filter.accepts_compare, Comparison.holds, hlookup]
    rfl
  have hpresent : value.isNull = false := by
    cases value with
    | null => exact absurd rfl hvalue
    | int64 | float64 | text => rfl
  have hsatisfies := (Value.satisfies_eq_iff (Value.isNull_infer htrimmed) hpresent
    settings.filterOptions.ignoreCase).trans hlevel
  have hafter : (store.register name (table.push row)).get? name = some (table.push row) := by
    rw [get?_register, Function.update_self]
  -- the new row comes last, so what the filter keeps of the others comes first
  rw [run_selection settings _ htable, run_selection settings _ hafter, Table.push,
    keep_push haccepts]
  cases Filter.keep _ table.rows with
  | error e => exact .inr ⟨.execution e, rfl, rfl⟩
  | ok kept =>
    refine .inl ⟨kept, _, rfl, rfl, ?_⟩
    by_cases hfits : value.Overflows text
    · refine .inr ⟨if_neg fun hfound => ?_, hfits⟩
      exact hsatisfies.mp hfound hfits
    · exact .inl ⟨if_pos (hsatisfies.mpr hfits), hfits⟩

/-- A negative number with a fraction is found again in a table that was empty. -/
theorem inserted_literal_found_of_amounts :
    let store := empty.create "t" ["c", "d"]
    let amount := Value.float64 (.ofRatio true 5 2)
    let insertion := Statement.insert ⟨"t", ["c"], ["-2.50"]⟩
    let query := Statement.select (.selection "t" (some (.compare ⟨"c", .eq, amount⟩)))
    Parser.literal [.symbol "-", .number "2.50" false] = .ok ((amount, "-2.50"), []) ∧
    Text.trim "-2.50" ≠ "" ∧ ¬ amount.Overflows "-2.50" ∧
    ∃ (row : Row) (after : MemoryStore),
      (Engine.mk {} store).run insertion = (.ok (.inserted 1), after) ∧
      row.lookup "c" = .ok (Value.infer "-2.50") ∧
      (Engine.mk {} after).run query = (.ok (.rows [row]), after) := by
  intro store amount insertion query
  have hread : Parser.literal [.symbol "-", .number "2.50" false] =
      .ok ((amount, "-2.50"), []) := by
    refine Result.eq_ok_of_toOption ?_
    decide +kernel
  have htext : Text.trim "-2.50" ≠ "" := by decide
  have hfits : ¬ amount.Overflows "-2.50" := by
    rintro ⟨x, hx, hinfinite, -⟩
    rw [← Value.float64.inj hx] at hinfinite
    revert hinfinite
    decide +kernel
  have htable : store.get? "t" = some ⟨["c", "d"], []⟩ := rfl
  have hnone : (Engine.mk {} store).run query = (.ok (.rows []), store) := rfl
  have hvalue : amount ≠ .null := Value.noConfusion
  have hfirst : (plainWord "t").name? = some "t" := rfl
  have hsecond : (plainWord "c").name? = some "c" := rfl
  obtain ⟨-, -, -, row, after, hrun, -, hlookup, hanswer⟩ :=
    inserted_literal_found {} hread hvalue htext hfirst (by decide) hsecond htable
      List.mem_cons_self
  refine ⟨hread, htext, hfits, row, after, hrun, hlookup, ?_⟩
  obtain ⟨kept, found, hbefore, hafter, ⟨rfl, -⟩ | ⟨-, hlarge⟩⟩ | ⟨e, hbefore, -⟩ := hanswer
  · rw [hnone] at hbefore
    obtain rfl : [] = kept := Outcome.rows.inj (Except.ok.inj (Prod.mk.inj hbefore).1)
    exact hafter
  · exact absurd hlarge hfits
  · rw [hnone] at hbefore
    cases hbefore

/-- A number that is too large is kept as a text, compared as an infinity, and not found again. -/
theorem exists_inserted_literal_missed :
    let engine := Engine.mk {} (empty.create "t" ["c"])
    (Parser.literal [.number "1e999" false]).toOption =
      some ((.float64 (.infinite false), "1e999"), []) ∧
    Text.trim "1e999" ≠ "" ∧
    (Value.infer "1e999").compare? (.float64 (.infinite false)) ≠ some .eq ∧
    (engine.session ["INSERT INTO t (c) VALUES (1e999)",
      "SELECT * FROM t WHERE c = 1e999"]).1.map Except.toOption =
        [some (.inserted 1), some (.rows [])] := by
  intro engine
  refine ⟨?_, ?_, ?_, ?_⟩
  · decide +kernel
  · decide +kernel
  · decide +kernel
  · decide +kernel

end MemoryStore

end TableQuery
