import Mathlib.Data.List.Induction
import TableQuery.Proofs.Row

/-!
# Rows built cell by cell

A row that is built by inserting cells one after the other has each of their names once, in the
order in which they first came, and under it the value that came last. Which value a reference
stands for does not depend on that order: two rows that hold the same values resolve every
reference alike (`answersAlike_of_sameCells`). For a reference without a point this is so because
the names are distinct, so that the rows have the same candidates up to their order.
-/

namespace TableQuery

namespace Row

/-! ## Names in the order of their first insertion -/

/-- An insertion adds its name at the end unless it was there. -/
lemma columns_insert (row : Row) (name : String) (value : Value) :
    (row.insert name value).columns =
      if name ∈ row.columns then row.columns else row.columns ++ [name] :=
  Named.names_set name value row.cells

/-- One more name at the end of a list is a new one unless it was there. -/
lemma eraseDups_concat (names : List String) (name : String) :
    (names ++ [name]).eraseDups =
      if name ∈ names then names.eraseDups else names.eraseDups ++ [name] := by
  rw [List.eraseDups_append, List.removeAll]
  by_cases h : name ∈ names
  · simp [h]
  · simp [h, List.eraseDups_cons]

/-- A row that is built cell by cell has the names of the cells in the order in which they first
came. -/
lemma columns_ofList (cells : List (String × Value)) :
    (ofList cells).columns = (Named.names cells).eraseDups := by
  induction cells using List.reverseRecOn with
  | nil => rfl
  | append_singleton cells cell ih =>
    have hlast : ofList (cells ++ [cell]) = (ofList cells).insert cell.1 cell.2 := by
      rw [ofList, List.foldl_append]
      rfl
    have hnames : Named.names (cells ++ [cell]) = Named.names cells ++ [cell.1] := List.map_append
    rw [hlast, columns_insert, hnames, eraseDups_concat, ih]
    simp only [List.mem_eraseDups]

/-! ## References in rows of the same cells -/

/-- Two answers to a reference that say the same: one value, a missing field, or an ambiguous one,
whichever candidates are named. -/
inductive AnswersAlike (field : String) :
    Except ExecutionError Value → Except ExecutionError Value → Prop
  | found (value : Value) : AnswersAlike field (.ok value) (.ok value)
  | missing :
      AnswersAlike field (.error (.missingField field)) (.error (.missingField field))
  | ambiguous (first second third fourth : String) :
      AnswersAlike field (.error (.ambiguousField field first second))
        (.error (.ambiguousField field third fourth))

/-- Rows of the same cells have the same candidates for a field, in whatever order: none, one, or
several. -/
lemma candidates_of_sameCells {row other : Row} (h : row.SameCells other) (field : String) :
    (row.candidates field = [] ∧ other.candidates field = []) ∨
    (∃ cell, row.candidates field = [cell] ∧ other.candidates field = [cell]) ∨
    ∃ first second mine third fourth others,
      row.candidates field = first :: second :: mine ∧
        other.candidates field = third :: fourth :: others := by
  have hperm : (row.candidates field).Perm (other.candidates field) :=
    (sameCells_iff_perm.mp h).filter _
  rcases hmine : row.candidates field with _ | ⟨first, _ | ⟨second, mine⟩⟩
  · rw [hmine, List.nil_perm] at hperm
    exact .inl ⟨rfl, hperm⟩
  · rw [hmine, List.singleton_perm] at hperm
    exact .inr (.inl ⟨first, rfl, hperm.symm⟩)
  · have hlength := hperm.length_eq
    rw [hmine] at hlength
    rcases hother : other.candidates field with _ | ⟨third, _ | ⟨fourth, others⟩⟩
    · rw [hother] at hlength
      cases hlength
    · rw [hother] at hlength
      cases hlength
    · exact .inr (.inr ⟨first, second, mine, third, fourth, others, rfl, rfl⟩)

/-- Rows of the same cells resolve every reference alike. -/
lemma answersAlike_of_sameCells {row other : Row} (h : row.SameCells other) (field : String) :
    AnswersAlike field (row.lookup field) (other.lookup field) := by
  unfold lookup
  rw [h field]
  cases other.get? field with
  | some value => exact .found value
  | none =>
    cases afterFirstPoint? field.toList with
    | some column =>
      dsimp only
      rw [h (String.ofList column)]
      cases other.get? (String.ofList column) with
      | some value => exact .found value
      | none => exact .missing
    | none =>
      rcases candidates_of_sameCells h field with ⟨hmine, hother⟩ | ⟨cell, hmine, hother⟩ |
        ⟨first, second, mine, third, fourth, others, hmine, hother⟩
      · rw [hmine, hother]
        exact .missing
      · rw [hmine, hother]
        exact .found cell.2
      · rw [hmine, hother]
        exact .ambiguous first.1 second.1 third.1 fourth.1

/-! ## Rows that are built -/

/-- A row that is built cell by cell has each name once, in the order in which they first came, and
under it the value that came last. Another such row that holds the same values, whatever the order
of its cells, resolves every reference alike. -/
theorem ofList_resolves_alike (cells others : List (String × Value)) :
    (ofList cells).columns = (Named.names cells).eraseDups ∧ (ofList cells).columns.Nodup ∧
    (∀ name, (ofList cells).get? name = cells.reverse.lookup name) ∧
    ((∀ name, (ofList cells).get? name = (ofList others).get? name) → ∀ field,
      AnswersAlike field ((ofList cells).lookup field) ((ofList others).lookup field)) := by
  refine ⟨columns_ofList cells, (ofList cells).nodup, get?_ofList cells, ?_⟩
  intro hsame field
  exact answersAlike_of_sameCells hsame field

/-- Two joined rows with their tables exchanged, of which one was built with a value replaced: the
plain name of both keys is ambiguous in both rows, and the other plain name is found in both. -/
theorem ofList_resolves_alike_of_orders :
    let cells : List (String × Value) := [("users.id", .null), ("users.name", .text "Ann"),
      ("orders.id", .int64 7), ("users.id", .int64 1)]
    let others : List (String × Value) := [("orders.id", .int64 7), ("users.name", .text "Ann"),
      ("users.id", .int64 1)]
    (∀ name, (ofList cells).get? name = (ofList others).get? name) ∧
    (ofList cells).columns = ["users.id", "users.name", "orders.id"] ∧
    (ofList cells).get? "users.id" = some (.int64 1) ∧
    AnswersAlike "id" ((ofList cells).lookup "id") ((ofList others).lookup "id") ∧
    AnswersAlike "name" ((ofList cells).lookup "name") ((ofList others).lookup "name") := by
  intro cells others
  have hperm : (ofList cells).cells.Perm (ofList others).cells := by decide
  have hsame : (ofList cells).SameCells (ofList others) := sameCells_iff_perm.mpr hperm
  obtain ⟨hcolumns, -, hvalues, halike⟩ := ofList_resolves_alike cells others
  refine ⟨hsame, hcolumns.trans ?_, (hvalues "users.id").trans ?_, halike hsame "id",
    halike hsame "name"⟩
  · decide
  · decide

end Row

end TableQuery
