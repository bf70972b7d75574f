import TableQuery.Proofs.Value.Number

/-!
# Composite keys

Inside a composite key a value is written as a letter for its kind and its text, up to a separator.
A key therefore shows the pieces between the separators and nothing else
(`groupKeys_eq_iff_pieces`). Numbers never hold the separator, and among texts without it two lists
of values have one key only if they are identical value by value (`groupKeys_eq_iff`).
-/

namespace TableQuery

/-- What stands before the first mark and what follows it can be told apart. -/
lemma Text.append_mark_inj {α : Type} {mark : α} {before other after rest : List α}
    (hbefore : mark ∉ before) (hother : mark ∉ other) :
    before ++ mark :: after = other ++ mark :: rest ↔ before = other ∧ after = rest := by
  constructor
  · intro h
    rcases List.append_eq_append_iff.mp h with ⟨more, rfl, hmore⟩ | ⟨more, rfl, hmore⟩
    · rcases List.cons_eq_append_iff.mp hmore with ⟨rfl, hrest⟩ | ⟨tail, rfl, -⟩
      · exact ⟨(List.append_nil _).symm, (List.cons.inj hrest).2.symm⟩
      · exact absurd (List.mem_append_right before List.mem_cons_self) hother
    · rcases List.cons_eq_append_iff.mp hmore with ⟨rfl, hrest⟩ | ⟨tail, rfl, -⟩
      · exact ⟨List.append_nil _, (List.cons.inj hrest).2⟩
      · exact absurd (List.mem_append_right other List.mem_cons_self) hbefore
  · rintro ⟨rfl, rfl⟩
    rfl

/-- Different integers have different texts. -/
lemma Literal.writeInt_inj {i j : Int64} : writeInt i.toInt = writeInt j.toInt ↔ i = j := by
  constructor
  · intro h
    have hread := readInt64?_writeInt i
    rw [h, readInt64?_writeInt j] at hread
    exact (Option.some.inj hread).symm
  · rintro rfl
    rfl

namespace Value

/-! ## Labels -/

/-- Whether two values are of one kind and hold the same integer, the same text, or numbers of the
same text. -/
def Identical : Value → Value → Prop
  | null, null => True
  | int64 i, int64 j => i = j
  | float64 x, float64 y => x.toText = y.toText
  | text s, text t => s = t
  | _, _ => False

/-- A value inside a composite key, up to the separator. -/
def label : Value → List Char
  | null => [nullMarker]
  | int64 i => 'i' :: (Literal.writeInt i.toInt).toList
  | float64 x => 'f' :: x.toText.toList
  | text s => 's' :: s.toList

/-- Inside a composite key a value is its label and the separator. -/
lemma toList_groupKey (v : Value) : v.groupKey.toList = v.label ++ [keySeparator] := by
  cases v <;> simp [groupKey, label]

variable {v w : Value}

/-- The label of a value shows its kind, and its content up to the spelling of numbers. -/
lemma label_eq_iff : v.label = w.label ↔ v.Identical w := by
  cases v <;> cases w <;>
    simp [label, Identical, nullMarker, String.toList_inj, Literal.writeInt_inj]

/-- Whether two values are identical can be computed. -/
instance (v w : Value) : Decidable (v.Identical w) := decidable_of_iff _ label_eq_iff

/-- Values are identical one by one when their labels are equal. -/
lemma forall₂_identical_iff {vs ws : List Value} :
    List.Forall₂ Identical vs ws ↔ vs.map label = ws.map label := by
  rw [← List.forall₂_eq_eq_eq, List.forall₂_map_left_iff, List.forall₂_map_right_iff]
  simp only [label_eq_iff]

/-! ## Separators -/

/-- Whether a value is not a text that holds the separator. -/
def Unseparated : Value → Prop
  | text s => keySeparator ∉ s.toList
  | _ => True

/-- Whether a value holds no separator can be computed. -/
instance : DecidablePred Unseparated
  | null => .isTrue trivial
  | int64 _ => .isTrue trivial
  | float64 _ => .isTrue trivial
  | text s => inferInstanceAs (Decidable (keySeparator ∉ s.toList))

/-- Printed numbers do not hold the separator. -/
lemma keySeparator_notMem_signed {negative : Bool} {text : List Char}
    (h : ∀ c ∈ text, c.isDigit = true ∨ c = '.') :
    keySeparator ∉ Binary64.signed negative text := by
  intro hmem
  rcases Binary64.mem_signed hmem with hminus | hmem
  · exact absurd hminus (by decide)
  · rcases h _ hmem with hdigit | hpoint
    · exact absurd hdigit (by decide)
    · exact absurd hpoint (by decide)

/-- The label of a value without the separator has none. -/
lemma keySeparator_notMem_label (h : v.Unseparated) : keySeparator ∉ v.label := by
  cases v with
  | null => decide
  | int64 i =>
    have htext : keySeparator ∉ (Literal.writeInt i.toInt).toList := by
      rw [Literal.writeInt, String.toList_ofList]
      refine keySeparator_notMem_signed fun c hc => .inl ?_
      exact List.all_eq_true.mp (Literal.all_isDigit_toDigits _) c hc
    exact List.not_mem_cons_of_ne_of_not_mem (by decide) htext
  | float64 x =>
    have htext : keySeparator ∉ x.toText.toList := by
      cases x with
      | nan negative => cases negative <;> decide
      | infinite negative => cases negative <;> decide
      | finite negative m e hcanonical =>
        rw [Binary64.toText, String.toList_ofList]
        exact keySeparator_notMem_signed (Decimal.plain_chars _).2
    exact List.not_mem_cons_of_ne_of_not_mem (by decide) htext
  | text s => exact List.not_mem_cons_of_ne_of_not_mem (by decide) h

/-! ## Keys of lists -/

/-- A composite key is the labels of the values, each with the separator behind it. -/
lemma toList_groupKeys (values : List Value) :
    (groupKeys values).toList = values.flatMap fun v => v.label ++ [keySeparator] := by
  simp [groupKeys, String.toList_join, List.flatMap, Function.comp_def, toList_groupKey]

/-- The texts between the separators in the label of a value. -/
def pieces (v : Value) : List (List Char) := v.label.splitOn keySeparator

/-- Without separators a value is one piece. -/
lemma pieces_of_unseparated (h : v.Unseparated) : v.pieces = [v.label] :=
  List.splitOn_eq_singleton (keySeparator_notMem_label h)

/-- Between its separators a key has the pieces of the values, and nothing at its end. -/
lemma splitOn_groupKeys (values : List Value) :
    (groupKeys values).toList.splitOn keySeparator = values.flatMap pieces ++ [[]] := by
  rw [toList_groupKeys]
  induction values with
  | nil => rfl
  | cons v rest ih =>
    rw [List.flatMap_cons, List.append_assoc, List.singleton_append, List.flatMap_cons,
      List.append_assoc, ← ih]
    exact List.splitOnP_append_cons _ _ (beq_self_eq_true _)

/-- Two lists of values have one key exactly when they have the same pieces, whichever values these
belong to. -/
lemma groupKeys_eq_iff_pieces {vs ws : List Value} :
    groupKeys vs = groupKeys ws ↔ vs.flatMap pieces = ws.flatMap pieces := by
  constructor
  · intro h
    have hsplit := splitOn_groupKeys vs
    rw [h, splitOn_groupKeys] at hsplit
    exact (List.append_cancel_right hsplit).symm
  · intro h
    have hjoin (values : List Value) :
        [keySeparator].intercalate (values.flatMap pieces ++ [[]]) = (groupKeys values).toList := by
      rw [← splitOn_groupKeys, List.intercalate_splitOn]
    rw [← String.toList_inj, ← hjoin, h, hjoin]

/-- Two lists of values without separators have one key exactly when they are identical value by
value. -/
lemma groupKeys_eq_iff {vs ws : List Value} (hvs : ∀ v ∈ vs, v.Unseparated)
    (hws : ∀ w ∈ ws, w.Unseparated) :
    groupKeys vs = groupKeys ws ↔ List.Forall₂ Identical vs ws := by
  have hpieces {values : List Value} (h : ∀ v ∈ values, v.Unseparated) :
      values.flatMap pieces = values.map label := by
    rw [List.map_eq_flatMap]
    exact List.flatMap_congr fun v hv => pieces_of_unseparated (h v hv)
  rw [groupKeys_eq_iff_pieces, hpieces hvs, hpieces hws, forall₂_identical_iff]

end Value

end TableQuery
