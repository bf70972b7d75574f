import TableQuery.Proofs.Query.Sums
import TableQuery.Proofs.Value.Order

/-!
# The least and the greatest value of a column

The least and the greatest value are found in one scan, which keeps a value until another one beats
it. If the order of values is transitive among those of the column, then the value that is kept in
the end is the first one that no other beats (`extremum_first_unbeaten`). So in another order of the
rows it can only be replaced by a value that is level with it.
-/

namespace TableQuery

namespace Value

/-- Whether the order of values is transitive among some values: if one stands to a second as the
second stands to a third, smaller, level or greater, then so does the first to the third. -/
def TransitiveOn (values : List Value) : Prop :=
  ∀ a ∈ values, ∀ b ∈ values, ∀ c ∈ values,
    a.compare? b = b.compare? c → a.compare? c = b.compare? c

/-- Whether the order is transitive among some values can be computed. -/
instance (values : List Value) : Decidable (TransitiveOn values) :=
  inferInstanceAs (Decidable (∀ a ∈ values, ∀ b ∈ values, ∀ c ∈ values, _ → _))

variable {wanted : Ordering} {values : List Value} {a b c : Value}

/-- An order that is transitive among some values is so among fewer. -/
lemma TransitiveOn.mono {others : List Value} (h : TransitiveOn values) (hsub : others ⊆ values) :
    TransitiveOn others :=
  fun a ha b hb c hc => h a (hsub ha) b (hsub hb) c (hsub hc)

/-- Values that are present have an order. -/
lemma exists_compare? (ha : a.isNull = false) (hb : b.isNull = false) :
    ∃ order, a.compare? b = some order := by
  cases readTogether a b with
  | ints i j hi hj => exact ⟨_, compare?_eq_of_ints hi hj⟩
  | numbers x y hx hy hone => exact ⟨_, compare?_eq_of_numbers hx hy hone⟩
  | texts hone => exact ⟨_, compare?_eq_of_word ha hb hone⟩

/-- Two values of which neither beats the other are level. -/
lemma compare?_eq_of_not_beats (hwanted : wanted ≠ .eq) (ha : a.isNull = false)
    (hb : b.isNull = false) (hab : a.compare? b ≠ some wanted) (hba : b.compare? a ≠ some wanted) :
    a.compare? b = some .eq := by
  obtain ⟨order, horder⟩ := exists_compare? ha hb
  rw [compare?_swap ha hb, horder, Option.map_some] at hba
  rw [horder] at hab ⊢
  cases order <;> cases wanted <;> simp_all

/-- What beats a value also beats those that do not beat it. -/
lemma TransitiveOn.beats (h : TransitiveOn values) (hwanted : wanted ≠ .eq)
    (hpresent : ∀ value ∈ values, value.isNull = false) (ha : a ∈ values) (hb : b ∈ values)
    (hc : c ∈ values) (hab : a.compare? b = some wanted) (hcb : c.compare? b ≠ some wanted) :
    a.compare? c = some wanted := by
  have hlevel {d e : Value} (hd : d ∈ values) (he : e ∈ values) (hde : d.compare? e ≠ some wanted)
      (hed : e.compare? d ≠ some wanted) : d.compare? e = some .eq :=
    compare?_eq_of_not_beats hwanted (hpresent d hd) (hpresent e he) hde hed
  by_contra hac
  have hca : c.compare? a ≠ some wanted := fun hca =>
    hcb ((h c hc a ha b hb (hca.trans hab.symm)).trans hab)
  have hbc : b.compare? c ≠ some wanted := fun hbc =>
    hac ((h a ha b hb c hc (hab.trans hbc.symm)).trans hbc)
  -- the third value is level with both others, so they are level too
  have hcb' := hlevel hc hb hcb hbc
  have hab' := h a ha c hc b hb ((hlevel ha hc hac hca).trans hcb'.symm)
  rw [hab, hcb', Option.some.injEq] at hab'
  exact hwanted hab'

end Value

/-- The way in which the value that a function looks for beats another: the least value is smaller,
and the greatest one greater. -/
def AggregateFunction.wanted? : AggregateFunction → Option Ordering
  | .min => some .lt
  | .max => some .gt
  | _ => none

namespace AggregateCall

variable {wanted : Ordering} {values : List Value} {value best : Value}

/-- Whether a value is beaten by none of some others. -/
def unbeaten (wanted : Ordering) (values : List Value) (value : Value) : Bool :=
  values.all fun other => other.compare? value != some wanted

/-- The first of some values that none of them beats. -/
def firstUnbeaten? (wanted : Ordering) (values : List Value) : Option Value :=
  values.find? (unbeaten wanted values)

/-- A value is unbeaten exactly when none of the others beats it. -/
lemma unbeaten_iff :
    unbeaten wanted values value = true ↔ ∀ other ∈ values, other.compare? value ≠ some wanted := by
  simp [unbeaten]

/-- The first value that none beats stands behind values that are all beaten. -/
lemma firstUnbeaten?_eq_some_iff : firstUnbeaten? wanted values = some value ↔
    unbeaten wanted values value = true ∧ ∃ before after, values = before ++ value :: after ∧
      ∀ earlier ∈ before, unbeaten wanted values earlier = false := by
  simp [firstUnbeaten?, List.find?_eq_some_iff_append]

/-! ## The scan -/

/-- One value more behind others: it is the first that none beats if it beats the one that was, and
changes nothing otherwise. -/
lemma firstUnbeaten?_concat (hwanted : wanted ≠ .eq)
    (hpresent : ∀ other ∈ values ++ [value], other.isNull = false)
    (htransitive : Value.TransitiveOn (values ++ [value]))
    (hbest : firstUnbeaten? wanted values = some best) :
    firstUnbeaten? wanted (values ++ [value]) =
      some (if value.compare? best = some wanted then value else best) := by
  have hself : value.compare? value ≠ some wanted := by
    rw [Value.compare?_self (hpresent value (by simp))]
    exact fun h => hwanted (Option.some.inj h).symm
  obtain ⟨hunbeaten, before, after, hvalues, hbefore⟩ := firstUnbeaten?_eq_some_iff.mp hbest
  rw [unbeaten_iff] at hunbeaten
  have hmem {other : Value} (hother : other ∈ values) : other ∈ values ++ [value] :=
    List.mem_append_left _ hother
  have hlast : value ∈ values ++ [value] := List.mem_append_right _ List.mem_cons_self
  have hbestmem : best ∈ values := by rw [hvalues]; simp
  rw [firstUnbeaten?_eq_some_iff]
  split
  · rename_i hbeats
    refine ⟨?_, values, [], rfl, fun earlier hearlier => ?_⟩
    · rw [unbeaten_iff, List.forall_mem_append, List.forall_mem_singleton]
      refine ⟨fun other hother hwins => hunbeaten other hother ?_, hself⟩
      exact (htransitive other (hmem hother) value hlast best (hmem hbestmem)
        (hwins.trans hbeats.symm)).trans hbeats
    · -- what does not beat the value so far is beaten by what does
      have hwins := htransitive.beats hwanted hpresent hlast (hmem hbestmem) (hmem hearlier) hbeats
        (hunbeaten earlier hearlier)
      rw [← Bool.not_eq_true, unbeaten_iff]
      exact fun h => h value hlast hwins
  · rename_i hbeats
    refine ⟨?_, before, after ++ [value], by rw [hvalues]; simp, fun earlier hearlier => ?_⟩
    · rw [unbeaten_iff, List.forall_mem_append, List.forall_mem_singleton]
      exact ⟨hunbeaten, hbeats⟩
    · have hbeaten := hbefore earlier hearlier
      rw [← Bool.not_eq_true, unbeaten_iff] at hbeaten ⊢
      exact fun h => hbeaten fun other hother => h other (hmem hother)

/-- The value that is kept when one more is looked at. -/
def keepBest (wanted : Ordering) (best : Option Value) (value : Value) : Option Value :=
  match best with
  | none => some value
  | some current => if value.compare? current = some wanted then some value else some current

/-- The value that is kept in the end is the first one that none beats. -/
lemma exists_foldl_keepBest (hwanted : wanted ≠ .eq)
    (hpresent : ∀ value ∈ values, value.isNull = false)
    (htransitive : Value.TransitiveOn values) (hne : values ≠ []) :
    ∃ best, values.foldl (keepBest wanted) none = some best ∧
      firstUnbeaten? wanted values = some best := by
  induction values using List.reverseRecOn with
  | nil => exact absurd rfl hne
  | append_singleton values value ih =>
    rw [List.foldl_concat]
    have hsub : values ⊆ values ++ [value] := List.subset_append_left values [value]
    by_cases hvalues : values = []
    · subst hvalues
      have hself := Value.compare?_self (hpresent value (by simp))
      exact ⟨value, rfl, by simp [firstUnbeaten?, unbeaten, hself, hwanted.symm]⟩
    · obtain ⟨best, hfold, hbest⟩ :=
        ih (fun other hother => hpresent other (hsub hother)) (htransitive.mono hsub) hvalues
      refine ⟨_, ?_, firstUnbeaten?_concat hwanted hpresent htransitive hbest⟩
      rw [hfold, keepBest]
      split_ifs <;> rfl

/-- The scan over all values ends with the first that none beats. -/
lemma firstUnbeaten?_eq_extremum (hwanted : wanted ≠ .eq)
    (hpresent : ∀ value ∈ values, value.isNull = false)
    (htransitive : Value.TransitiveOn values) (hne : values ≠ []) :
    firstUnbeaten? wanted values = some (extremum wanted values) := by
  obtain ⟨best, hfold, hbest⟩ := exists_foldl_keepBest hwanted hpresent htransitive hne
  have hextremum : extremum wanted values = (values.foldl (keepBest wanted) none).getD .null := rfl
  rw [hbest, hextremum, hfold, Option.getD_some]

/-! ## The order of the rows -/

/-- The values that none beats are level with one another. -/
lemma extremum_perm (hwanted : wanted ≠ .eq) {others : List Value}
    (hpresent : ∀ value ∈ values, value.isNull = false)
    (htransitive : Value.TransitiveOn values) (hperm : others.Perm values) (hne : values ≠ []) :
    (extremum wanted others).compare? (extremum wanted values) = some .eq := by
  have hsub : others ⊆ values := hperm.subset
  have hpresent' : ∀ value ∈ others, value.isNull = false :=
    fun value hvalue => hpresent value (hsub hvalue)
  have hne' : others ≠ [] := fun h => hne (h ▸ hperm).symm.eq_nil
  have hfirst := firstUnbeaten?_eq_extremum hwanted hpresent htransitive hne
  have hother := firstUnbeaten?_eq_extremum hwanted hpresent' (htransitive.mono hsub) hne'
  have hmem := List.mem_of_find?_eq_some hfirst
  have hmem' := hsub (List.mem_of_find?_eq_some hother)
  have hunbeaten := unbeaten_iff.mp (firstUnbeaten?_eq_some_iff.mp hfirst).1
  have hunbeaten' := unbeaten_iff.mp (firstUnbeaten?_eq_some_iff.mp hother).1
  exact Value.compare?_eq_of_not_beats hwanted (hpresent _ hmem') (hpresent _ hmem)
    (hunbeaten _ hmem') (hunbeaten' _ (hperm.mem_iff.mpr hmem))

/-- Empty cells are not among the values of a column. -/
lemma present_of_mem_presentValues {column : String} {group : List Row}
    (h : value ∈ presentValues column group) : value.isNull = false := by
  simpa using (List.mem_filter.mp h).2

/-- The least and the greatest value of a column exist if it can be looked up in all rows. If the
order of values is transitive among those of the column, they are the first value that no other
beats, or nothing if there is no value, and in another order of the rows the value is level with
it. -/
theorem extremum_first_unbeaten {function : AggregateFunction}
    (hfunction : function.wanted? = some wanted) (column : String) (group : List Row)
    (htransitive : Value.TransitiveOn (presentValues column group)) :
    let call : AggregateCall := ⟨function, .column column⟩
    ((∃ extreme, call.value group = .ok extreme) ↔ ∀ row ∈ group, row.Resolves [column]) ∧
    ∀ extreme, call.value group = .ok extreme →
      (presentValues column group = [] ∧ extreme = .null ∨
        firstUnbeaten? wanted (presentValues column group) = some extreme) ∧
      ∀ reordered : List Row, reordered.Perm group → ∃ other,
        call.value reordered = .ok other ∧
          (other = extreme ∨ other.compare? extreme = some .eq) := by
  intro call
  have hwanted : wanted ≠ .eq := by
    rintro rfl
    cases function <;> cases hfunction
  have hvalue {rows : List Row} (h : ∀ row ∈ rows, row.Resolves [column]) :
      call.value rows = .ok (extremum wanted (presentValues column rows)) := by
    rw [value_of_resolves function h]
    cases function <;> cases hfunction <;> rfl
  have hpresent : ∀ value ∈ presentValues column group, value.isNull = false :=
    fun value => present_of_mem_presentValues
  refine ⟨⟨fun ⟨_, h⟩ => resolves_of_value h, fun h => ⟨_, hvalue h⟩⟩, fun extreme h => ?_⟩
  have hgroup := resolves_of_value h
  rw [hvalue hgroup] at h
  obtain rfl := Except.ok.inj h
  have hreordered {reordered : List Row} (hperm : reordered.Perm group) :
      call.value reordered = .ok (extremum wanted (presentValues column reordered)) :=
    hvalue fun row hrow => hgroup row (hperm.mem_iff.mp hrow)
  -- without values the result is empty in every order of the rows
  by_cases hnil : presentValues column group = []
  · refine ⟨.inl ⟨hnil, by rw [hnil]; rfl⟩, fun reordered hperm => ⟨_, hreordered hperm, .inl ?_⟩⟩
    have hempty : (presentValues column reordered).Perm (presentValues column group) :=
      presentValues_perm hperm
    rw [hnil] at hempty
    rw [hnil, hempty.eq_nil]
  · refine ⟨.inr (firstUnbeaten?_eq_extremum hwanted hpresent htransitive hnil),
      fun reordered hperm => ⟨_, hreordered hperm, .inr ?_⟩⟩
    exact extremum_perm hwanted hpresent htransitive (presentValues_perm hperm) hnil

/-- Of `3`, the text `2`, an empty cell and `2`, the text is the least value. In the reverse order
of the rows the least value is level with it. -/
theorem extremum_first_unbeaten_of_twos :
    let cell (value : Value) : Row := .ofList [("x", value)]
    let group := [cell (.int64 3), cell (.text "2"), cell .null, cell (.int64 2)]
    let least : AggregateCall := ⟨.min, .column "x"⟩
    AggregateFunction.min.wanted? = some .lt ∧ Value.TransitiveOn (presentValues "x" group) ∧
      least.value group = .ok (.text "2") ∧
      ∃ other, least.value group.reverse = .ok other ∧
        (other = .text "2" ∨ other.compare? (.text "2") = some .eq) := by
  intro cell group least
  have hwanted : AggregateFunction.min.wanted? = some .lt := rfl
  have htransitive : Value.TransitiveOn (presentValues "x" group) := by decide
  have hfirst : firstUnbeaten? .lt (presentValues "x" group) = some (.text "2") := by
    decide
  obtain ⟨hexists, hleast⟩ := extremum_first_unbeaten hwanted "x" group htransitive
  obtain ⟨extreme, hextreme⟩ := hexists.mpr (by decide)
  obtain ⟨hspec, horders⟩ := hleast extreme hextreme
  have htext : extreme = .text "2" := by
    rcases hspec with ⟨hnil, -⟩ | hspec
    · rw [hnil] at hfirst
      cases hfirst
    · exact Option.some.inj (hspec.symm.trans hfirst)
  subst htext
  exact ⟨hwanted, htransitive, hextreme, horders _ group.reverse_perm⟩

end AggregateCall

end TableQuery
