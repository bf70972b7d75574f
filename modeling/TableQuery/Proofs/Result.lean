import Mathlib.Tactic.Common
import TableQuery.Query.Plan

/-!
# Results without their errors

`Except.toOption` forgets why a computation failed. It commutes with the ways in which computations
are put together, so that a chain of stages can be compared with another one by what it gives when
it succeeds.
-/

namespace TableQuery

namespace Result

variable {ε α β : Type}

/-- A result that is there is kept. -/
@[simp] lemma toOption_ok (a : α) : (Except.ok a : Except ε α).toOption = some a := rfl

/-- An error is forgotten. -/
@[simp] lemma toOption_error (e : ε) : (Except.error e : Except ε α).toOption = none := rfl

/-- Stages one after the other succeed with what the second gives for the result of the first. -/
@[simp] lemma toOption_bind (x : Except ε α) (f : α → Except ε β) :
    (x >>= f).toOption = x.toOption.bind fun a => (f a).toOption := by
  cases x <;> rfl

/-- Mapping a result and forgetting its error may be done in either order. -/
@[simp] lemma toOption_map (x : Except ε α) (f : α → β) :
    (f <$> x).toOption = x.toOption.map f := by
  cases x <;> rfl

/-- The error of an execution is forgotten like any other. -/
@[simp] lemma toOption_ofExecution (x : Except ExecutionError α) :
    (Result.ofExecution x).toOption = x.toOption := by
  cases x <;> rfl

/-- A result that is there when errors are forgotten was there before. -/
lemma eq_ok_of_toOption {x : Except ε α} {a : α} (h : x.toOption = some a) : x = .ok a := by
  cases x with
  | error e => cases h
  | ok b => exact congrArg Except.ok (Option.some.inj h)

/-- A result that is not there when errors are forgotten was an error. -/
lemma exists_error_of_toOption {x : Except ε α} (h : x.toOption = none) : ∃ e, x = .error e := by
  cases x with
  | error e => exact ⟨e, rfl⟩
  | ok b => cases h

/-- Stages one after the other succeed when both do. -/
lemma bind_eq_ok {x : Except ε α} {f : α → Except ε β} {b : β} (h : x >>= f = .ok b) :
    ∃ a, x = .ok a ∧ f a = .ok b := by
  cases x with
  | error e => cases h
  | ok a => exact ⟨a, rfl, h⟩

/-! ## Lists of results -/

/-- The error of the first item that fails. -/
def firstError? (f : α → Except ε β) : List α → Option ε
  | [] => none
  | a :: rest =>
    match f a with
    | .error e => some e
    | .ok _ => firstError? f rest

/-- Working through a list fails with the first error, and else gives all results. -/
lemma mapM_eq (f : α → Except ε β) (items : List α) :
    items.mapM f =
      match firstError? f items with
      | some e => .error e
      | none => .ok (items.filterMap fun a => (f a).toOption) := by
  induction items with
  | nil => rfl
  | cons a rest ih =>
    rw [List.mapM_cons, ih]
    cases ha : f a with
    | error e => simp [firstError?, ha, bind, Except.bind]
    | ok b =>
      simp only [firstError?, ha, List.filterMap_cons, toOption_ok]
      cases firstError? f rest <;> rfl

/-- Working through a list whose items all succeed gives their results. -/
lemma mapM_eq_ok {f : α → Except ε β} {g : α → β} {items : List α}
    (h : ∀ a ∈ items, f a = .ok (g a)) : items.mapM f = .ok (items.map g) := by
  induction items with
  | nil => rfl
  | cons a rest ih =>
    rw [List.mapM_cons, h a List.mem_cons_self, ih fun b hb => h b (List.mem_cons_of_mem a hb)]
    rfl

/-- Working through a list gives one result for each item, in their order. -/
lemma forall₂_of_mapM {f : α → Except ε β} {items : List α} {results : List β}
    (h : items.mapM f = .ok results) : List.Forall₂ (fun a b => f a = .ok b) items results := by
  induction items generalizing results with
  | nil =>
    obtain rfl := Except.ok.inj h
    exact .nil
  | cons a rest ih =>
    rw [List.mapM_cons] at h
    obtain ⟨b, hb, h⟩ := bind_eq_ok h
    obtain ⟨others, hothers, h⟩ := bind_eq_ok h
    obtain rfl := Except.ok.inj h
    exact .cons hb (ih hothers)

/-- There is no first error when no item fails. -/
lemma firstError?_eq_none_iff {f : α → Except ε β} {items : List α} :
    firstError? f items = none ↔ ∀ a ∈ items, ∃ b, f a = .ok b := by
  induction items with
  | nil => simp [firstError?]
  | cons a rest ih =>
    cases ha : f a with
    | error e => simp [firstError?, ha]
    | ok b => simp [firstError?, ha, ih]

/-- Every item has a result, and every result is that of an item. -/
lemma exists_of_mapM {f : α → Except ε β} {items : List α} {results : List β}
    (h : items.mapM f = .ok results) :
    (∀ a ∈ items, ∃ b ∈ results, f a = .ok b) ∧ ∀ b ∈ results, ∃ a ∈ items, f a = .ok b := by
  rw [mapM_eq] at h
  cases hfirst : firstError? f items with
  | some e =>
    rw [hfirst] at h
    cases h
  | none =>
    rw [hfirst] at h
    obtain rfl := Except.ok.inj h
    refine ⟨fun a ha => ?_, fun b hb => ?_⟩
    · obtain ⟨b, hb⟩ := firstError?_eq_none_iff.mp hfirst a ha
      exact ⟨b, List.mem_filterMap.mpr ⟨a, ha, by rw [hb, toOption_ok]⟩, hb⟩
    · obtain ⟨a, ha, hab⟩ := List.mem_filterMap.mp hb
      exact ⟨a, ha, eq_ok_of_toOption hab⟩

/-- The first error is that of an item. -/
lemma exists_of_firstError? {f : α → Except ε β} {items : List α} {e : ε}
    (h : firstError? f items = some e) : ∃ a ∈ items, f a = .error e := by
  induction items with
  | nil => cases h
  | cons a rest ih =>
    cases ha : f a with
    | error e' =>
      simp only [firstError?, ha, Option.some.injEq] at h
      exact ⟨a, List.mem_cons_self, h ▸ ha⟩
    | ok b =>
      simp only [firstError?, ha] at h
      obtain ⟨c, hc, hfail⟩ := ih h
      exact ⟨c, List.mem_cons_of_mem a hc, hfail⟩

/-- Working through a list fails when one of its items does. -/
lemma exists_error_of_mapM {f : α → Except ε β} {items : List α} {a : α} (ha : a ∈ items)
    (h : ∃ e, f a = .error e) : ∃ e, items.mapM f = .error e := by
  cases hfirst : firstError? f items with
  | some e => exact ⟨e, by rw [mapM_eq, hfirst]⟩
  | none =>
    obtain ⟨b, hb⟩ := firstError?_eq_none_iff.mp hfirst a ha
    obtain ⟨e, he⟩ := h
    rw [hb] at he
    cases he

end Result

end TableQuery
