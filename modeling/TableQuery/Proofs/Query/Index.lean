import Mathlib.Data.List.Infix
import TableQuery.Proofs.Query.NestedLoop

/-!
# First rows of keys

Dropping repeated rows keeps the items of keys that no item before them has (`keepNew_eq`). So it
keeps the first item of each key (`head?_filter_of_mem_keepNew`) in the order in which the keys
first appear (`pairwise_keepNew`), and an index gives the rows of a key in their order. With keys
that a function gives for the rows, both are said without the index: the rows of a key are a
filtered list, the kept row is the first of it, and these lists together hold all rows
(`flatMap_keepNew_perm`).
-/

namespace TableQuery

namespace Index

variable {α β : Type}

/-- The items of new keys are those whose key was not seen and is not that of an item before. -/
lemma keepNew_eq (key : α → String) (seen : Std.HashSet String) (items : List α) :
    (keepNew key seen items).1 = ((items.inits.zip items).filter fun (before, item) =>
      key item ∉ seen ∧ ∀ other ∈ before, key item ≠ key other).map Prod.snd := by
  induction items generalizing seen with
  | nil => rfl
  | cons first rest ih =>
    have hinits : (first :: rest).inits.zip (first :: rest) =
        ([], first) :: (rest.inits.zip rest).map (Prod.map (first :: ·) id) := by
      rw [List.inits_cons, List.zip_cons_cons, List.zip_map_left]
    -- the keys seen before and those in front of an item are one condition on it
    have hrest {after : Std.HashSet String}
        (h : ∀ item, key item ∉ after ↔ key item ∉ seen ∧ key item ≠ key first) :
        (keepNew key after rest).1 =
          (((rest.inits.zip rest).map (Prod.map (first :: ·) id)).filter fun (before, item) =>
            key item ∉ seen ∧ ∀ other ∈ before, key item ≠ key other).map Prod.snd := by
      rw [ih, List.filter_map, List.map_map]
      refine congrArg _ (List.filter_congr fun (before, item) _ => ?_)
      simp [h, and_assoc]
    rw [keepNew, hinits]
    split
    · rename_i hseen
      rw [List.filter_cons_of_neg (by simpa using hseen)]
      refine hrest fun item => (and_iff_left_of_imp fun hitem hkey => ?_).symm
      exact hitem (hkey ▸ Std.HashSet.contains_iff_mem.mp hseen)
    · rename_i hnew
      rw [List.filter_cons_of_pos (by simpa using hnew), List.map_cons]
      refine congrArg _ (hrest fun item => ?_)
      rw [Std.HashSet.mem_insert, beq_iff_eq, not_or, and_comm, eq_comm]

/-- The kept items are among the items. -/
lemma mem_of_mem_keepNew {key : α → String} {seen : Std.HashSet String} {items : List α}
    {item : α} (h : item ∈ (keepNew key seen items).1) : item ∈ items := by
  rw [keepNew_eq] at h
  obtain ⟨⟨before, item⟩, hentry, rfl⟩ := List.mem_map.mp h
  exact (List.of_mem_zip (List.mem_filter.mp hentry).1).2

/-- No kept item has a key that was seen before. -/
lemma not_seen_of_mem_keepNew {key : α → String} {seen : Std.HashSet String} {items : List α}
    {item : α} (h : item ∈ (keepNew key seen items).1) : seen.contains (key item) = false := by
  rw [keepNew_eq] at h
  obtain ⟨⟨before, item⟩, hentry, rfl⟩ := List.mem_map.mp h
  have hnew := (of_decide_eq_true (List.mem_filter.mp hentry).2).1
  exact Bool.eq_false_iff.mpr fun hseen => hnew (Std.HashSet.contains_iff_mem.mp hseen)

/-- A kept item does not have the key of one that was seen before. -/
lemma ne_key_of_mem_keepNew {key : α → String} {seen : Std.HashSet String} {items : List α}
    {item before : α} (hbefore : seen.contains (key before) = true)
    (h : item ∈ (keepNew key seen items).1) : (key before == key item) = false := by
  rw [beq_eq_false_iff_ne]
  intro heq
  rw [heq, not_seen_of_mem_keepNew h] at hbefore
  cases hbefore

/-- Every kept item is the first one with its key. -/
lemma head?_filter_of_mem_keepNew {key : α → String} {seen : Std.HashSet String} {items : List α}
    {item : α} (h : item ∈ (keepNew key seen items).1) :
    (items.filter fun other => key other == key item).head? = some item := by
  induction items generalizing seen with
  | nil => cases h
  | cons first rest ih =>
    rw [keepNew] at h
    split at h
    · rename_i hseen
      rw [List.filter_cons, ne_key_of_mem_keepNew hseen h]
      exact ih h
    · rcases List.mem_cons.mp h with rfl | hmem
      · rw [List.filter_cons, beq_self_eq_true]
        rfl
      · rw [List.filter_cons, ne_key_of_mem_keepNew Std.HashSet.contains_insert_self hmem]
        exact ih hmem

/-- The first index at which a condition holds depends on what it says in the list only. -/
lemma findIdx_congr {p q : α → Bool} {items : List α} (h : ∀ item ∈ items, p item = q item) :
    items.findIdx p = items.findIdx q := by
  induction items with
  | nil => rfl
  | cons first rest ih =>
    obtain ⟨hfirst, hrest⟩ := List.forall_mem_cons.mp h
    rw [List.findIdx_cons, List.findIdx_cons, hfirst, ih hrest]

/-- The kept items come in the order in which their keys first appear. -/
lemma pairwise_keepNew (key : α → String) (seen : Std.HashSet String) (items : List α) :
    (keepNew key seen items).1.Pairwise fun earlier later =>
      items.findIdx (fun item => key item == key earlier) <
        items.findIdx fun item => key item == key later := by
  induction items generalizing seen with
  | nil => exact .nil
  | cons first rest ih =>
    -- items that are kept behind the first one have other keys, so they move by one place
    have hshift {seen : Std.HashSet String} (hfirst : seen.contains (key first) = true) {item : α}
        (h : item ∈ (keepNew key seen rest).1) :
        (first :: rest).findIdx (fun other => key other == key item) =
          rest.findIdx (fun other => key other == key item) + 1 := by
      rw [List.findIdx_cons, ne_key_of_mem_keepNew hfirst h]
      rfl
    have hrest {seen : Std.HashSet String} (hfirst : seen.contains (key first) = true) :
        (keepNew key seen rest).1.Pairwise fun earlier later =>
          (first :: rest).findIdx (fun item => key item == key earlier) <
            (first :: rest).findIdx fun item => key item == key later := by
      refine (ih seen).imp_of_mem fun hearlier hlater hlt => ?_
      rw [hshift hfirst hearlier, hshift hfirst hlater]
      exact Nat.succ_lt_succ hlt
    rw [keepNew]
    split
    · rename_i hseen
      exact hrest hseen
    · refine List.pairwise_cons.mpr ⟨fun item hitem => ?_, hrest Std.HashSet.contains_insert_self⟩
      rw [hshift Std.HashSet.contains_insert_self hitem, List.findIdx_cons, beq_self_eq_true]
      exact Nat.succ_pos _

/-- The items of the kept keys, taken key by key, are all those whose keys were not seen before. -/
lemma flatMap_keepNew_perm (key : α → String) (seen : Std.HashSet String) (items : List α) :
    ((keepNew key seen items).1.flatMap fun kept =>
      items.filter fun item => key item == key kept).Perm
      (items.filter fun item => !seen.contains (key item)) := by
  induction items generalizing seen with
  | nil => exact .refl _
  | cons first rest ih =>
    have hrest {seen : Std.HashSet String} (hfirst : seen.contains (key first) = true) :
        ((keepNew key seen rest).1.flatMap fun kept =>
          (first :: rest).filter fun item => key item == key kept) =
          (keepNew key seen rest).1.flatMap fun kept =>
            rest.filter fun item => key item == key kept := by
      refine List.flatMap_congr fun kept hkept => ?_
      rw [List.filter_cons, ne_key_of_mem_keepNew hfirst hkept]
      rfl
    rw [keepNew]
    split
    · rename_i hseen
      rw [hrest hseen, List.filter_cons_of_neg (by simp [hseen])]
      exact ih seen
    · rename_i hnew
      rw [List.flatMap_cons, hrest Std.HashSet.contains_insert_self, List.filter_cons,
        beq_self_eq_true, if_pos rfl, List.filter_cons_of_pos (by simp [hnew])]
      refine (((ih _).append_left _).cons first).trans (.cons first ?_)
      -- the unseen items of the rest, split by whether they have the key of the first item
      let unseen := rest.filter fun item => !seen.contains (key item)
      have hsame : unseen.filter (fun item => key item == key first) =
          rest.filter fun item => key item == key first := by
        rw [List.filter_filter]
        refine List.filter_congr fun item _ => ?_
        by_cases h : key item = key first <;> simp [h, hnew]
      have hother : unseen.filter (fun item => !(key item == key first)) =
          rest.filter fun item => !(seen.insert (key first)).contains (key item) := by
        rw [List.filter_filter]
        refine List.filter_congr fun item _ => ?_
        rw [Std.HashSet.contains_insert, Bool.not_or, BEq.comm]
      rw [← hsame, ← hother]
      exact List.filter_append_perm _ unseen

/-- Items that are made from others are kept as these are, by the keys of what is made. -/
lemma keepNew_map (make : β → α) (key : α → String) (seen : Std.HashSet String)
    (items : List β) :
    (keepNew key seen (items.map make)).1 =
      (keepNew (fun item => key (make item)) seen items).1.map make := by
  induction items generalizing seen with
  | nil => rfl
  | cons item items ih =>
    simp only [List.map_cons, keepNew]
    split
    · exact ih seen
    · simp only [List.map_cons, ih]

/-- The rows under a key of an index are those that carry it. -/
lemma getD_ofList (keyed : List (String × Row)) (key : String) :
    (ofList keyed).getD key [] = withKey key keyed := by
  rw [Std.HashMap.getD_eq_getD_getElem?, getElem?_ofList, getD_nonempty?]

/-- Rows that are keyed by a function are found by what it gives for them. -/
lemma withKey_zip_map (key : Row → String) (rows : List Row) (wanted : String) :
    withKey wanted ((rows.map key).zip rows) = rows.filter fun row => key row == wanted := by
  induction rows with
  | nil => rfl
  | cons row rows ih =>
    simp only [withKey, List.map_cons, List.zip_cons_cons, List.filter_cons] at ih ⊢
    cases key row == wanted <;> simp [ih]

end Index

end TableQuery
