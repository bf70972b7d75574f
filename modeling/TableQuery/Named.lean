/-!
# Lists of named things

An ordered list of pairs of a name and a thing, kept so that no name occurs twice: setting a name
that is there replaces its thing in place, and a new name goes to the end.
-/

namespace TableQuery

namespace Named

variable {α : Type}

/-- The names, in order. -/
def names (entries : List (String × α)) : List String := entries.map Prod.fst

/-- Sets a name: in place if it is there, else at the end. -/
def set (name : String) (value : α) : List (String × α) → List (String × α)
  | [] => [(name, value)]
  | entry :: rest =>
    if entry.1 = name then (name, value) :: rest else entry :: set name value rest

/-- Removes a name. -/
def erase (name : String) (entries : List (String × α)) : List (String × α) :=
  entries.filter fun entry => entry.1 != name

/-- Setting keeps the names and adds the new one at the end if it was not there. -/
theorem names_set (name : String) (value : α) (entries : List (String × α)) :
    names (set name value entries) =
      if name ∈ names entries then names entries else names entries ++ [name] := by
  induction entries with
  | nil => simp [set, names]
  | cons entry rest ih =>
    by_cases h : entry.1 = name
    · simp [set, names, h]
    · have h' : ¬ name = entry.1 := fun e => h e.symm
      by_cases hm : name ∈ names rest <;> simp_all [set, names]

/-- Setting keeps the names distinct. -/
theorem nodup_set (name : String) (value : α) {entries : List (String × α)}
    (nodup : (names entries).Nodup) : (names (set name value entries)).Nodup := by
  rw [names_set]
  split
  · exact nodup
  · rename_i h
    rw [List.nodup_append]
    refine ⟨nodup, by simp, ?_⟩
    intro a ha b hb e
    simp only [List.mem_singleton] at hb
    exact h (hb ▸ e ▸ ha)

/-- A name that is not there goes to the end. -/
theorem set_of_not_mem {name : String} (value : α) {entries : List (String × α)}
    (h : name ∉ names entries) : set name value entries = entries ++ [(name, value)] := by
  induction entries with
  | nil => rfl
  | cons entry rest ih =>
    simp only [names, List.map_cons, List.mem_cons, not_or] at h
    simp [set, Ne.symm h.1, ih h.2]

/-- What is found under a name is the thing of the first entry of that name. -/
theorem lookup_cons (name other : String) (value : α) (entries : List (String × α)) :
    ((name, value) :: entries).lookup other =
      if other = name then some value else entries.lookup other := by
  by_cases h : other = name
  · simp [h]
  · simp [List.lookup_cons, h, beq_false_of_ne h]

/-- Something is found under exactly the names of the entries. -/
theorem isSome_lookup_iff {name : String} {entries : List (String × α)} :
    (entries.lookup name).isSome ↔ name ∈ names entries := by
  rw [List.lookup_isSome_iff, names, List.mem_map]
  refine exists_congr fun entry => and_congr_right fun _ => ?_
  rw [beq_iff_eq, eq_comm]

/-- Setting a name changes what is found under it and nothing else. -/
theorem lookup_set (name other : String) (value : α) (entries : List (String × α)) :
    (set name value entries).lookup other =
      if other = name then some value else entries.lookup other := by
  induction entries with
  | nil => exact lookup_cons name other value []
  | cons entry rest ih =>
    obtain ⟨present, thing⟩ := entry
    rw [set, lookup_cons]
    split
    · rename_i h
      have h : present = name := h
      rw [lookup_cons, h]
      split <;> rfl
    · rename_i h
      have h : ¬ present = name := h
      rw [lookup_cons, ih]
      by_cases hp : other = present
      · simp [hp, h]
      · simp [hp]

/-- Removing keeps the names distinct. -/
theorem nodup_erase (name : String) {entries : List (String × α)}
    (nodup : (names entries).Nodup) : (names (erase name entries)).Nodup :=
  nodup.sublist (List.filter_sublist.map _)

end Named

end TableQuery
