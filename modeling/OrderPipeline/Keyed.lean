/-!
# Values kept under keys

A list of keys and values in the order of the keys, with at most one value for each key.
`Keyed.insert` puts a value in its place, and `lookup_insert` says what is found afterwards:
the new value under its key, and under every other key what was there before.
-/

namespace OrderPipeline.Keyed

variable {α : Type}

/-- Puts a value under a key in its place; it replaces an earlier one under the same key. -/
def insert (key : String) (value : α) : List (String × α) → List (String × α)
  | [] => [(key, value)]
  | (other, old) :: rest =>
    if key = other then (key, value) :: rest
    else if key < other then (key, value) :: (other, old) :: rest
    else (other, old) :: insert key value rest

/-- Changes the value under a key, if there is one. -/
def modify (key : String) (change : α → α) : List (String × α) → List (String × α)
  | [] => []
  | (other, old) :: rest =>
    if key = other then (other, change old) :: rest else (other, old) :: modify key change rest

/-- What the first entry of a list decides about a key. -/
theorem lookup_entry (wanted key : String) (value : α) (rest : List (String × α)) :
    ((key, value) :: rest).lookup wanted =
      if wanted = key then some value else rest.lookup wanted := by
  rw [List.lookup_cons]
  by_cases same : wanted = key
  · simp [same]
  · simp [same, beq_eq_false_iff_ne.2 same]

@[simp] theorem lookup_insert (key wanted : String) (value : α) (entries : List (String × α)) :
    (insert key value entries).lookup wanted =
      if wanted = key then some value else entries.lookup wanted := by
  induction entries with
  | nil => exact lookup_entry wanted key value []
  | cons entry rest ih =>
    obtain ⟨other, old⟩ := entry
    unfold insert
    split
    · next equal =>
      subst equal
      simp only [lookup_entry]
      split <;> rfl
    · split
      · exact lookup_entry wanted key value _
      · next different _ =>
        simp only [lookup_entry, ih]
        by_cases found : wanted = other
        · simp [found, Ne.symm different]
        · simp [found]

/-- Changing the value under one key leaves the values under the others as they are. -/
@[simp] theorem lookup_modify (key wanted : String) (change : α → α)
    (entries : List (String × α)) :
    (modify key change entries).lookup wanted =
      if wanted = key then (entries.lookup wanted).map change else entries.lookup wanted := by
  induction entries with
  | nil => simp [modify]
  | cons entry rest ih =>
    obtain ⟨other, old⟩ := entry
    unfold modify
    split
    · next equal =>
      subst equal
      simp only [lookup_entry]
      split <;> simp_all
    · next different =>
      simp only [lookup_entry, ih]
      by_cases found : wanted = other
      · simp [found, Ne.symm different]
      · simp [found]

/-- What a keyed list has after a value was put into it is that value or was there before. -/
theorem mem_insert {key : String} {value : α} {entries : List (String × α)}
    {entry : String × α} (member : entry ∈ insert key value entries) :
    entry = (key, value) ∨ entry ∈ entries := by
  induction entries with
  | nil => simpa [insert] using member
  | cons first rest ih =>
    obtain ⟨other, old⟩ := first
    unfold insert at member
    split at member
    · exact (List.mem_cons.1 member).imp_right (List.mem_cons_of_mem _)
    · split at member
      · exact List.mem_cons.1 member
      · rcases List.mem_cons.1 member with rfl | later
        · exact .inr List.mem_cons_self
        · exact (ih later).imp_right (List.mem_cons_of_mem _)

end OrderPipeline.Keyed
