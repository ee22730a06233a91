import OrderPipeline.Keyed
import Mathlib.Data.String.Basic

/-!
# Keys in order

A list that values are put into in their places stays in the order of its keys (`Ordered.insert`),
so that each key is there once and its value is found under it (`Ordered.lookup_eq_some_iff`). Such
a list is determined by what is found in it (`Ordered.ext`).
-/

namespace OrderPipeline

namespace Keyed

variable {α : Type} {entries : List (String × α)}

/-- Whether the keys of a list are in order, so that each of them is there once. -/
def Ordered (entries : List (String × α)) : Prop :=
  entries.Pairwise fun entry other => entry.1 < other.1

/-- A value that is put in its place leaves the keys in order. -/
theorem Ordered.insert (ordered : Ordered entries) (key : String) (value : α) :
    Ordered (insert key value entries) := by
  induction entries with
  | nil => exact List.pairwise_singleton _ _
  | cons entry rest ih =>
    obtain ⟨other, old⟩ := entry
    obtain ⟨above, tail⟩ := List.pairwise_cons.1 ordered
    unfold Keyed.insert
    by_cases same : key = other
    · rw [if_pos same]
      exact List.pairwise_cons.2 ⟨fun entry member => same ▸ above entry member, tail⟩
    · rw [if_neg same]
      by_cases before : key < other
      · rw [if_pos before]
        refine List.pairwise_cons.2 ⟨fun entry member => ?_, ordered⟩
        rcases List.mem_cons.1 member with rfl | later
        · exact before
        · exact lt_trans before (above entry later)
      · rw [if_neg before]
        have after : other < key := lt_of_le_of_ne (not_lt.1 before) (Ne.symm same)
        refine List.pairwise_cons.2 ⟨fun entry member => ?_, ih tail⟩
        rcases mem_insert member with rfl | later
        · exact after
        · exact above entry later

/-- A change of a value leaves all keys where they are. -/
theorem keys_modify (key : String) (change : α → α) (entries : List (String × α)) :
    (modify key change entries).map (·.1) = entries.map (·.1) := by
  induction entries with
  | nil => rfl
  | cons entry rest ih =>
    unfold modify
    split
    · rfl
    · rw [List.map_cons, List.map_cons, ih]

/-- So it leaves the keys in order. -/
theorem Ordered.modify (ordered : Ordered entries) (key : String) (change : α → α) :
    Ordered (modify key change entries) := by
  have keys := (List.pairwise_map ).2 ordered
  rw [← keys_modify key change] at keys
  exact List.pairwise_map.1 keys

/-- In a list in order, a value is found under its key. -/
theorem Ordered.lookup_eq_some_iff (ordered : Ordered entries) {key : String} {value : α} :
    entries.lookup key = some value ↔ (key, value) ∈ entries := by
  induction entries with
  | nil => simp
  | cons entry rest ih =>
    obtain ⟨other, old⟩ := entry
    obtain ⟨above, tail⟩ := List.pairwise_cons.1 ordered
    rw [lookup_entry, List.mem_cons, Prod.mk.injEq]
    by_cases same : key = other
    · have absent : (key, value) ∉ rest := fun member =>
        absurd (above _ member) (by simp [same])
      rw [if_pos same, Option.some.injEq]
      constructor
      · exact fun found => .inl ⟨same, found.symm⟩
      · rintro (⟨-, found⟩ | member)
        · exact found.symm
        · exact absurd member absent
    · rw [if_neg same, ih tail]
      constructor
      · exact .inr
      · rintro (⟨found, -⟩ | member)
        · exact absurd found same
        · exact member

/-- In a list in order, no key is there twice. -/
theorem Ordered.nodup (ordered : Ordered entries) : (entries.map (·.1)).Nodup := by
  rw [List.Nodup, List.pairwise_map]
  exact ordered.imp fun before => ne_of_lt before

/-- Two lists in order are the same if the same is found in them. -/
theorem Ordered.ext {left right : List (String × α)} (orderedLeft : Ordered left)
    (orderedRight : Ordered right) (same : ∀ key, left.lookup key = right.lookup key) :
    left = right := by
  have distinct : ∀ entries : List (String × α), Ordered entries → entries.Nodup :=
    fun _ ordered => ordered.imp fun before => ne_of_apply_ne Prod.fst (ne_of_lt before)
  have members : left.Perm right := by
    rw [List.perm_ext_iff_of_nodup (distinct left orderedLeft) (distinct right orderedRight)]
    rintro ⟨key, value⟩
    rw [← orderedLeft.lookup_eq_some_iff, ← orderedRight.lookup_eq_some_iff, same]
  refine members.eq_of_pairwise (fun entry other _ _ before after => ?_) orderedLeft orderedRight
  exact absurd (lt_trans before after) (lt_irrefl _)

end Keyed

end OrderPipeline
