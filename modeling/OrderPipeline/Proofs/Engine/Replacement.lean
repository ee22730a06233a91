import OrderPipeline.Engine
import Mathlib.Data.List.Basic

/-!
# Replacing one order

An action that is about an order changes the first one with its identifier and no other.
`ReplacesFirst` says so about two lists of orders, and `replacesFirst_updateItem` that
`Tracker.updateItem` does just that. `apply_logStage` and `apply_advance` say what recording data
does to an order that is not completed.
-/

namespace OrderPipeline

/-- Completed is the one stage at which an order is finished. -/
theorem Stage.isTerminal_iff {stage : Stage} : stage.isTerminal = true ↔ stage = .completed := by
  rw [Stage.isTerminal, beq_iff_eq]

/-- In a list whose first element to pass a test is known, that element alone is replaced. -/
theorem modifyFirst_append_cons {α : Type} {test : α → Bool} {earlier : List α} {x : α}
    (failed : ∀ y ∈ earlier, test y = false) (passed : test x = true) (image : α → α)
    (later : List α) :
    modifyFirst test image (earlier ++ x :: later) = earlier ++ image x :: later := by
  -- the test is asked along `earlier`, fails there each time, and is not asked again after `x`
  induction earlier with
  | nil => rw [List.nil_append, List.nil_append, modifyFirst, if_pos passed]
  | cons y earlier ih =>
    have fails : ¬test y = true := by simp [failed y List.mem_cons_self]
    have rest := ih fun z member => failed z (List.mem_cons_of_mem y member)
    rw [List.cons_append, List.cons_append, modifyFirst, if_neg fails, rest]

/-- Two lists of orders that agree but for the first order with an identifier, which is `old` in
the one and `new` in the other. -/
def ReplacesFirst (id : ItemId) (old new : Item) (before after : List Item) : Prop :=
  ∃ earlier later, before = earlier ++ old :: later ∧ after = earlier ++ new :: later ∧
    old.id = id ∧ ∀ other ∈ earlier, other.id ≠ id

namespace Tracker

variable {tracker : Tracker} {id : ItemId} {item : Item}

/-- The order that is found for an identifier has it. -/
theorem id_of_findItem? (found : tracker.findItem? id = some item) : item.id = id := by
  simpa using List.find?_some found

/-- Updating an order replaces the first one with its identifier and no other. -/
theorem replacesFirst_updateItem (found : tracker.findItem? id = some item)
    (image : Item → Item) :
    ReplacesFirst id item (image item) tracker.items (tracker.updateItem id image).items := by
  -- the list is split where the look-up stops, since the update stops there as well
  obtain ⟨passed, earlier, later, split, failed⟩ := List.find?_eq_some_iff_append.1 found
  have others : ∀ other ∈ earlier, (other.id == id) = false := by
    intro other member
    simpa using failed other member
  refine ⟨earlier, later, split, ?_, id_of_findItem? found, ?_⟩
  · rw [updateItem, split, modifyFirst_append_cons others passed]
  · intro other member
    simpa using others other member

/-- Data can be recorded for exactly the orders that are found and not completed. -/
theorem openItem_eq_ok_iff :
    tracker.openItem id = .ok item ↔
      tracker.findItem? id = some item ∧ item.stage ≠ .completed := by
  rw [openItem]
  cases tracker.findItem? id with
  | none => simp
  | some found =>
    by_cases finished : found.stage = .completed
    · have refused : found.isCompleted = true := Stage.isTerminal_iff.2 finished
      simp only [if_pos refused, reduceCtorEq, Option.some.injEq, false_iff, not_and, ne_eq,
        not_not]
      rintro rfl
      exact finished
    · have accepted : ¬found.isCompleted = true := fun h => finished (Stage.isTerminal_iff.1 h)
      simp only [if_neg accepted, Except.ok.injEq, Option.some.injEq, iff_self_and]
      rintro rfl
      exact finished

/-- Recording data for an order that is not completed keeps it at its stage. -/
theorem apply_logStage (found : tracker.findItem? id = some item)
    (unfinished : item.stage ≠ .completed) (stage : Stage) (data : Attributes) (now : Instant) :
    tracker.apply (.logStage id stage data) now =
      (tracker.updateItem id fun _ => item.recordData stage data now, .annotated id stage) := by
  rw [apply, openItem_eq_ok_iff.2 ⟨found, unfinished⟩]

/-- Recording data for an order at the working stage where it stands moves it to the next one. -/
theorem apply_advance (found : tracker.findItem? id = some item)
    (unfinished : item.stage ≠ .completed) (data : Attributes) (now : Instant) :
    tracker.apply (.advance id item.stage data) now =
      (tracker.updateItem id fun _ =>
          { item.recordData item.stage data now with stage := item.stage.next },
        .advanced id item.stage item.stage.next) := by
  have working : ¬item.stage.isTerminal = true := mt Stage.isTerminal_iff.1 unfinished
  -- the engine moves orders to later stages only, and every stage but the last has one
  have forward : item.stage < item.stage.next := by
    show item.stage.rank < item.stage.next.rank
    rw [Stage.rank_next unfinished]
    exact Nat.lt_succ_self _
  simp only [apply, openItem_eq_ok_iff.2 ⟨found, unfinished⟩, if_neg working, if_pos forward]

end Tracker

end OrderPipeline
