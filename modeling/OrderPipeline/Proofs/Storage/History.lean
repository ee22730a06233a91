import OrderPipeline.Storage.Store
import OrderPipeline.Proofs.Tracker.Saved

/-!
# Histories of stores on one place

A history says what was asked of a place and of the stores that were opened on it, and what was
answered, newest first. It alone tells what each store should hold, by replaying the store's own
actions from its opening (`History.replayed`), and what should be stored under each key, by the
last save that did not fail (`History.lastSaved`).
-/

namespace OrderPipeline

/-- What was asked of a place and its stores, and what was answered. -/
inductive Record where
  /-- A store was opened under a key. -/
  | opened (key : String) (loaded : Except StorageError (Option String))
  /-- The store of an owner, under its key, applied an action and was saved, or not. -/
  | dispatched (owner : Nat) (key : String) (action : Action) (now : Instant) (outcome : Outcome)
    (saved : Except StorageError Unit)
  /-- The store of an owner, under its key, was saved, or not. -/
  | persisted (owner : Nat) (key : String) (saved : Except StorageError Unit)

namespace Record

/-- The store that acted, unless it was only being opened. -/
def owner? : Record → Option Nat
  | opened .. => none
  | dispatched owner .. | persisted owner .. => some owner

/-- The key under which the place was asked. -/
def key : Record → String
  | opened key _ | dispatched _ key .. | persisted _ key _ => key

/-- Whether something was saved. -/
def isSaved : Record → Bool
  | opened .. => false
  | dispatched _ _ _ _ _ saved | persisted _ _ saved => saved.isOk

/-- Whether something was saved under a key. -/
def isSavedUnder (record : Record) (key : String) : Bool := record.isSaved && record.key == key

/-- The action that a store applied, and when, if it applied one. -/
def stepBy? (owner : Nat) : Record → Option (Action × Instant)
  | dispatched other _ action now _ _ => if other = owner then some (action, now) else none
  | opened .. | persisted .. => none

/-- What was returned to the owner of a store for an action, if one was applied. -/
def outcomeFor? (owner : Nat) : Record → Option Outcome
  | dispatched other _ _ _ outcome _ => if other = owner then some outcome else none
  | opened .. | persisted .. => none

end Record

/-- The tracker that a store begins with: what was loaded, where that is a tracker. -/
def openingOf : Except StorageError (Option String) → Tracker
  | .ok (some text) => (Tracker.ofText text).toOption.getD {}
  | .ok none | .error _ => {}

/-- A store begins with what was loaded, where that is a tracker. -/
theorem SavedState.restored_ofLoaded (loaded : Except StorageError (Option String)) :
    (ofLoaded loaded).restored = openingOf loaded := by
  rcases loaded with error | stored
  · rfl
  · cases stored with
    | none => rfl
    | some text =>
      rw [ofLoaded, openingOf]
      cases Tracker.ofText text <;> rfl

/-- A store that is opened holds what was loaded. -/
theorem Store.restore_eq {σ : Type} [Backing σ] (backing : σ) (key : String) :
    Store.restore backing key =
      (⟨key, openingOf (Backing.load backing key).1⟩, (Backing.load backing key).2) := by
  rw [← SavedState.restored_ofLoaded]
  rfl

/-- What was recorded, newest first. -/
abbrev History := List Record

namespace History

/-- The stores as they were opened, oldest first. -/
def openings : History → List Store
  | [] => []
  | .opened key loaded :: earlier => openings earlier ++ [⟨key, openingOf loaded⟩]
  | _ :: earlier => openings earlier

/-- The actions of a store with their times, oldest first. -/
def stepsBy (owner : Nat) (history : History) : List (Action × Instant) :=
  (history.filterMap (Record.stepBy? owner)).reverse

/-- What was returned to the owner of a store for its actions, oldest first. -/
def outcomesFor (owner : Nat) (history : History) : List Outcome :=
  (history.filterMap (Record.outcomeFor? owner)).reverse

/-- What a store holds and has returned when nothing but its own actions matters. -/
def replayed (owner : Nat) (history : History) : Option (Store × List Outcome) :=
  history.openings[owner]?.map fun opening =>
    let (tracker, outcomes) := opening.tracker.run (history.stepsBy owner)
    (⟨opening.key, tracker⟩, outcomes)

/-- The tracker that the last store to save under a key had when it did. -/
def lastSaved (key : String) : History → Option Tracker
  | [] => none
  | record :: earlier =>
    if record.isSavedUnder key then do
      let owner ← record.owner?
      let (store, _) ← replayed owner (record :: earlier)
      return store.tracker
    else lastSaved key earlier

/-- Whether every store had been opened under its key before it acted. -/
def Owned : History → Prop
  | [] => True
  | record :: earlier =>
    (∀ owner, record.owner? = some owner →
      ∃ opening, (openings earlier)[owner]? = some opening ∧ opening.key = record.key) ∧
    Owned earlier

theorem stepsBy_cons (owner : Nat) (record : Record) (earlier : History) :
    stepsBy owner (record :: earlier) = stepsBy owner earlier ++ (record.stepBy? owner).toList := by
  rw [stepsBy, stepsBy, List.filterMap_cons]
  cases record.stepBy? owner with
  | none => exact (List.append_nil _).symm
  | some step => exact List.reverse_cons

theorem outcomesFor_cons (owner : Nat) (record : Record) (earlier : History) :
    outcomesFor owner (record :: earlier) =
      outcomesFor owner earlier ++ (record.outcomeFor? owner).toList := by
  rw [outcomesFor, outcomesFor, List.filterMap_cons]
  cases record.outcomeFor? owner with
  | none => exact (List.append_nil _).symm
  | some outcome => exact List.reverse_cons

/-- A store does nothing in a record of another one. -/
theorem idle_of_owner_ne {owner : Nat} {record : Record} (other : record.owner? ≠ some owner) :
    record.stepBy? owner = none ∧ record.outcomeFor? owner = none := by
  cases record with
  | opened => exact ⟨rfl, rfl⟩
  | persisted => exact ⟨rfl, rfl⟩
  | dispatched actor =>
    have different : actor ≠ owner := fun same => other (congrArg some same)
    exact ⟨if_neg different, if_neg different⟩

/-- Stores that were opened stay opened. -/
theorem isPrefix_openings (record : Record) (earlier : History) :
    openings earlier <+: openings (record :: earlier) := by
  cases record with
  | opened => exact List.prefix_append _ _
  | dispatched => exact List.prefix_rfl
  | persisted => exact List.prefix_rfl

/-- A store is known by its number from its opening on. -/
theorem openings_cons (record : Record) {earlier : History} {owner : Nat} {opening : Store}
    (opened : (openings earlier)[owner]? = some opening) :
    (openings (record :: earlier))[owner]? = some opening := by
  obtain ⟨others, same⟩ := isPrefix_openings record earlier
  rw [← same, List.getElem?_append_left (List.getElem?_eq_some_iff.1 opened).1, opened]

/-- What a store should hold is told by how it was opened and what it did. -/
theorem replayed_eq_some_iff {owner : Nat} {history : History} {store : Store}
    {outcomes : List Outcome} :
    replayed owner history = some (store, outcomes) ↔
      ∃ opening, history.openings[owner]? = some opening ∧ opening.key = store.key ∧
        opening.tracker.run (history.stepsBy owner) = (store.tracker, outcomes) := by
  rw [replayed, Option.map_eq_some_iff]
  constructor
  · rintro ⟨opening, found, same⟩
    cases same
    exact ⟨opening, found, rfl, rfl⟩
  · rintro ⟨opening, found, key, same⟩
    refine ⟨opening, found, ?_⟩
    rw [same, key]

/-- What a store should hold stays as it is when the store does nothing. -/
theorem replayed_cons_of_idle {owner : Nat} {record : Record} {history : History} {store : Store}
    (idle : record.stepBy? owner = none ∧ record.outcomeFor? owner = none)
    (follows : replayed owner history = some (store, outcomesFor owner history)) :
    replayed owner (record :: history) = some (store, outcomesFor owner (record :: history)) := by
  obtain ⟨opening, opened, own, run⟩ := replayed_eq_some_iff.1 follows
  refine replayed_eq_some_iff.2 ⟨opening, openings_cons record opened, own, ?_⟩
  rw [stepsBy_cons, outcomesFor_cons, idle.1, idle.2, Option.toList_none, Option.toList_none,
    List.append_nil, List.append_nil, run]

/-- What a store should hold takes the step that the store takes. -/
theorem replayed_cons_of_step {owner : Nat} {record : Record} {history : History} {store : Store}
    {action : Action} {now : Instant} {tracker : Tracker} {outcome : Outcome}
    (step : record.stepBy? owner = some (action, now))
    (returned : record.outcomeFor? owner = some outcome)
    (applied : store.tracker.apply action now = (tracker, outcome))
    (follows : replayed owner history = some (store, outcomesFor owner history)) :
    replayed owner (record :: history) =
      some (⟨store.key, tracker⟩, outcomesFor owner (record :: history)) := by
  obtain ⟨opening, opened, own, run⟩ := replayed_eq_some_iff.1 follows
  refine replayed_eq_some_iff.2 ⟨opening, openings_cons record opened, own, ?_⟩
  rw [stepsBy_cons, outcomesFor_cons, step, returned, Tracker.run_append, run]
  simp [Tracker.run, applied]

/-- What a store should hold does not depend on what others did since. -/
theorem replayed_append {owner : Nat} {later history : History} {opening : Store}
    (idle : ∀ record ∈ later, record.stepBy? owner = none)
    (opened : history.openings[owner]? = some opening) :
    replayed owner (later ++ history) = replayed owner history := by
  -- later openings come after this one, and later steps are those of others
  have still : (openings (later ++ history))[owner]? = some opening := by
    induction later with
    | nil => exact opened
    | cons record later ih =>
      have before := ih fun other member => idle other (List.mem_cons_of_mem record member)
      exact openings_cons record before
  have steps : stepsBy owner (later ++ history) = stepsBy owner history := by
    rw [stepsBy, stepsBy, List.filterMap_append, List.filterMap_eq_nil_iff.2 idle, List.nil_append]
  rw [replayed, replayed, still, opened, steps]

/-- Where nothing was saved later, the last save is as before. -/
theorem lastSaved_append {key : String} {later : History}
    (unsaved : ∀ record ∈ later, record.isSavedUnder key = false) (history : History) :
    lastSaved key (later ++ history) = lastSaved key history := by
  induction later with
  | nil => rfl
  | cons record later ih =>
    have never : ¬record.isSavedUnder key = true := by
      rw [unsaved record List.mem_cons_self]
      exact Bool.false_ne_true
    rw [List.cons_append, lastSaved, if_neg never,
      ih fun other member => unsaved other (List.mem_cons_of_mem record member)]

/-- Earlier records are of stores that had been opened, too. -/
theorem Owned.of_append {later history : History} (owned : Owned (later ++ history)) :
    Owned history := by
  induction later with
  | nil => exact owned
  | cons record later ih => exact ih owned.2

/-- A store that has not been opened did nothing. -/
theorem Owned.nothing {history : History} (owned : history.Owned) {owner : Nat}
    (unopened : history.openings.length ≤ owner) :
    history.stepsBy owner = [] ∧ history.outcomesFor owner = [] := by
  -- whoever acted had been opened by then, and so has a number below that of the openings
  induction history with
  | nil => exact ⟨rfl, rfl⟩
  | cons record earlier ih =>
    have still : (openings earlier).length ≤ owner :=
      Nat.le_trans (isPrefix_openings record earlier).length_le unopened
    have other : record.owner? ≠ some owner := by
      intro acts
      obtain ⟨opening, found, -⟩ := owned.1 owner acts
      rw [List.getElem?_eq_none still] at found
      cases found
    obtain ⟨steps, outcomes⟩ := ih owned.2 still
    rw [stepsBy_cons, outcomesFor_cons, steps, outcomes, (idle_of_owner_ne other).1,
      (idle_of_owner_ne other).2]
    exact ⟨rfl, rfl⟩

end History

end OrderPipeline
