import OrderPipeline.Proofs.Engine.Replacement
import Mathlib.Data.List.Perm.Basic

/-!
# Independent actions

Two actions are independent when they are about different orders, not both add an order, not both
record an activity, and neither puts another tracker in place. Such actions can be exchanged.

An `Effect` says what an action does whatever the tracker holds: it adds an order, edits the first
order with an identifier, or puts an entry into the feed. `apply_eq_carryOut` says that applying an
action is carrying out its effect, and the cases of the exchange are those of two effects.

* `Tracker.carryOut_exchange` — effects that are apart can be exchanged in every tracker.
* `Tracker.independent_actions_commute` — so can independent actions, each with its outcome.
* `Tracker.run_perm` — so the order of any number of them does not matter.
-/

namespace OrderPipeline

/-! ## Lists with one element replaced -/

section ModifyFirst

variable {α : Type} {test other : α → Bool} {image change : α → α}

/-- What becomes of the first element to pass the test is all that matters of the image. -/
theorem modifyFirst_congr {xs : List α}
    (same : ∀ x, xs.find? test = some x → image x = change x) :
    modifyFirst test image xs = modifyFirst test change xs := by
  cases found : xs.find? test with
  | none => rw [modifyFirst_eq_self test image xs found, modifyFirst_eq_self test change xs found]
  | some x =>
    have here := same x found
    obtain ⟨passes, earlier, later, rfl, fails⟩ := List.find?_eq_some_iff_append.1 found
    have failed : ∀ y ∈ earlier, test y = false := fun y member => by simpa using fails y member
    rw [modifyFirst_append_cons failed passes, modifyFirst_append_cons failed passes, here]

/-- A list stays as it is when its first element to pass the test does. -/
theorem modifyFirst_of_fixed {xs : List α} (fixed : ∀ x, xs.find? test = some x → image x = x) :
    modifyFirst test image xs = xs := by
  rw [modifyFirst_congr fixed]
  clear fixed
  induction xs with
  | nil => rfl
  | cons x rest ih =>
    rw [modifyFirst, ih]
    split <;> rfl

/-- An element that fails the test can be added at the end before or after. -/
theorem modifyFirst_concat (test : α → Bool) (image : α → α) (xs : List α) {x : α}
    (fails : test x = false) :
    modifyFirst test image (xs ++ [x]) = modifyFirst test image xs ++ [x] := by
  induction xs with
  | nil => simp [modifyFirst, fails]
  | cons y rest ih =>
    rw [List.cons_append, modifyFirst, modifyFirst, ih]
    by_cases passes : test y = true
    · rw [if_pos passes, if_pos passes, List.cons_append]
    · rw [if_neg passes, if_neg passes, List.cons_append]

/-- Replacing an element does not show in a look-up that passes over it before and after. -/
theorem find?_modifyFirst (before : ∀ x, test x = true → other x = false)
    (after : ∀ x, test x = true → other (image x) = false) (xs : List α) :
    (modifyFirst test image xs).find? other = xs.find? other := by
  induction xs with
  | nil => rfl
  | cons x rest ih =>
    rw [modifyFirst]
    by_cases passes : test x = true
    · rw [if_pos passes, List.find?_cons, List.find?_cons, before x passes, after x passes]
    · rw [if_neg passes, List.find?_cons, List.find?_cons, ih]

/-- Two elements that are told apart by their tests, before and after, can be replaced in either
order. -/
theorem modifyFirst_comm (apart : ∀ x, test x = true → other x = false)
    (kept : ∀ x, test x = true → other (image x) = false)
    (kept' : ∀ x, other x = true → test (change x) = false) (xs : List α) :
    modifyFirst other change (modifyFirst test image xs) =
      modifyFirst test image (modifyFirst other change xs) := by
  induction xs with
  | nil => rfl
  | cons x rest ih =>
    by_cases passes : test x = true
    · have fails : ¬other x = true := by simp [apart x passes]
      have still : ¬other (image x) = true := by simp [kept x passes]
      simp only [modifyFirst, if_pos passes, if_neg fails, if_neg still]
    · by_cases changed : other x = true
      · have still : ¬test (change x) = true := by simp [kept' x changed]
        simp only [modifyFirst, if_neg passes, if_pos changed, if_neg still]
      · simp only [modifyFirst, if_neg passes, if_neg changed, ih]

end ModifyFirst

/-! ## Effects -/

/-- What is done to the first order with an identifier, and what is answered when such an order is
found or not. An order stays the one with the identifier. -/
structure Edit where
  /-- The identifier. -/
  id : ItemId
  /-- What comes in the place of the order. -/
  image : Item → Item
  /-- What is answered. -/
  answer : Option Item → Outcome
  /-- The identifier stays. -/
  keeps (item : Item) (own : item.id = id) : (image item).id = id

namespace Edit

variable {change : Edit} {item : Item} {other : ItemId}

/-- An order that is edited is not the one with another identifier. -/
theorem fails (change : Edit) (own : (item.id == change.id) = true)
    (different : change.id ≠ other) : (item.id == other) = false := by
  rw [beq_iff_eq] at own
  rw [own, beq_eq_false_iff_ne]
  exact different

/-- Neither is what comes in its place. -/
theorem fails_image (change : Edit) (own : (item.id == change.id) = true)
    (different : change.id ≠ other) : ((change.image item).id == other) = false := by
  have still : (change.image item).id = change.id := change.keeps item (beq_iff_eq.1 own)
  rw [still, beq_eq_false_iff_ne]
  exact different

end Edit

/-- What an action does, whatever the tracker holds. -/
inductive Effect where
  /-- An order is added after all others. -/
  | append (item : Item)
  /-- The first order with an identifier is edited. -/
  | edit (change : Edit)
  /-- An entry is put into the feed. -/
  | note (entry : ActivityEntry)

namespace Action

/-- The order after an action that records data for it and may move it on; a completed order stays
as it is, and so does every order when the stage is completed. -/
def advanced (stage : Stage) (data : Attributes) (now : Instant) (item : Item) : Item :=
  if item.isCompleted || stage.isTerminal then item
  else if item.stage < stage.next then
    { item.recordData stage data now with stage := stage.next }
  else item.recordData stage data now

/-- What is answered to an action that records data for an order and may move it on. -/
def advanceAnswer (id : ItemId) (stage : Stage) : Option Item → Outcome
  | none => .unchanged (.itemNotFound id)
  | some item =>
    if item.isCompleted || stage.isTerminal then .unchanged (.terminalStage id)
    else if item.stage < stage.next then .advanced id stage stage.next
    else .annotated id stage

/-- The order after an action that records data for it; a completed order stays as it is. -/
def logged (stage : Stage) (data : Attributes) (now : Instant) (item : Item) : Item :=
  if item.isCompleted then item else item.recordData stage data now

/-- What is answered to an action that records data for an order. -/
def logAnswer (id : ItemId) (stage : Stage) : Option Item → Outcome
  | none => .unchanged (.itemNotFound id)
  | some item => if item.isCompleted then .unchanged (.terminalStage id) else .annotated id stage

/-- What is answered to an action that replaces an order. -/
def replaceAnswer (id : ItemId) : Option Item → Outcome
  | none => .unchanged (.itemNotFound id)
  | some _ => .itemReplaced id

/-- The effect of an action at a time, unless it puts another tracker in place. -/
def effect? (now : Instant) : Action → Option Effect
  | addItem item => some (.append item)
  | updateItem item =>
    some (.edit ⟨item.id, fun _ => item, replaceAnswer item.id, fun _ _ => rfl⟩)
  | advance id stage data =>
    some (.edit ⟨id, advanced stage data now, advanceAnswer id stage, by
      intro item own
      unfold advanced
      split
      · exact own
      · split <;> exact own⟩)
  | logStage id stage data =>
    some (.edit ⟨id, logged stage data now, logAnswer id stage, by
      intro item own
      unfold logged
      split <;> exact own⟩)
  | addActivity customerName action stage => some (.note ⟨customerName, action, stage, now⟩)
  | load _ => none

end Action

namespace Tracker

variable {tracker : Tracker} {id : ItemId} {item : Item}

/-- The tracker after an effect, and what is answered. -/
def carryOut (tracker : Tracker) : Effect → Tracker × Outcome
  | .append item => ({ tracker with items := tracker.items ++ [item] }, .itemAdded item.id)
  | .edit change =>
    (tracker.updateItem change.id change.image, change.answer (tracker.findItem? change.id))
  | .note entry =>
    ({ tracker with feed := tracker.feed.record entry }, .activityRecorded tracker.feed.evictedBy)

/-- An update puts in the place of the order that is found what becomes of it. -/
theorem updateItem_of_found (found : tracker.findItem? id = some item) (image : Item → Item) :
    tracker.updateItem id image = tracker.updateItem id fun _ => image item := by
  have same : ∀ other, tracker.findItem? id = some other → image other = image item := by
    intro other found'
    rw [Option.some.inj (found'.symm.trans found)]
  rw [updateItem, updateItem, modifyFirst_congr same]

/-- An update changes nothing when the order that is found, if one is, stays as it is. -/
theorem updateItem_of_fixed {image : Item → Item}
    (fixed : ∀ item, tracker.findItem? id = some item → image item = item) :
    tracker.updateItem id image = tracker := by
  rw [updateItem, modifyFirst_of_fixed fixed]

/-- Orders with another identifier are found as before. -/
theorem findItem?_edit (change : Edit) {other : ItemId} (different : change.id ≠ other) :
    (tracker.updateItem change.id change.image).findItem? other = tracker.findItem? other := by
  have before : ∀ item : Item, (item.id == change.id) = true → (item.id == other) = false :=
    fun _ own => change.fails own different
  have after : ∀ item : Item, (item.id == change.id) = true →
      ((change.image item).id == other) = false :=
    fun _ own => change.fails_image own different
  exact find?_modifyFirst before after tracker.items

/-- Applying an action is carrying out its effect. -/
theorem apply_eq_carryOut {action : Action} {now : Instant} {effect : Effect}
    (known : action.effect? now = some effect) (tracker : Tracker) :
    tracker.apply action now = tracker.carryOut effect := by
  cases action with
  | load => cases known
  | addItem item => cases known; rfl
  | addActivity customerName action stage => cases known; rfl
  | updateItem item =>
    cases known
    rw [apply, carryOut]
    cases found : tracker.findItem? item.id with
    | none => rw [updateItem_of_fixed (by simp [found])]; rfl
    | some _ => rfl
  | logStage id stage data =>
    cases known
    rw [apply, openItem, carryOut]
    cases found : tracker.findItem? id with
    | none => rw [updateItem_of_fixed (by simp [found])]; rfl
    | some item =>
      by_cases finished : item.isCompleted = true
      · rw [updateItem_of_fixed (by simp [found, Action.logged, finished])]
        simp only [Action.logAnswer, if_pos finished]
      · rw [updateItem_of_found found (Action.logged stage data now)]
        simp only [Action.logged, Action.logAnswer, if_neg finished]
  | advance id stage data =>
    cases known
    rw [apply, openItem, carryOut]
    cases found : tracker.findItem? id with
    | none => rw [updateItem_of_fixed (by simp [found])]; rfl
    | some item =>
      by_cases finished : item.isCompleted = true
      · rw [updateItem_of_fixed (by simp [found, Action.advanced, finished])]
        simp [Action.advanceAnswer, finished]
      by_cases terminal : stage.isTerminal = true
      · rw [updateItem_of_fixed (by simp [found, Action.advanced, terminal])]
        simp [Action.advanceAnswer, finished, terminal]
      rw [updateItem_of_found found (Action.advanced stage data now)]
      by_cases behind : item.stage < stage.next
      · simp [Action.advanced, Action.advanceAnswer, finished, terminal, behind]
      · simp [Action.advanced, Action.advanceAnswer, finished, terminal, behind]

end Tracker

/-! ## Exchange -/

/-- The parts of a tracker that an effect can touch. -/
inductive Part where
  /-- The end of the list of orders. -/
  | tail
  /-- The orders with an identifier. -/
  | orders (id : ItemId)
  /-- The feed. -/
  | feed

/-- The parts that an effect touches. -/
def Effect.parts : Effect → List Part
  | append item => [.tail, .orders item.id]
  | edit change => [.orders change.id]
  | note _ => [.feed]

namespace Tracker

/-- Whether two effects can be exchanged in a tracker. -/
structure Exchanges (tracker : Tracker) (first second : Effect) : Prop where
  /-- Both orders lead to the same tracker. -/
  result : ((tracker.carryOut first).1.carryOut second).1 =
    ((tracker.carryOut second).1.carryOut first).1
  /-- The first effect is answered in the same way before and after the second one. -/
  answer : (tracker.carryOut first).2 = ((tracker.carryOut second).1.carryOut first).2
  /-- The second effect is answered in the same way before and after the first one. -/
  answer' : (tracker.carryOut second).2 = ((tracker.carryOut first).1.carryOut second).2

/-- If one effect can be exchanged with another, the other can be exchanged with the one. -/
theorem Exchanges.symm {tracker : Tracker} {first second : Effect}
    (exchanges : tracker.Exchanges first second) : tracker.Exchanges second first where
  result := exchanges.result.symm
  answer := exchanges.answer'
  answer' := exchanges.answer

/-- Orders with different identifiers can be edited in either order. -/
theorem exchanges_edit_edit (tracker : Tracker) {change other : Edit}
    (different : change.id ≠ other.id) : tracker.Exchanges (.edit change) (.edit other) where
  result := by
    have apart : ∀ item : Item, (item.id == change.id) = true → (item.id == other.id) = false :=
      fun _ own => change.fails own different
    have kept : ∀ item : Item, (item.id == change.id) = true →
        ((change.image item).id == other.id) = false :=
      fun _ own => change.fails_image own different
    have kept' : ∀ item : Item, (item.id == other.id) = true →
        ((other.image item).id == change.id) = false :=
      fun _ own => other.fails_image own different.symm
    have swapped := modifyFirst_comm apart kept kept' tracker.items
    simp only [carryOut, updateItem, swapped]
  answer := by rw [carryOut, carryOut, carryOut, findItem?_edit other different.symm]
  answer' := by rw [carryOut, carryOut, carryOut, findItem?_edit change different]

/-- An order can be added before or after one with another identifier is edited. -/
theorem exchanges_append_edit (tracker : Tracker) {item : Item} {change : Edit}
    (different : item.id ≠ change.id) : tracker.Exchanges (.append item) (.edit change) where
  result := by
    have moved := modifyFirst_concat (fun item => item.id == change.id) change.image tracker.items
      (beq_eq_false_iff_ne.2 different)
    simp only [carryOut, updateItem, moved]
  answer := rfl
  answer' := by
    have fails : (item.id == change.id) = false := beq_eq_false_iff_ne.2 different
    simp [carryOut, findItem?, List.find?_append, fails]

/-- Effects that touch no part in common can be exchanged in every tracker. -/
theorem carryOut_exchange (tracker : Tracker) {first second : Effect}
    (apart : ∀ part ∈ first.parts, part ∉ second.parts) : tracker.Exchanges first second := by
  cases first with
  | append item =>
    cases second with
    | append other => exact absurd List.mem_cons_self (apart .tail List.mem_cons_self)
    | edit change =>
      refine tracker.exchanges_append_edit fun same => ?_
      exact apart (.orders item.id) (by simp [Effect.parts]) (by simp [Effect.parts, same])
    | note entry => exact ⟨rfl, rfl, rfl⟩
  | edit change =>
    cases second with
    | append item =>
      refine (tracker.exchanges_append_edit fun same => ?_).symm
      exact apart (.orders item.id) (by simp [Effect.parts, same]) (by simp [Effect.parts])
    | edit other =>
      refine tracker.exchanges_edit_edit fun same => ?_
      exact apart (.orders change.id) List.mem_cons_self (by simp [Effect.parts, same])
    | note entry => exact ⟨rfl, rfl, rfl⟩
  | note entry =>
    cases second with
    | append item => exact ⟨rfl, rfl, rfl⟩
    | edit change => exact ⟨rfl, rfl, rfl⟩
    | note other => exact absurd List.mem_cons_self (apart .feed List.mem_cons_self)

end Tracker

/-! ## Independent actions -/

namespace Action

/-- The kind of an action. -/
def kind : Action → Kind
  | addItem _ => .addItem
  | updateItem _ => .updateItem
  | advance .. => .advance
  | logStage .. => .logStage
  | addActivity .. => .addActivity
  | load _ => .load

/-- Whether two actions are independent of each other. -/
structure Independent (first second : Action) : Prop where
  /-- The first one does not put another tracker in place. -/
  kept : first.kind ≠ .load
  /-- Neither does the second one. -/
  kept' : second.kind ≠ .load
  /-- They do not both add an order. -/
  adding : ¬(first.kind = .addItem ∧ second.kind = .addItem)
  /-- They do not both record an activity. -/
  noting : ¬(first.kind = .addActivity ∧ second.kind = .addActivity)
  /-- They are not about the same order. -/
  apart (id : ItemId) : ¬(first.target? = some id ∧ second.target? = some id)

/-- Independence goes both ways. -/
theorem Independent.symm {first second : Action} (independent : first.Independent second) :
    second.Independent first where
  kept := independent.kept'
  kept' := independent.kept
  adding := fun both => independent.adding both.symm
  noting := fun both => independent.noting both.symm
  apart := fun id both => independent.apart id both.symm

variable {action : Action} {now : Instant} {effect : Effect}

/-- An action has an effect unless it puts another tracker in place. -/
theorem exists_effect? (kept : action.kind ≠ .load) (now : Instant) :
    ∃ effect, action.effect? now = some effect := by
  cases action with
  | load => exact absurd rfl kept
  | addItem | updateItem | advance | logStage | addActivity => exact ⟨_, rfl⟩

/-- Which parts an effect touches tells of what kind its action is and which order it is about. -/
theorem of_mem_parts (known : action.effect? now = some effect) {part : Part}
    (member : part ∈ effect.parts) :
    match part with
    | .tail => action.kind = .addItem
    | .orders id => action.target? = some id
    | .feed => action.kind = .addActivity := by
  cases action with
  | load => cases known
  | addItem item =>
    cases known
    rcases List.mem_pair.1 member with rfl | rfl <;> rfl
  | updateItem | advance | logStage | addActivity =>
    cases known
    cases List.mem_singleton.1 member
    rfl

/-- The effects of independent actions touch no part in common. -/
theorem Independent.parts {first second : Action} (independent : first.Independent second)
    {t u : Instant} {effect effect' : Effect} (known : first.effect? t = some effect)
    (known' : second.effect? u = some effect') : ∀ part ∈ effect.parts, part ∉ effect'.parts := by
  intro part member member'
  have here := of_mem_parts known member
  have there := of_mem_parts known' member'
  cases part with
  | tail => exact independent.adding ⟨here, there⟩
  | orders id => exact independent.apart id ⟨here, there⟩
  | feed => exact independent.noting ⟨here, there⟩

end Action

namespace Tracker

/-- Two independent actions lead to the same tracker in either order, and each has the same outcome
in both. -/
theorem exists_run_pair {first second : Action} (independent : first.Independent second)
    (tracker : Tracker) (t u : Instant) :
    ∃ final outcome outcome',
      tracker.run [(first, t), (second, u)] = (final, [outcome, outcome']) ∧
        tracker.run [(second, u), (first, t)] = (final, [outcome', outcome]) := by
  obtain ⟨effect, known⟩ := Action.exists_effect? independent.kept t
  obtain ⟨effect', known'⟩ := Action.exists_effect? independent.kept' u
  have exchanges := tracker.carryOut_exchange (independent.parts known known')
  refine ⟨((tracker.carryOut effect).1.carryOut effect').1, (tracker.carryOut effect).2,
    (tracker.carryOut effect').2, ?_, ?_⟩
  · simp only [run, apply_eq_carryOut known, apply_eq_carryOut known', ← exchanges.answer']
  · simp only [run, apply_eq_carryOut known, apply_eq_carryOut known', ← exchanges.answer,
      exchanges.result]

/-- Two independent actions, each at a time of its own, lead to the same tracker in either order,
and what is answered to each of them is the same in both. -/
theorem independent_actions_commute {first second : Action} (independent : first.Independent second)
    (tracker : Tracker) (t u : Instant) :
    ((tracker.apply first t).1.apply second u).1 = ((tracker.apply second u).1.apply first t).1 ∧
      (tracker.apply first t).2 = ((tracker.apply second u).1.apply first t).2 ∧
        ((tracker.apply first t).1.apply second u).2 = (tracker.apply second u).2 := by
  obtain ⟨final, outcome, outcome', left, right⟩ := exists_run_pair independent tracker t u
  simp only [run, Prod.mk.injEq, List.cons.injEq, and_true] at left right
  obtain ⟨there, answered, answered'⟩ := left
  obtain ⟨there', again', again⟩ := right
  exact ⟨there.trans there'.symm, answered.trans again.symm, answered'.trans again'.symm⟩

/-- Two orders with one identifier, and one that is completed. -/
def crowded : Tracker where
  items :=
    [{ id := ⟨"LEAD-1"⟩, customerName := "Priya Patel", phone := "9000000002",
        siteLocation := "Delhi", stage := .payment },
      { id := ⟨"LEAD-1"⟩, customerName := "Amit Jain", phone := "9000000003",
        siteLocation := "Chennai", stage := .po },
      { id := ⟨"LEAD-2"⟩, customerName := "Neha Rao", phone := "9000000004",
        siteLocation := "Pune", stage := .completed }]

/-- The payment of an order. -/
def paying : Action := .advance ⟨"LEAD-1"⟩ .payment {}

/-- A form for an order that is completed. -/
def lateForm : Action := .logStage ⟨"LEAD-2"⟩ .po {}

/-- The first of the two orders is paid and the late form is refused, whichever comes first. -/
theorem independent_actions_commute_crowded :
    paying.Independent lateForm ∧
      ((crowded.apply paying .epoch).1.apply lateForm .epoch).1 =
        ((crowded.apply lateForm .epoch).1.apply paying .epoch).1 ∧
      ((crowded.apply lateForm .epoch).1.apply paying .epoch).2 =
        .advanced ⟨"LEAD-1"⟩ .payment .completed ∧
      ((crowded.apply paying .epoch).1.apply lateForm .epoch).2 =
        .unchanged (.terminalStage ⟨"LEAD-2"⟩) := by
  have apart : ∀ id, ¬(paying.target? = some id ∧ lateForm.target? = some id) := by
    rintro id ⟨here, there⟩
    exact absurd (here.trans there.symm) (by decide)
  have independent : paying.Independent lateForm :=
    ⟨by decide, by decide, by decide, by decide, apart⟩
  obtain ⟨same, answer, answer'⟩ := independent_actions_commute independent crowded .epoch .epoch
  refine ⟨independent, same, ?_, ?_⟩
  · rw [← answer]
    decide
  · rw [answer']
    decide

/-- Actions that are independent of each other lead to the same tracker in any order. -/
theorem run_perm {steps others : List (Action × Instant)} (perm : steps.Perm others)
    (independent : steps.Pairwise fun step other => step.1.Independent other.1)
    (tracker : Tracker) : (tracker.run steps).1 = (tracker.run others).1 := by
  induction perm generalizing tracker with
  | nil => rfl
  | cons step perm ih => exact ih independent.of_cons (tracker.apply step.1 step.2).1
  | swap step other rest =>
    have pair := (List.pairwise_cons.1 independent).1 step List.mem_cons_self
    obtain ⟨final, outcome, outcome', left, right⟩ := exists_run_pair pair tracker other.2 step.2
    have split : ∀ x y : Action × Instant, x :: y :: rest = [x, y] ++ rest := fun _ _ => rfl
    rw [split other step, split step other, run_append, run_append, left, right]
  | trans first second ih ih' =>
    have moved := (first.pairwise_iff Action.Independent.symm).1 independent
    exact (ih independent tracker).trans (ih' moved tracker)

end Tracker

end OrderPipeline
