import OrderPipeline.Proofs.Storage.History
import OrderPipeline.Proofs.Storage.KeyValue

/-!
# Stores that share a place

A `StoreSession` has any number of stores, opened one after another on one place, each under a key
of its choice, and serves their openings, dispatches and saves in any order. It keeps a history.

* `Refines.step`, `Refines.run` — what the stores and the place hold is what the history says.
* `stores_follow_replay_and_saves` — so failures of the place change no store, and a store that is
  opened again begins with what was saved there last.
* `StoreSession.run_dispatchAll` — applying several actions is dispatching them one after another.
-/

namespace OrderPipeline

/-- What an owner of a store can ask for. -/
inductive Request where
  /-- To open a store under a key. -/
  | restore (key : String)
  /-- To apply an action at a time. -/
  | dispatch (owner : Nat) (action : Action) (now : Instant)
  /-- To save the store. -/
  | persist (owner : Nat)

/-- A place, the stores that were opened on it, and what happened so far. -/
structure StoreSession (σ : Type) where
  /-- The place. -/
  backing : σ
  /-- The stores, in the order in which they were opened. -/
  stores : List Store := []
  /-- What happened so far. -/
  history : History := []

namespace StoreSession

variable {σ : Type} [Backing σ]

/-- The session after a request; nothing happens for an owner without a store. -/
def step (session : StoreSession σ) : Request → StoreSession σ
  | .restore key =>
    let (store, backing) := Store.restore session.backing key
    { backing := backing
      stores := session.stores ++ [store]
      history := .opened key (Backing.load session.backing key).1 :: session.history }
  | .dispatch owner action now =>
    match session.stores[owner]? with
    | none => session
    | some store =>
      let (next, outcome, backing) := store.dispatch action now session.backing
      { backing := backing
        stores := session.stores.set owner next
        history := .dispatched owner store.key action now outcome
          (next.persist session.backing).1 :: session.history }
  | .persist owner =>
    match session.stores[owner]? with
    | none => session
    | some store =>
      let (saved, backing) := store.persist session.backing
      { session with
        backing := backing
        history := .persisted owner store.key saved :: session.history }

theorem step_restore (session : StoreSession σ) (key : String) :
    session.step (.restore key) =
      { backing := (Backing.load session.backing key).2
        stores := session.stores ++ [⟨key, openingOf (Backing.load session.backing key).1⟩]
        history := .opened key (Backing.load session.backing key).1 :: session.history } := by
  simp only [step, Store.restore_eq]

theorem step_dispatch {session : StoreSession σ} {owner : Nat} {store : Store} {action : Action}
    {now : Instant} {tracker : Tracker} {outcome : Outcome}
    (found : session.stores[owner]? = some store)
    (applied : store.tracker.apply action now = (tracker, outcome)) :
    session.step (.dispatch owner action now) =
      { backing := (Store.persist ⟨store.key, tracker⟩ session.backing).2
        stores := session.stores.set owner ⟨store.key, tracker⟩
        history := .dispatched owner store.key action now outcome
          (Store.persist ⟨store.key, tracker⟩ session.backing).1 :: session.history } := by
  simp only [step, found, Store.dispatch, applied]

theorem step_persist {session : StoreSession σ} {owner : Nat} {store : Store}
    (found : session.stores[owner]? = some store) :
    session.step (.persist owner) =
      { session with
        backing := (store.persist session.backing).2
        history := .persisted owner store.key (store.persist session.backing).1 ::
          session.history } := by
  simp only [step, found]

/-- The session after some requests. -/
def run (session : StoreSession σ) (requests : List Request) : StoreSession σ :=
  requests.foldl step session

end StoreSession

/-- Applying several actions is dispatching them one after another. -/
theorem StoreSession.run_dispatchAll {σ : Type} [Backing σ] {session : StoreSession σ} {owner : Nat}
    {store : Store} (found : session.stores[owner]? = some store) (clock : Clock)
    (actions : List Action) :
    let batch := session.run ((clock.stamp actions).map fun step => .dispatch owner step.1 step.2)
    let (final, _, backing) := store.dispatchAll clock session.backing actions
    batch.stores[owner]? = some final ∧ batch.backing = backing := by
  induction actions generalizing session store clock with
  | nil => exact ⟨found, rfl⟩
  | cons action actions ih =>
    obtain ⟨tracker, outcome, applied⟩ : ∃ tracker outcome,
        store.tracker.apply action (clock.reading 0) = (tracker, outcome) := ⟨_, _, rfl⟩
    have stepped := StoreSession.step_dispatch found applied
    have still : (session.step (.dispatch owner action (clock.reading 0))).stores[owner]? =
        some ⟨store.key, tracker⟩ := by
      rw [stepped]
      exact List.getElem?_set_self (List.getElem?_eq_some_iff.1 found).1
    have rest := ih still clock.later
    rw [stepped] at rest
    simp only [Clock.stamp, List.map_cons, StoreSession.run, List.foldl_cons, stepped,
      Store.dispatchAll, Store.dispatch, applied] at rest ⊢
    exact rest

/-- Whether the stores of a session and its place hold what its history says; before it began,
`original` was stored. -/
structure Refines {σ : Type} [Backing σ] [KeyValue σ] (original : String → Option String)
    (session : StoreSession σ) : Prop where
  /-- As many stores were opened as there are. -/
  length_eq : session.stores.length = session.history.openings.length
  /-- Every store holds and has returned what its own actions make of its opening. -/
  follows {owner : Nat} {store : Store} (found : session.stores[owner]? = some store) :
    session.history.replayed owner = some (store, session.history.outcomesFor owner)
  /-- Under every key the tracker of the last saver is stored, or what was there before. -/
  keeps (key : String) : KeyValue.contents session.backing key =
    ((session.history.lastSaved key).map Tracker.text).or (original key)
  /-- Every store had been opened before it acted. -/
  owned : session.history.Owned

/-- A save puts the whole tracker under the key of the store, or changes nothing. -/
theorem Store.contents_persist {σ : Type} [Backing σ] [KeyValue σ] (store : Store) (backing : σ)
    (key : String) :
    KeyValue.contents (store.persist backing).2 key =
      if (store.persist backing).1.isOk && store.key == key then some store.tracker.text
      else KeyValue.contents backing key := by
  cases answer : (store.persist backing).1 with
  | ok done =>
    rw [Store.persist, KeyValue.contents_save answer]
    by_cases same : key = store.key
    · simp [same, Except.isOk, Except.toBool]
    · simp [same, Ne.symm same]
  | error error =>
    rw [Store.persist, KeyValue.contents_save_error answer]
    rfl

namespace Refines

variable {σ : Type} [Backing σ] [KeyValue σ] {original : String → Option String}
  {session : StoreSession σ}

/-- Before anything happened, what is stored is what was there before. -/
theorem start (backing : σ) :
    Refines (KeyValue.contents backing) ({ backing := backing } : StoreSession σ) where
  length_eq := rfl
  follows found := nomatch found
  keeps key := by
    rw [History.lastSaved, Option.map_none, Option.none_or]
  owned := trivial

/-- A save that is recorded stores the tracker that its store holds. -/
theorem keeps_persist (refines : Refines original session) {record : Record} {owner : Nat}
    {store : Store} {outcomes : List Outcome} (acts : record.owner? = some owner)
    (own : record.key = store.key) (saved : record.isSaved = (store.persist session.backing).1.isOk)
    (follows : History.replayed owner (record :: session.history) = some (store, outcomes))
    (key : String) :
    KeyValue.contents (store.persist session.backing).2 key =
      ((History.lastSaved key (record :: session.history)).map Tracker.text).or (original key) := by
  -- the place and the history ask the same: did the save work, and was it under this key
  rw [store.contents_persist, History.lastSaved, Record.isSavedUnder, saved, own]
  split
  · simp only [acts, follows, bind, Option.bind]
    rfl
  · exact refines.keeps key

/-- An opening adds a store that begins with what is loaded. -/
theorem restore (refines : Refines original session) (key : String) :
    Refines original (session.step (.restore key)) := by
  rw [session.step_restore]
  refine ⟨?_, fun {owner store} found => ?_, fun other => ?_, ⟨nofun, refines.owned⟩⟩
  · simp only [History.openings, List.length_append, refines.length_eq, List.length_singleton]
  · rw [List.getElem?_append] at found
    split at found
    · exact History.replayed_cons_of_idle ⟨rfl, rfl⟩ (refines.follows found)
    -- the store that was just opened has done nothing yet
    · next after =>
      rw [List.getElem?_singleton, Option.ite_none_right_eq_some] at found
      obtain ⟨last, same⟩ := found
      cases same
      have position : owner = session.history.openings.length := by
        rw [← refines.length_eq]
        omega
      obtain ⟨steps, outcomes⟩ := refines.owned.nothing (Nat.le_of_eq position.symm)
      refine History.replayed_eq_some_iff.2 ⟨_, ?_, rfl, ?_⟩
      · rw [position]
        exact List.getElem?_concat_length
      · rw [History.stepsBy_cons, History.outcomesFor_cons, steps, outcomes]
        rfl
  · rw [KeyValue.contents_load]
    exact refines.keeps other

/-- A dispatch applies the action to the store that was asked, and to no other. -/
theorem dispatch (refines : Refines original session) (owner : Nat) (action : Action)
    (now : Instant) : Refines original (session.step (.dispatch owner action now)) := by
  cases found : session.stores[owner]? with
  | none =>
    simp only [StoreSession.step, found]
    exact refines
  | some store =>
    obtain ⟨tracker, outcome, applied⟩ : ∃ tracker outcome,
        store.tracker.apply action now = (tracker, outcome) := ⟨_, _, rfl⟩
    obtain ⟨opening, opened, own, -⟩ := History.replayed_eq_some_iff.1 (refines.follows found)
    rw [StoreSession.step_dispatch found applied]
    -- only the parts of the record matter from here on
    generalize record_eq : Record.dispatched owner store.key action now outcome
      (Store.persist ⟨store.key, tracker⟩ session.backing).1 = record
    have acts : record.owner? = some owner := by rw [← record_eq]; rfl
    have follows : History.replayed owner (record :: session.history) =
        some (⟨store.key, tracker⟩, History.outcomesFor owner (record :: session.history)) := by
      have step : record.stepBy? owner = some (action, now) := by
        rw [← record_eq]
        exact if_pos rfl
      have returned : record.outcomeFor? owner = some outcome := by
        rw [← record_eq]
        exact if_pos rfl
      exact History.replayed_cons_of_step step returned applied (refines.follows found)
    refine ⟨?_, fun {other kept} found' => ?_, ?_, ?_, refines.owned⟩
    · rw [List.length_set, ← record_eq]
      exact refines.length_eq
    -- the store that was asked has taken a step, the others stand as before
    · by_cases same : owner = other
      · subst same
        rw [List.getElem?_set_self (List.getElem?_eq_some_iff.1 found).1] at found'
        cases found'
        exact follows
      · rw [List.getElem?_set_ne same] at found'
        refine History.replayed_cons_of_idle (History.idle_of_owner_ne ?_)
          (refines.follows found')
        rw [acts]
        exact fun equal => same (Option.some.inj equal)
    · exact refines.keeps_persist acts (by rw [← record_eq]; rfl) (by rw [← record_eq]; rfl) follows
    · intro actor actor_acts
      rw [acts] at actor_acts
      cases actor_acts
      exact ⟨opening, opened, own.trans (by rw [← record_eq]; rfl)⟩

/-- A save leaves every store as it is. -/
theorem persist (refines : Refines original session) (owner : Nat) :
    Refines original (session.step (.persist owner)) := by
  cases found : session.stores[owner]? with
  | none =>
    simp only [StoreSession.step, found]
    exact refines
  | some store =>
    obtain ⟨opening, opened, own, -⟩ := History.replayed_eq_some_iff.1 (refines.follows found)
    let record : Record := .persisted owner store.key (store.persist session.backing).1
    have follows : ∀ {other store'}, session.stores[other]? = some store' →
        History.replayed other (record :: session.history) =
          some (store', History.outcomesFor other (record :: session.history)) :=
      fun found => History.replayed_cons_of_idle ⟨rfl, rfl⟩ (refines.follows found)
    rw [StoreSession.step_persist found]
    refine ⟨refines.length_eq, follows, ?_, ?_, refines.owned⟩
    · have acts : record.owner? = some owner := rfl
      exact refines.keeps_persist acts rfl rfl (follows found)
    · intro actor acts
      change some owner = some actor at acts
      cases acts
      exact ⟨opening, opened, own⟩

/-- No request brings a store or the place away from what the history says. -/
theorem step (refines : Refines original session) (request : Request) :
    Refines original (session.step request) := by
  cases request with
  | restore key => exact refines.restore key
  | dispatch owner action now => exact refines.dispatch owner action now
  | persist owner => exact refines.persist owner

/-- Neither do any number of them, in any order. -/
theorem run (refines : Refines original session) (requests : List Request) :
    Refines original (session.run requests) := by
  induction requests generalizing session with
  | nil => exact refines
  | cons request requests ih => exact ih (refines.step request)

/-- A store that is opened again begins with what was saved last, if that can be loaded. -/
theorem restore_eq (refines : Refines original session) {key : String} {stored : Option String}
    (loaded : (Backing.load session.backing key).1 = .ok stored) :
    (Store.restore session.backing key).1 =
      ⟨key, (session.history.lastSaved key).getD (openingOf (.ok (original key)))⟩ := by
  rw [Store.restore_eq, loaded, KeyValue.load_eq loaded, refines.keeps key]
  cases session.history.lastSaved key with
  | none => rfl
  | some tracker =>
    rw [Option.map_some, Option.some_or, openingOf, tracker.ofText_text]
    rfl

/-- What a store held when it was saved last is what the last save of its history says. -/
theorem lastSaved_eq (refines : Refines original session) {owner : Nat} {key : String}
    {store : Store} {later earlier : History}
    (split : session.history = later ++ .persisted owner key (.ok ()) :: earlier)
    (unsaved : ∀ record ∈ later, record.isSavedUnder key = false)
    (idle : ∀ record ∈ later, record.stepBy? owner = none)
    (found : session.stores[owner]? = some store) :
    store.key = key ∧ session.history.lastSaved key = some store.tracker := by
  have owned := refines.owned
  have follows := refines.follows found
  rw [split] at owned follows ⊢
  -- the saver was opened before it saved, so what it did until then is all that it did
  obtain ⟨opening, before, own⟩ := owned.of_append.1 owner rfl
  have opened : (History.openings (.persisted owner key (.ok ()) :: earlier))[owner]? =
      some opening := before
  rw [History.replayed_append idle opened] at follows
  obtain ⟨same, found, held, -⟩ := History.replayed_eq_some_iff.1 follows
  cases found.symm.trans opened
  refine ⟨held.symm.trans own, ?_⟩
  have saved : (Record.persisted owner key (.ok ())).isSavedUnder key = true := by
    simp [Record.isSavedUnder, Record.isSaved, Record.key, Except.isOk, Except.toBool]
  rw [History.lastSaved_append unsaved, History.lastSaved, if_pos saved]
  simp only [Record.owner?, follows, bind, Option.bind]
  rfl

end Refines

/-- Any number of stores share a place, open under any keys, and ask for anything in any order,
while accesses fail. Then (1) every store holds, and has returned, what the run of its own actions
from its opening gives; (2) under every key the tracker is stored that the last store to save there
had when it did, or else what was there before; (3) a store that is opened again begins with just
that, if it can be loaded; and (4) after a last save that did not fail, it begins with all that the
saver holds. -/
theorem stores_follow_replay_and_saves {σ : Type} [Backing σ] [KeyValue σ] (backing : σ)
    (requests : List Request) :
    let session := StoreSession.run { backing := backing } requests
    (∀ owner, (session.stores[owner]?.map fun store =>
      (store, session.history.outcomesFor owner)) = session.history.replayed owner) ∧
    (∀ key, KeyValue.contents session.backing key =
      ((session.history.lastSaved key).map Tracker.text).or (KeyValue.contents backing key)) ∧
    (∀ key stored, (Backing.load session.backing key).1 = .ok stored →
      (Store.restore session.backing key).1 = ⟨key, (session.history.lastSaved key).getD
        (openingOf (.ok (KeyValue.contents backing key)))⟩) ∧
    ∀ owner key store later earlier stored,
      session.history = later ++ .persisted owner key (.ok ()) :: earlier →
      (∀ record ∈ later, record.isSavedUnder key = false ∧ record.stepBy? owner = none) →
      session.stores[owner]? = some store → (Backing.load session.backing key).1 = .ok stored →
      (Store.restore session.backing key).1 = store := by
  intro session
  have refines : Refines (KeyValue.contents backing) session := (Refines.start backing).run requests
  refine ⟨fun owner => ?_, refines.keeps, fun key stored => refines.restore_eq, ?_⟩
  -- where no store is, none was opened
  · cases found : session.stores[owner]? with
    | none =>
      have unopened : session.history.openings[owner]? = none := by
        rw [List.getElem?_eq_none_iff] at found ⊢
        rwa [← refines.length_eq]
      rw [History.replayed, unopened]
      rfl
    | some store => exact (refines.follows found).symm
  · intro owner key store later earlier stored split after found loaded
    obtain ⟨own, saved⟩ := refines.lastSaved_eq split (fun record member => (after record member).1)
      (fun record member => (after record member).2) found
    rw [refines.restore_eq loaded, saved, ← own]
    rfl

/-! ## A place that fails now and then -/

/-- A shelf with a list that says of the next accesses which of them fail. -/
structure FlakyShelf where
  /-- The shelf. -/
  shelf : Shelf
  /-- Whether the next accesses fail; those that are not listed do not. -/
  failing : List Bool

instance : Backing FlakyShelf where
  load place key :=
    if place.failing.head?.getD false then
      (.error (.database "busy"), { place with failing := place.failing.tail })
    else (.ok (place.shelf.texts.lookup key), { place with failing := place.failing.tail })
  save place key text :=
    if place.failing.head?.getD false then
      (.error (.database "busy"), { place with failing := place.failing.tail })
    else (.ok (), ⟨⟨Keyed.insert key text place.shelf.texts⟩, place.failing.tail⟩)

instance : KeyValue FlakyShelf where
  contents place key := place.shelf.texts.lookup key
  load_eq {place key stored} loaded := by
    simp only [Backing.load] at loaded
    split at loaded
    · cases loaded
    · exact (Except.ok.inj loaded).symm
  contents_load place key := by
    simp only [Backing.load]
    split <;> rfl
  contents_save {place key text} saved other := by
    simp only [Backing.save] at saved ⊢
    split at saved
    · cases saved
    · next works =>
      rw [if_neg works]
      exact Keyed.lookup_insert _ other _ _
  contents_save_error {place key text error} failed := by
    simp only [Backing.save] at failed ⊢
    split at failed
    · next fails => rw [if_pos fails]
    · cases failed

/-- A shelf with the text of an empty tracker, of which some accesses fail. -/
def flaky : FlakyShelf :=
  ⟨⟨[("orders", "\x7b\"items\": [], \"activityLog\": []\x7d")]⟩,
    [false, true, true, false, true, false, true, false]⟩

/-- A call of a customer. -/
def called (customerName : String) : Action := .addActivity customerName "called" "followup"

/-- Two stores are opened under one key, one of them in vain, and take turns. -/
def turns : List Request :=
  [.restore "orders", .restore "orders", .dispatch 1 (called "Priya") .epoch,
    .dispatch 1 (called "Amit") .epoch, .dispatch 0 (called "Meera") .epoch, .persist 0,
    .dispatch 1 (called "Ravi") .epoch]

/-- What the first store holds after its turn. -/
def afterTurns : Store :=
  ⟨"orders", { feed := ⟨[⟨"Meera", "called", "followup", .epoch⟩]⟩ }⟩

/-- The store that saved last is restored, though its own dispatch was not saved and the other
store has gone on since. -/
theorem stores_follow_replay_and_saves_flaky :
    let session := StoreSession.run { backing := flaky } turns
    session.stores.map (fun store => store.tracker.feed.entries.length) = [1, 3] ∧
      (Store.restore session.backing "orders").1 = afterTurns := by
  intro session
  have found : session.stores[0]? = some afterTurns := by decide +kernel
  refine ⟨by decide +kernel, ?_⟩
  refine (stores_follow_replay_and_saves flaky turns).2.2.2 0 "orders" afterTurns
    [.dispatched 1 "orders" (called "Ravi") .epoch (.activityRecorded 0)
      (.error (.database "busy"))] _ _ rfl ?_ found rfl
  decide

end OrderPipeline
