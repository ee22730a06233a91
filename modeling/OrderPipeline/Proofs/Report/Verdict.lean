import OrderPipeline.Proofs.Command.Process
import OrderPipeline.Proofs.Number.Digits
import OrderPipeline.Proofs.Storage.History

/-!
# What the readiness checks tell about opening a store

A store that is opened restores a tracker, finds nothing, or begins empty although there may be
something that its first save would write over (`Store.Restores`, `Store.FallsBack`). The last of
the readiness checks is made without opening a store. `Check.TellsOpening` says that it still tells
which of the three an opening comes to, and how much is restored.

* `Store.opening_cases` — an opening comes to one of the three, each with a check of its own.
* `Check.holding_inj` — the numbers can be read off the text of a check.
* `Connection.restores_iff`, `Connection.fallsBack_iff` — what the three mean for the rows of a
  database.
* `Host.verdict_tells_opening` — on a host with a migrated database the last check tells what an
  opening comes to, and the report passes only if every check does.
-/

namespace OrderPipeline

/-! ## What an opening comes to -/

namespace Store

variable {σ : Type} [Backing σ] {place : σ} {key : String} {tracker : Tracker}

/-- Whether a store that is opened holds the tracker whose text is stored there. -/
def Restores (place : σ) (key : String) (tracker : Tracker) : Prop :=
  ∃ text, (Backing.load place key).1 = .ok (some text) ∧ Tracker.ofText text = .ok tracker ∧
    (restore place key).1.tracker = tracker

/-- Whether a store that is opened begins empty, with nothing restored, although something is stored
there or it could not be read. -/
def FallsBack (place : σ) (key : String) : Prop :=
  (restore place key).1.tracker = {} ∧ (Backing.load place key).1 ≠ .ok none ∧
    ∀ tracker, ¬Restores place key tracker

/-- A tracker is restored exactly when its text is loaded. -/
theorem restores_iff : Restores place key tracker ↔
    ∃ text, (Backing.load place key).1 = .ok (some text) ∧ Tracker.ofText text = .ok tracker := by
  constructor
  · rintro ⟨text, loaded, decoded, -⟩
    exact ⟨text, loaded, decoded⟩
  · rintro ⟨text, loaded, decoded⟩
    refine ⟨text, loaded, decoded, ?_⟩
    rw [restore_eq, loaded, openingOf, decoded]
    rfl

/-- Only one tracker is restored. -/
theorem Restores.unique {other : Tracker} (restores : Restores place key tracker)
    (restores' : Restores place key other) : tracker = other := by
  obtain ⟨-, -, -, opened⟩ := restores
  obtain ⟨-, -, -, opened'⟩ := restores'
  exact opened.symm.trans opened'

/-- Nothing is restored where nothing is stored. -/
theorem Restores.load_ne_none (restores : Restores place key tracker) :
    (Backing.load place key).1 ≠ .ok none := by
  obtain ⟨text, loaded, -, -⟩ := restores
  rw [loaded]
  simp

/-- An opening falls back exactly when the place cannot be read or holds a text that is no
tracker. -/
theorem fallsBack_iff : FallsBack place key ↔
    (∃ error, (Backing.load place key).1 = .error error) ∨
      ∃ text fault, (Backing.load place key).1 = .ok (some text) ∧
        Tracker.ofText text = .error fault := by
  rw [FallsBack, restore_eq]
  simp only [restores_iff]
  rcases (Backing.load place key).1 with error | stored
  · simp [openingOf]
  · cases stored with
    | none => simp
    | some text =>
      cases decoded : Tracker.ofText text with
      | error fault => simp [openingOf, decoded, Except.toOption]
      | ok tracker => simp [decoded]

end Store

/-! ## The texts of the check -/

namespace Check

/-- The check of a saved tracker with some orders and some entries in its feed. -/
def holding (key : String) (items entries : Nat) : Check :=
  ⟨"saved_state", .pass,
    "`" ++ key ++ "` holds " ++ toString items ++ " items and " ++ toString entries ++
      " activity entries"⟩

/-- The check of a place where nothing is saved. -/
def nothingSaved (key : String) : Check :=
  ⟨"saved_state", .pass, "no state saved under `" ++ key ++ "` yet"⟩

/-- A number that is followed by a blank can be read off, and so can what follows. -/
theorem toString_blank_inj {n m : Nat} {rest rest' : List Char} :
    (toString n).toList ++ ' ' :: rest = (toString m).toList ++ ' ' :: rest' ↔
      n = m ∧ rest = rest' := by
  constructor
  · intro same
    simp only [Nat.toString_eq_repr, Nat.repr_eq_ofList_toDigits, String.toList_ofList] at same
    have ends (rest : List Char) : NoDigit (' ' :: rest) := .cons (by decide) rest
    have digits := congrArg (List.takeWhile fun c => (digit? c).isSome) same
    rw [takeWhile_digits (isDigit_toDigits n) (ends rest),
      takeWhile_digits (isDigit_toDigits m) (ends rest')] at digits
    have number : some n = some m := by
      rw [← digits?_toDigits n, digits, digits?_toDigits m]
    rw [digits] at same
    exact ⟨Option.some.inj number, (List.cons.inj (List.append_cancel_left same)).2⟩
  · rintro ⟨rfl, rfl⟩
    rfl

/-- The numbers can be read off the check of a saved tracker. -/
theorem holding_inj {key : String} {items entries items' entries' : Nat} :
    holding key items entries = holding key items' entries' ↔
      items = items' ∧ entries = entries' := by
  constructor
  · intro same
    have texts := congrArg (fun check : Check => check.details.toList) same
    have middle : " items and ".toList = ' ' :: "items and ".toList := by decide +kernel
    have last : " activity entries".toList = ' ' :: "activity entries".toList := by
      decide +kernel
    simp only [holding, String.toList_append, List.append_assoc, List.append_cancel_left_eq, middle,
      last, List.cons_append, toString_blank_inj, and_true] at texts
    exact texts
  · rintro ⟨rfl, rfl⟩
    rfl

/-- A saved tracker is told apart from nothing. -/
theorem holding_ne_nothingSaved (key : String) (items entries : Nat) :
    holding key items entries ≠ nothingSaved key := by
  intro same
  have texts := congrArg (fun check : Check => check.details.toList.head?) same
  simp [holding, nothingSaved, String.toList_append] at texts

end Check

/-! ## The verdict -/

section Verdict

variable {σ : Type} [Backing σ]

/-- The check of what is loaded from a place. -/
def Check.ofPlace (place : σ) (key : String) : Check :=
  (SavedState.ofLoaded (Backing.load place key).1).check key

/-- Whether a check tells what opening a store comes to. -/
structure Check.TellsOpening (check : Check) (place : σ) (key : String) : Prop where
  /-- It is the check of the saved state. -/
  named : check.name = "saved_state"
  /-- It tells the numbers of a tracker exactly when one with these numbers is restored. -/
  restored (items entries : Nat) : check = .holding key items entries ↔
    ∃ tracker, Store.Restores place key tracker ∧ tracker.items.length = items ∧
      tracker.feed.entries.length = entries
  /-- It tells that nothing is saved exactly when nothing is. -/
  absent : check = .nothingSaved key ↔ (Backing.load place key).1 = .ok none
  /-- It fails exactly when the opening falls back. -/
  lost : check.status = .fail ↔ Store.FallsBack place key
  /-- It is always made. -/
  made : check.status ≠ .skipped

/-- An opening finds nothing, restores a tracker, or falls back, and the check differs. -/
theorem Store.opening_cases (place : σ) (key : String) :
    ((Backing.load place key).1 = .ok none ∧ Check.ofPlace place key = .nothingSaved key) ∨
      (∃ tracker, Store.Restores place key tracker ∧ Check.ofPlace place key =
        .holding key tracker.items.length tracker.feed.entries.length) ∨
      (Store.FallsBack place key ∧ (Check.ofPlace place key).name = "saved_state" ∧
        (Check.ofPlace place key).status = .fail) := by
  rw [fallsBack_iff]
  simp only [restores_iff, Check.ofPlace]
  rcases (Backing.load place key).1 with error | stored
  · refine .inr (.inr ⟨.inl ⟨error, rfl⟩, ?_⟩)
    cases error <;> exact ⟨rfl, rfl⟩
  · cases stored with
    | none => exact .inl ⟨rfl, rfl⟩
    | some text =>
      rw [SavedState.ofLoaded]
      cases decoded : Tracker.ofText text with
      | ok tracker => exact .inr (.inl ⟨tracker, ⟨text, rfl, decoded⟩, rfl⟩)
      | error fault => exact .inr (.inr ⟨.inr ⟨text, fault, rfl, decoded⟩, rfl, rfl⟩)

/-- The check of what is loaded from a place tells what opening a store there comes to. -/
theorem Check.ofPlace_tellsOpening (place : σ) (key : String) :
    (Check.ofPlace place key).TellsOpening place key := by
  obtain ⟨absent, check⟩ | ⟨tracker, restores, check⟩ | ⟨fallsBack, named, failed⟩ :=
    Store.opening_cases place key
  · have nothing (tracker : Tracker) : ¬Store.Restores place key tracker :=
      fun restores => restores.load_ne_none absent
    rw [check]
    exact
      { named := rfl
        restored := fun items entries =>
          ⟨fun same => absurd same.symm (holding_ne_nothingSaved key items entries),
            fun ⟨tracker, restores, _⟩ => absurd restores (nothing tracker)⟩
        absent := ⟨fun _ => absent, fun _ => rfl⟩
        lost := ⟨nofun, fun fallsBack => absurd absent fallsBack.2.1⟩
        made := nofun }
  · rw [check]
    exact
      { named := rfl
        restored := fun items entries => by
          rw [holding_inj]
          exact ⟨fun same => ⟨tracker, restores, same⟩, fun ⟨other, restores', same⟩ => by
            rw [restores.unique restores']
            exact same⟩
        absent := ⟨fun same => absurd same (holding_ne_nothingSaved key _ _),
          fun absent => absurd absent restores.load_ne_none⟩
        lost := ⟨nofun, fun fallsBack => absurd restores (fallsBack.2.2 tracker)⟩
        made := nofun }
  · have passes {other : Check} (passed : other.status = .pass) :
        Check.ofPlace place key ≠ other := by
      rintro rfl
      rw [failed] at passed
      cases passed
    exact
      { named := named
        restored := fun items entries => ⟨fun same => absurd same (passes rfl),
          fun ⟨tracker, restores, _⟩ => absurd restores (fallsBack.2.2 tracker)⟩
        absent := ⟨fun same => absurd same (passes rfl),
          fun absent => absurd absent fallsBack.2.1⟩
        lost := ⟨fun _ => fallsBack, fun _ => failed⟩
        made := by rw [failed]; nofun }

end Verdict

/-! ## The rows of a database -/

namespace Connection

variable {connection : Connection} {rows : List (String × Row)} {key : String}

/-- What is loaded from a migrated database. -/
theorem load_eq (migrated : connection.database.rows = some rows) :
    (Backing.load connection key).1 = match rows.lookup key with
      | none => .ok none
      | some row =>
        if checksum row.text = row.checksum then .ok (some row.text)
        else .error (.checksumMismatch key) := by
  obtain ⟨⟨stored⟩, readOnly⟩ := connection
  cases migrated
  rfl

/-- Nothing is loaded from a migrated database exactly when there is no row. -/
theorem load_eq_none_iff (migrated : connection.database.rows = some rows) :
    (Backing.load connection key).1 = .ok none ↔ rows.lookup key = none := by
  rw [load_eq migrated]
  cases rows.lookup key with
  | none => simp
  | some row => by_cases fits : checksum row.text = row.checksum <;> simp [fits]

/-- A tracker is restored from a migrated database exactly when there is a row with its text and the
checksum of that text. -/
theorem restores_iff (migrated : connection.database.rows = some rows) {tracker : Tracker} :
    Store.Restores connection key tracker ↔
      ∃ row, rows.lookup key = some row ∧ checksum row.text = row.checksum ∧
        Tracker.ofText row.text = .ok tracker := by
  rw [Store.restores_iff, load_eq migrated]
  cases rows.lookup key with
  | none => simp
  | some row => by_cases fits : checksum row.text = row.checksum <;> simp [fits]

/-- An opening falls back on a migrated database exactly when there is a row with another checksum,
or with a text that is no tracker. -/
theorem fallsBack_iff (migrated : connection.database.rows = some rows) :
    Store.FallsBack connection key ↔
      ∃ row, rows.lookup key = some row ∧
        (checksum row.text = row.checksum → ∃ fault, Tracker.ofText row.text = .error fault) := by
  rw [Store.fallsBack_iff, load_eq migrated]
  cases rows.lookup key with
  | none => simp
  | some row => by_cases fits : checksum row.text = row.checksum <;> simp [fits]

/-- A database with a table is migrated already. -/
theorem migrate_eq_self (migrated : connection.database.rows = some rows) :
    connection.migrate = .ok connection := by
  obtain ⟨⟨stored⟩, readOnly⟩ := connection
  cases migrated
  simp [migrate, Database.migrate]

end Connection

/-! ## The report -/

namespace Readiness

/-- The checks together pass exactly when each of them does. -/
theorem status_eq_pass_iff (readiness : Readiness) :
    readiness.status = .pass ↔ ∀ check ∈ readiness.checks, check.status = .pass := by
  rw [status, isReady]
  split
  · next ready => simpa using ready
  · next unready => simpa using unready

end Readiness

namespace Host

variable {host : Host} {settings : Settings} {location : Location} {connection : Connection}

/-- The checks of a host whose database can be opened. -/
theorem checks_readiness (loads : host.settings = .ok settings)
    (opens : host.connect settings.databaseUrl = .ok (location, connection)) :
    host.readiness.1.checks =
      [Readiness.loaded, settings.accounts.check,
        ⟨"database_connectivity", .pass, "connected using `" ++ settings.databaseUrl ++ "`"⟩,
        .ofPlace connection settings.stateKey] := by
  simp only [readiness, loads, checkStorage, opens, Readiness.withDatabase]
  rfl

/-- On a host that passes, a store that is opened does not fall back. -/
theorem not_fallsBack_of_pass (loads : host.settings = .ok settings)
    (opens : host.connect settings.databaseUrl = .ok (location, connection))
    (passes : host.readiness.1.status = .pass) :
    ¬Store.FallsBack connection settings.stateKey := by
  intro fallsBack
  rw [Readiness.status_eq_pass_iff, checks_readiness loads opens] at passes
  have passed := passes (.ofPlace connection settings.stateKey) (by simp)
  rw [(Check.ofPlace_tellsOpening connection settings.stateKey).lost.2 fallsBack] at passed
  cases passed

/-- Whatever becomes of the checks, there are four of them, and they have their names. -/
theorem names_readiness (host : Host) : host.readiness.1.checks.map Check.name =
    ["config_validation", "login_mode", "database_connectivity", "saved_state"] := by
  cases loads : host.settings with
  | error error =>
    rw [readiness, loads]
    rfl
  | ok settings =>
    cases opens : host.connect settings.databaseUrl with
    | error fault =>
      simp only [readiness, loads, checkStorage, opens]
      rfl
    | ok opened =>
      rw [checks_readiness loads opens]
      have named := (Check.ofPlace_tellsOpening opened.2 settings.stateKey).named
      simp [named, Readiness.loaded, Accounts.check]

/-- On a host with a migrated database, the last check tells what opening a store comes to, by the
row that there is. So it does for everything that can be loaded from any other place. Any report
passes exactly when each of its four checks does, and then no store that is opened falls back. -/
theorem verdict_tells_opening {rows : List (String × Row)} (loads : host.settings = .ok settings)
    (opens : host.connect settings.databaseUrl = .ok (location, connection))
    (migrated : connection.database.rows = some rows) :
    (∃ verdict,
      host.readiness.1.checks =
          [Readiness.loaded, settings.accounts.check,
            ⟨"database_connectivity", .pass, "connected using `" ++ settings.databaseUrl ++ "`"⟩,
            verdict] ∧
        verdict.TellsOpening connection settings.stateKey ∧
        (host.readiness.1.status = .pass ↔ verdict.status = .pass)) ∧
      connection.migrate = .ok connection ∧
      ((Backing.load connection settings.stateKey).1 = .ok none ↔
        rows.lookup settings.stateKey = none) ∧
      (∀ tracker, Store.Restores connection settings.stateKey tracker ↔
        ∃ row, rows.lookup settings.stateKey = some row ∧ checksum row.text = row.checksum ∧
          Tracker.ofText row.text = .ok tracker) ∧
      (Store.FallsBack connection settings.stateKey ↔
        ∃ row, rows.lookup settings.stateKey = some row ∧
          (checksum row.text = row.checksum →
            ∃ fault, Tracker.ofText row.text = .error fault)) ∧
      (∀ (σ : Type) [Backing σ] (place : σ) (key : String),
        ((SavedState.ofLoaded (Backing.load place key).1).check key).TellsOpening place key) ∧
      ∀ other : Host,
        other.readiness.1.checks.map Check.name =
            ["config_validation", "login_mode", "database_connectivity", "saved_state"] ∧
          (other.readiness.1.status = .pass ↔
            ∀ check ∈ other.readiness.1.checks, check.status = .pass) ∧
          (other.readiness.1.status = .pass → ∀ settings location connection,
            other.settings = .ok settings →
              other.connect settings.databaseUrl = .ok (location, connection) →
                ¬Store.FallsBack connection settings.stateKey) := by
  refine ⟨⟨.ofPlace connection settings.stateKey, checks_readiness loads opens,
      Check.ofPlace_tellsOpening _ _, ?_⟩,
    connection.migrate_eq_self migrated, Connection.load_eq_none_iff migrated,
    fun _ => Connection.restores_iff migrated, Connection.fallsBack_iff migrated,
    fun _ _ place key => Check.ofPlace_tellsOpening place key,
    fun other => ⟨other.names_readiness, other.readiness.1.status_eq_pass_iff,
      fun passes _ _ _ loads opens => not_fallsBack_of_pass loads opens passes⟩⟩
  rw [Readiness.status_eq_pass_iff, checks_readiness loads opens]
  simp [Readiness.loaded, Accounts.check]

/-- A database with a text under the default key. -/
def storing (text : String) : Database := ⟨some [("q2d.workflow_state.v1", ⟨text, checksum text⟩)]⟩

/-- A host with nothing but such a database. -/
def withStored (text : String) : Host := (bareProcess [] []).host [("q2d.db", storing text)]

/-- There the database is opened. -/
theorem connect_withStored (text : String) :
    (withStored text).connect (Settings.complete Partial.none).databaseUrl =
      .ok (defaultSite.location, ⟨storing text, false⟩) := by
  have address : Location.ofAddress (Settings.complete Partial.none).databaseUrl =
      .ok defaultSite.location := by decide +kernel
  have place : FileTree.place? "q2d.db" = some ["q2d.db"] := by decide +kernel
  have name : placeName ["q2d.db"] = "q2d.db" := by decide +kernel
  have found : (withStored text).databaseAt defaultSite.location = .ok (storing text) := by
    simp only [databaseAt, defaultSite, place, name]
    rfl
  rw [connect, address]
  show (withStored text).databaseAt _ >>= _ = _
  rw [found]
  rfl

/-- There the settings have their defaults. -/
theorem settings_withStored (text : String) :
    (withStored text).settings = .ok (Settings.complete Partial.none) :=
  settings_bareProcess [] []

/-- An empty tracker that is saved is told apart from a text that is none, with which the report
does not pass although its checksum fits. -/
theorem verdict_tells_opening_orders :
    .holding "q2d.workflow_state.v1" 0 0 ∈
        (withStored ({} : Tracker).text).readiness.1.checks ∧
      (withStored "orders").readiness.1.status ≠ .pass := by
  constructor
  · obtain ⟨⟨verdict, checks, tells, -⟩, -, -, restored, -⟩ :=
      verdict_tells_opening (settings_withStored _) (connect_withStored ({} : Tracker).text) rfl
    have row := (restored {}).2 ⟨_, rfl, rfl, Tracker.ofText_text _⟩
    have told : verdict = .holding "q2d.workflow_state.v1" 0 0 :=
      (tells.restored 0 0).2 ⟨{}, row, rfl, rfl⟩
    rw [checks, told]
    exact .tail _ (.tail _ (.tail _ (.head _)))
  · obtain ⟨⟨verdict, -, tells, passes⟩, -, -, -, lost, -⟩ :=
      verdict_tells_opening (settings_withStored _) (connect_withStored "orders") rfl
    have undecodable : ∃ fault, Tracker.ofText "orders" = .error fault := by
      have undecodable : (Tracker.ofText "orders").isOk = false := by decide +kernel
      cases decoded : Tracker.ofText "orders" with
      | ok => rw [decoded] at undecodable; cases undecodable
      | error fault => exact ⟨fault, rfl⟩
    have failed := tells.lost.2 (lost.2 ⟨_, rfl, fun _ => undecodable⟩)
    rw [failed] at passes
    rw [ne_eq, passes]
    exact nofun

end Host

end OrderPipeline
