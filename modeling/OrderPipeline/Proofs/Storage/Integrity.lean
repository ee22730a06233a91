import OrderPipeline.Proofs.Keyed
import OrderPipeline.Storage.Database

/-!
# What the database keeps, and what it notices

As long as the database is only asked to load and to save, it is a plain map: it answers what a
shelf answers. When texts are changed behind its back as well, a load compares the text that stands
under its key with the checksum of the last save there.

A `Past` lists what happened to a database since it was migrated, newest first. It alone tells which
text was saved last under a key (`Past.lastSaved`) and which one stands there (`Past.standing`).

* `Database.exists_keeps_after` — there is one row for every key that was saved, with the text that
  stands and the checksum of the last save.
* `Database.Mirrors.serveAll` — without edits, the answers are those of a shelf.
* `database_is_map_and_notices_edits` — both together.
-/

namespace OrderPipeline

/-! ## What can happen to a database -/

/-- What can be asked of a place. -/
inductive Access where
  /-- To read the text under a key. -/
  | load (key : String)
  /-- To put a text under a key. -/
  | save (key text : String)

/-- What is answered. -/
inductive Answer where
  /-- To a load. -/
  | loaded (result : Except StorageError (Option String))
  /-- To a save. -/
  | saved (result : Except StorageError Unit)
  deriving DecidableEq

namespace Access

variable {σ : Type} [Backing σ]

/-- What a place answers, and what becomes of it. -/
def serve (access : Access) (place : σ) : Answer × σ :=
  match access with
  | load key => (.loaded (Backing.load place key).1, (Backing.load place key).2)
  | save key text => (.saved (Backing.save place key text).1, (Backing.save place key text).2)

/-- What a place answers one after another, and what becomes of it. -/
def serveAll (place : σ) : List Access → List Answer × σ
  | [] => ([], place)
  | access :: rest =>
    let (answer, next) := access.serve place
    let (answers, final) := serveAll next rest
    (answer :: answers, final)

end Access

/-- What can happen to a database. -/
inductive Happening where
  /-- It is asked for something. -/
  | access (access : Access)
  /-- A text is put in the row of a key behind its back. -/
  | edit (key text : String)

/-- What happened to a database since it was migrated, newest first. -/
abbrev Past := List Happening

namespace Past

/-- The text that was saved last under a key. -/
def lastSaved (key : String) : Past → Option String
  | [] => none
  | .access (.save other text) :: earlier =>
    if key = other then some text else lastSaved key earlier
  | .access (.load _) :: earlier => lastSaved key earlier
  | .edit .. :: earlier => lastSaved key earlier

/-- The text that stands under a key: the one that was saved last, or that of a later edit. -/
def standing (key : String) : Past → Option String
  | [] => none
  | .access (.save other text) :: earlier =>
    if key = other then some text else standing key earlier
  | .access (.load _) :: earlier => standing key earlier
  | .edit other text :: earlier =>
    if key = other then (standing key earlier).map fun _ => text else standing key earlier

/-- Whether nothing was edited under a key since it was saved last there. -/
def isUntouched (key : String) : Past → Bool
  | [] => true
  | .access (.save other _) :: earlier => key == other || isUntouched key earlier
  | .access (.load _) :: earlier => isUntouched key earlier
  | .edit other _ :: earlier => key != other && isUntouched key earlier

end Past

namespace Database

/-- The database after something happened to it. -/
def meet (database : Database) : Happening → Database
  | .access access => (access.serve database).2
  | .edit key text =>
    match database.edit key fun row => { row with text := text } with
    | .ok (next, _) => next
    | .error _ => database

/-- A database that was migrated, after some past. -/
def after : Past → Database
  | [] => migrate {}
  | happening :: earlier => (after earlier).meet happening

/-- Whether rows are what some past has left: in order, and under every key that was saved the text
that stands with the checksum of the last save. -/
structure Keeps (rows : List (String × Row)) (past : Past) : Prop where
  /-- The keys are in order. -/
  ordered : Keyed.Ordered rows
  /-- The rows are found under their keys. -/
  lookup_eq (key : String) : rows.lookup key =
    (past.lastSaved key).bind fun saved =>
      (past.standing key).map fun text => ⟨text, OrderPipeline.checksum saved⟩

namespace Keeps

variable {rows : List (String × Row)} {past : Past}

/-- A save puts its text with the checksum of it under its key. -/
theorem save (keeps : Keeps rows past) (key text : String) :
    Keeps (Keyed.insert key ⟨text, OrderPipeline.checksum text⟩ rows)
      (.access (.save key text) :: past) where
  ordered := keeps.ordered.insert key _
  lookup_eq wanted := by
    rw [Keyed.lookup_insert, Past.lastSaved, Past.standing]
    by_cases same : wanted = key
    · rw [if_pos same, if_pos same, if_pos same]
      rfl
    · rw [if_neg same, if_neg same, if_neg same]
      exact keeps.lookup_eq wanted

/-- An edit puts its text under its key, and leaves the checksum. -/
theorem edit (keeps : Keeps rows past) (key text : String) :
    Keeps (Keyed.modify key (fun row => { row with text := text }) rows)
      (.edit key text :: past) where
  ordered := keeps.ordered.modify key _
  lookup_eq wanted := by
    rw [Keyed.lookup_modify, Past.lastSaved, Past.standing, keeps.lookup_eq wanted]
    by_cases same : wanted = key
    · rw [if_pos same, if_pos same]
      cases past.lastSaved wanted with
      | none => rfl
      | some saved => cases past.standing wanted <;> rfl
    · rw [if_neg same, if_neg same]

end Keeps

/-- A database has the rows that its past has left. -/
theorem exists_keeps_after (past : Past) :
    ∃ rows, (after past).rows = some rows ∧ Keeps rows past := by
  induction past with
  | nil => exact ⟨[], rfl, List.Pairwise.nil, fun _ => rfl⟩
  | cons happening earlier ih =>
    obtain ⟨rows, there, keeps⟩ := ih
    cases happening with
    | access access =>
      cases access with
      | load key => exact ⟨rows, there, keeps.ordered, keeps.lookup_eq⟩
      | save key text =>
        have written : (after earlier).write key text =
            .ok ⟨some (Keyed.insert key ⟨text, OrderPipeline.checksum text⟩ rows)⟩ := by
          rw [write, there]
        refine ⟨_, ?_, keeps.save key text⟩
        simp only [after, meet, Access.serve, Backing.save, written]
    | edit key text =>
      refine ⟨_, ?_, keeps.edit key text⟩
      simp only [after, meet, Database.edit, there]

/-- A text stands under a key just if one was saved there. -/
theorem isSome_standing (past : Past) (key : String) :
    (past.standing key).isSome = (past.lastSaved key).isSome := by
  induction past with
  | nil => rfl
  | cons happening earlier ih =>
    cases happening with
    | access access =>
      cases access with
      | load other => exact ih
      | save other text =>
        rw [Past.standing, Past.lastSaved]
        split
        · rfl
        · exact ih
    | edit other text =>
      rw [Past.standing, Past.lastSaved, ← ih]
      split
      · exact Option.isSome_map
      · rfl

/-- Where nothing was edited since the last save, the text of that save stands. -/
theorem standing_of_isUntouched {past : Past} {key : String}
    (untouched : past.isUntouched key = true) : past.standing key = past.lastSaved key := by
  induction past with
  | nil => rfl
  | cons happening earlier ih =>
    cases happening with
    | access access =>
      cases access with
      | load other => exact ih untouched
      | save other text =>
        rw [Past.standing, Past.lastSaved]
        by_cases same : key = other
        · rw [if_pos same, if_pos same]
        · rw [if_neg same, if_neg same]
          exact ih (by simpa [Past.isUntouched, same] using untouched)
    | edit other text =>
      have apart : key ≠ other ∧ Past.isUntouched key earlier = true := by
        simpa [Past.isUntouched] using untouched
      rw [Past.standing, Past.lastSaved, if_neg apart.1]
      exact ih apart.2

/-- Where nothing was edited at all, nothing was edited since the last save. -/
theorem isUntouched_of_accesses {past : Past}
    (unedited : ∀ happening ∈ past, ∃ access, happening = .access access) (key : String) :
    past.isUntouched key = true := by
  induction past with
  | nil => rfl
  | cons happening earlier ih =>
    have rest := ih fun other member => unedited other (List.mem_cons_of_mem _ member)
    obtain ⟨access, rfl⟩ := unedited happening List.mem_cons_self
    cases access with
    | load other => exact rest
    | save other text => simp [Past.isUntouched, rest]

/-- A load gives out the text that stands when its checksum is that of the last save, and names the
key otherwise. -/
theorem read_after (past : Past) (key : String) :
    (after past).read key =
      if (past.standing key).map OrderPipeline.checksum =
          (past.lastSaved key).map OrderPipeline.checksum then .ok (past.standing key)
      else .error (.checksumMismatch key) := by
  obtain ⟨rows, there, keeps⟩ := exists_keeps_after past
  have both := isSome_standing past key
  simp only [read, there, keeps.lookup_eq key]
  cases saved : past.lastSaved key with
  | none =>
    rw [saved, Option.isSome_none, Option.isSome_eq_false_iff, Option.isNone_iff_eq_none] at both
    simp [both]
  | some saved =>
    rw [saved, Option.isSome_some, Option.isSome_iff_exists] at both
    obtain ⟨text, stands⟩ := both
    simp [stands]

/-- Whether a database with a table gives out what a shelf holds. -/
structure Mirrors (database : Database) (shelf : Shelf) : Prop where
  /-- There is a table. -/
  migrated : database.rows.isSome = true
  /-- What is read is what the shelf holds. -/
  read_eq (key : String) : database.read key = .ok (shelf.texts.lookup key)

/-- A database that mirrors a shelf answers as it does, and goes on mirroring it. -/
theorem Mirrors.serve {database : Database} {shelf : Shelf} (mirrors : database.Mirrors shelf)
    (access : Access) :
    (access.serve database).1 = (access.serve shelf).1 ∧
      (access.serve database).2.Mirrors (access.serve shelf).2 := by
  cases access with
  | load key => exact ⟨congrArg Answer.loaded (mirrors.read_eq key), mirrors⟩
  | save key text =>
    obtain ⟨rows, there⟩ := Option.isSome_iff_exists.1 mirrors.migrated
    have written : database.write key text =
        .ok ⟨some (Keyed.insert key ⟨text, OrderPipeline.checksum text⟩ rows)⟩ := by
      rw [write, there]
    simp only [Access.serve, Backing.save, written]
    refine ⟨trivial, rfl, fun wanted => ?_⟩
    rw [read_write written, Keyed.lookup_insert, mirrors.read_eq wanted]
    split <;> rfl

/-- A database that mirrors a shelf answers all that is asked as the shelf does. -/
theorem Mirrors.serveAll {database : Database} {shelf : Shelf} (mirrors : database.Mirrors shelf)
    (accesses : List Access) :
    (Access.serveAll database accesses).1 = (Access.serveAll shelf accesses).1 := by
  induction accesses generalizing database shelf with
  | nil => rfl
  | cons access rest ih =>
    obtain ⟨same, mirrors⟩ := mirrors.serve access
    show (access.serve database).1 :: (Access.serveAll (access.serve database).2 rest).1 =
      (access.serve shelf).1 :: (Access.serveAll (access.serve shelf).2 rest).1
    rw [same, ih mirrors]

/-- A database that serves accesses is left with them as its past. -/
theorem serveAll_after (past : Past) (accesses : List Access) :
    (Access.serveAll (after past) accesses).2 =
      after ((accesses.map .access).reverse ++ past) := by
  induction accesses generalizing past with
  | nil => rfl
  | cons access rest ih =>
    rw [Access.serveAll, List.map_cons, List.reverse_cons, List.append_assoc]
    exact ih (.access access :: past)

end Database

/-- (1) A database that was migrated answers loads and saves as a shelf does, and has exactly one
row for every key that was saved, with the text that was saved last and its checksum. When texts are
edited behind its back as well, (2) a load answers that the checksum under its key does not match
just when the text that stands there has another checksum than the one that was saved last, and
otherwise gives out the text that stands, which is the one that was saved last where nothing was
edited since; (3) an edit changes nothing that is read under other keys; and (4) a save always
succeeds, and its text is read afterwards. -/
theorem database_is_map_and_notices_edits :
    (∀ accesses : List Access,
      (Access.serveAll (Database.migrate {}) accesses).1 =
          (Access.serveAll ({} : Shelf) accesses).1 ∧
        ∃ rows, (Access.serveAll (Database.migrate {}) accesses).2.rows = some rows ∧
          (rows.map (·.1)).Nodup ∧
          ∀ key row, (key, row) ∈ rows ↔
            ∃ text, Past.lastSaved key (accesses.map .access).reverse = some text ∧
              row = ⟨text, checksum text⟩) ∧
    (∀ (past : Past) (key : String),
      (Backing.load (Database.after past) key).1 =
          (if (past.standing key).map checksum = (past.lastSaved key).map checksum then
            .ok (past.standing key)
          else .error (.checksumMismatch key)) ∧
        (past.isUntouched key = true → past.standing key = past.lastSaved key)) ∧
    (∀ (past : Past) (key text other : String), other ≠ key →
      (Backing.load (Database.after (.edit key text :: past)) other).1 =
        (Backing.load (Database.after past) other).1) ∧
    ∀ (past : Past) (key text : String),
      (Backing.save (Database.after past) key text).1 = .ok () ∧
        (Backing.load (Database.after (.access (.save key text) :: past)) key).1 =
          .ok (some text) := by
  refine ⟨fun accesses => ⟨?_, ?_⟩, fun past key => ⟨Database.read_after past key, ?_⟩,
    fun past key text other different => ?_, fun past key text => ⟨?_, ?_⟩⟩
  · exact Database.Mirrors.serveAll ⟨rfl, fun _ => rfl⟩ accesses
  · have left := Database.serveAll_after [] accesses
    rw [List.append_nil] at left
    obtain ⟨rows, there, keeps⟩ := Database.exists_keeps_after (accesses.map .access).reverse
    refine ⟨rows, left ▸ there, keeps.ordered.nodup, fun key row => ?_⟩
    have untouched : Past.isUntouched key (accesses.map .access).reverse = true := by
      refine Database.isUntouched_of_accesses (fun happening member => ?_) key
      obtain ⟨access, -, same⟩ := List.mem_map.1 (List.mem_reverse.1 member)
      exact ⟨access, same.symm⟩
    rw [← keeps.ordered.lookup_eq_some_iff, keeps.lookup_eq key,
      Database.standing_of_isUntouched untouched]
    cases Past.lastSaved key (accesses.map .access).reverse with
    | none => simp
    | some saved => simp [eq_comm]
  · exact Database.standing_of_isUntouched
  · have before := Database.read_after past other
    have after := Database.read_after (.edit key text :: past) other
    rw [Past.standing, Past.lastSaved, if_neg different, ← before] at after
    exact after
  · obtain ⟨rows, there, -⟩ := Database.exists_keeps_after past
    simp only [Backing.save, Database.write, there]
  · have after := Database.read_after (.access (.save key text) :: past) key
    rw [Past.standing, Past.lastSaved, if_pos rfl, if_pos rfl, if_pos rfl] at after
    exact after

end OrderPipeline
