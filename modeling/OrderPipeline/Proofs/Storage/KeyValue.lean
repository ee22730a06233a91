import OrderPipeline.Storage.Connection

/-!
# Places that keep what they are given

A place may fail at any access. It is a key-value store (`KeyValue`) when a load either gives out
what is stored under its key or fails, and a save either replaces that or fails and leaves
everything as it was. Shelves, databases and connections are key-value stores, and so is a place
that is out of order.
-/

namespace OrderPipeline

/-- A place in which every access does its work or fails and changes nothing that is stored. -/
class KeyValue (σ : Type) [Backing σ] where
  /-- The texts that are stored under the keys. -/
  contents : σ → (key : String) → Option String
  /-- A load that does not fail gives out what is stored. -/
  load_eq {place : σ} {key : String} {stored : Option String}
    (loaded : (Backing.load place key).1 = .ok stored) : stored = contents place key
  /-- A load leaves what is stored as it is. -/
  contents_load (place : σ) (key : String) :
    contents (Backing.load place key).2 = contents place
  /-- A save that does not fail replaces what is stored under its key, and nothing else. -/
  contents_save {place : σ} {key text : String} (saved : (Backing.save place key text).1 = .ok ())
    (other : String) : contents (Backing.save place key text).2 other =
      if other = key then some text else contents place other
  /-- A save that fails leaves what is stored as it is. -/
  contents_save_error {place : σ} {key text : String} {error : StorageError}
    (failed : (Backing.save place key text).1 = .error error) :
    contents (Backing.save place key text).2 = contents place

instance : KeyValue Shelf where
  contents shelf key := shelf.texts.lookup key
  load_eq loaded := (Except.ok.inj loaded).symm
  contents_load _ _ := rfl
  contents_save _ other := Keyed.lookup_insert _ other _ _
  contents_save_error failed := nomatch failed

instance : KeyValue OutOfOrder where
  contents _ _ := none
  load_eq loaded := nomatch loaded
  contents_load _ _ := rfl
  contents_save saved := nomatch saved
  contents_save_error _ := rfl

namespace Database

/-- The text in the row under a key, whether or not it fits its checksum. -/
def textAt (database : Database) (key : String) : Option String :=
  (database.rows.bind fun rows => rows.lookup key).map Row.text

/-- What is read under a key is the text in its row. -/
theorem textAt_of_read {database : Database} {key : String} {stored : Option String}
    (read : database.read key = .ok stored) : stored = database.textAt key := by
  obtain ⟨rows⟩ := database
  cases rows with
  | none => cases read
  | some rows =>
    simp only [Database.read] at read
    rw [textAt, Option.bind_some]
    cases found : rows.lookup key with
    | none =>
      rw [found] at read
      exact (Except.ok.inj read).symm
    | some row =>
      rw [found] at read
      simp only at read
      split at read
      · exact (Except.ok.inj read).symm
      · cases read

/-- A write replaces the text in the row under its key, and no other. -/
theorem textAt_of_write {database next : Database} {key text : String}
    (written : database.write key text = .ok next) (other : String) :
    next.textAt other = if other = key then some text else database.textAt other := by
  obtain ⟨rows⟩ := database
  cases rows with
  | none => cases written
  | some rows =>
    cases written
    rw [textAt, textAt, Option.bind_some, Option.bind_some, Keyed.lookup_insert]
    split <;> rfl

end Database

instance : KeyValue Database where
  contents := Database.textAt
  load_eq loaded := Database.textAt_of_read loaded
  contents_load _ _ := rfl
  contents_save {place key text} saved other := by
    simp only [Backing.save] at saved ⊢
    cases written : place.write key text with
    | ok next => exact Database.textAt_of_write written other
    | error error =>
      rw [written] at saved
      cases saved
  contents_save_error {place key text error} failed := by
    simp only [Backing.save] at failed ⊢
    cases written : place.write key text with
    | ok next =>
      rw [written] at failed
      cases failed
    | error error => rfl

/-- A connection that may be changed is saved to as its database is. -/
theorem Connection.save_of_writable {connection : Connection}
    (writable : ¬connection.readOnly = true) (key text : String) :
    Backing.save connection key text =
      ((Backing.save connection.database key text).1,
        { connection with database := (Backing.save connection.database key text).2 }) := by
  simp only [Backing.save, if_neg writable]
  cases connection.database.write key text <;> rfl

/-- A connection that must not be changed stays as it is. -/
theorem Connection.save_of_readOnly {connection : Connection}
    (readOnly : connection.readOnly = true) (key text : String) :
    Backing.save connection key text = (.error (.database refusal), connection) := if_pos readOnly

instance : KeyValue Connection where
  contents connection := connection.database.textAt
  load_eq loaded := Database.textAt_of_read loaded
  contents_load _ _ := rfl
  contents_save {place key text} saved other := by
    by_cases readOnly : place.readOnly = true
    · rw [Connection.save_of_readOnly readOnly] at saved
      cases saved
    · rw [Connection.save_of_writable readOnly] at saved ⊢
      exact KeyValue.contents_save saved other
  contents_save_error {place key text error} failed := by
    by_cases readOnly : place.readOnly = true
    · rw [Connection.save_of_readOnly readOnly]
    · rw [Connection.save_of_writable readOnly] at failed ⊢
      exact KeyValue.contents_save_error failed

end OrderPipeline
