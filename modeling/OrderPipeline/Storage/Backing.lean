import OrderPipeline.Keyed

/-!
# Places to keep texts

A `Backing` keeps texts under keys. Every access may fail, and may change the place: a place that
fails now and then remembers how often it was asked. `Shelf` never fails, `OutOfOrder` always does.
-/

namespace OrderPipeline

/-- Why a place could not be read or written. -/
inductive StorageError where
  /-- The database reports a problem. -/
  | database (reason : String)
  /-- What is stored cannot be made out. -/
  | undecodable (reason : String)
  /-- A stored text is not the one that was stored. -/
  | checksumMismatch (key : String)
  deriving DecidableEq

/-- The text of an error. -/
def StorageError.message : StorageError → String
  | database reason => "database error: " ++ reason
  | undecodable reason => "decode error: " ++ reason
  | checksumMismatch key => "stored blob for `" ++ key ++ "` does not match its checksum"

/-- A place where texts are kept under keys. -/
class Backing (σ : Type) where
  /-- Reads the text under a key. -/
  load : σ → (key : String) → Except StorageError (Option String) × σ
  /-- Puts a text under a key. -/
  save : σ → (key text : String) → Except StorageError Unit × σ

/-- A place that never fails. -/
structure Shelf where
  /-- The texts under their keys. -/
  texts : List (String × String) := []
  deriving DecidableEq, Inhabited

instance : Backing Shelf where
  load shelf key := (.ok (shelf.texts.lookup key), shelf)
  save shelf key text := (.ok (), ⟨Keyed.insert key text shelf.texts⟩)

/-- A place that cannot be reached. -/
structure OutOfOrder where
  deriving DecidableEq, Inhabited

instance : Backing OutOfOrder where
  load place _ := (.error (.undecodable "disk unavailable"), place)
  save place _ _ := (.error (.undecodable "disk full"), place)

end OrderPipeline
