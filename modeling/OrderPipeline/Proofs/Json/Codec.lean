import OrderPipeline.Json.Decode
import OrderPipeline.Keyed
import OrderPipeline.Proofs.Calendar.Text
import OrderPipeline.Proofs.Json.Written
import OrderPipeline.Proofs.Number.DecimalText

/-!
# Encoders and their decoders

`Codec room encode decode` says that the decoder reads every encoded value back, in whichever tree
it is shown, and that an encoded value takes up no more than some room. Codecs of records are put
together from those of their fields: a tree that shows an object is seen as a record without flaw
that has the fields of the object (`asFields_of_shows`, `Fields.Shows`).

* `Codec.decode_text` — what is written by a codec is read back from its text.
-/

namespace OrderPipeline.Json

/-- An encoder with a decoder that undoes it. -/
structure Codec {α : Type} (room : Nat) (encode : α → Json) (decode : Decoder α) : Prop where
  /-- Encoded values can be read back. -/
  fits (value : α) : (encode value).Fits room
  /-- No encoded value is taken for an absent one. -/
  ne_null (value : α) : encode value ≠ .null
  /-- A value is read back from every tree that shows it. -/
  decode_of_shows {value : α} {node : Node} (shown : node.Shows (encode value)) :
    decode node = .ok value

namespace Codec

variable {α : Type} {room : Nat} {encode : α → Json} {decode : Decoder α}

/-- More room does no harm. -/
theorem mono (codec : Codec room encode decode) {wider : Nat} (le : room ≤ wider) :
    Codec wider encode decode where
  fits value := (codec.fits value).mono le
  ne_null := codec.ne_null
  decode_of_shows := codec.decode_of_shows

/-- What was written as a text is read back from it. -/
theorem decode_text (codec : Codec room encode decode) (shallow : room ≤ depthLimit) (value : α) :
    (Document.ofText (encode value).text).decode decode = .ok value := by
  obtain ⟨root, read, shown⟩ := Document.ofText_text (codec.fits value) shallow
  rw [read, Document.decode, codec.decode_of_shows shown]
  rfl

/-! ## Single values -/

theorem string : Codec 0 Json.string Node.asString where
  fits text := .string text
  ne_null _ := nofun
  decode_of_shows shown := by
    cases shown
    rfl

theorem bool : Codec 0 Json.bool Node.asBool where
  fits value := .bool value
  ne_null _ := nofun
  decode_of_shows shown := by
    cases shown
    rfl

/-- A value that is written as a string and read by a reader of its own. -/
theorem read {text : α → String} {read : String → Except CalendarFault α} {expected : String}
    (read_text : ∀ value, read (text value) = .ok value) :
    Codec 0 (fun value => .string (text value)) (Node.asRead read expected) where
  fits value := .string (text value)
  ne_null _ := nofun
  decode_of_shows {value node} shown := by
    cases shown
    rw [Node.asRead, read_text]

theorem date : Codec 0 (fun date : Date => .string date.text) Node.asDate := read Date.ofStored_text

theorem instant : Codec 0 (fun time : Instant => .string time.text) Node.asInstant :=
  read Instant.ofStored_text

theorem decimal : Codec 0 (fun d : Decimal => .string d.text) Node.asDecimal where
  fits d := .string d.text
  ne_null _ := nofun
  decode_of_shows shown := by
    cases shown
    rw [Node.asDecimal, Decimal.read?_text]

/-- A choice that is written as its name, when the name stands for it. -/
theorem choice {name : α → String} {choices : List (String × α)}
    (lookup_name : ∀ value, choices.lookup (name value) = some value) (listed : List String)
    (kept : Bool) :
    Codec 0 (fun value => .string (name value)) (Node.asChoice choices listed kept) where
  fits value := .string (name value)
  ne_null _ := nofun
  decode_of_shows shown := by
    cases shown
    simp only [Node.asChoice, Node.choose, bind, Except.bind, lookup_name]

theorem asBounded_of_shows {limit n : Nat} {node : Node} {expected : String} (small : n < limit)
    (shown : node.Shows (count n)) : node.asBounded limit expected = .ok ⟨n, small⟩ := by
  cases shown
  have found : below? limit n = some ⟨n, small⟩ := below?_eq_some_iff.2 rfl
  rw [Node.asBounded, found]

theorem word32 : Codec 0 (fun n : UInt32 => count n.toNat) Node.asWord32 where
  fits n := .whole (Nat.lt_trans n.toNat_lt (by decide))
  ne_null _ := nofun
  decode_of_shows {n _} shown := by
    rw [Node.asWord32, asBounded_of_shows n.toNat_lt shown]
    rfl

theorem word8 : Codec 0 (fun n : UInt8 => count n.toNat) Node.asWord8 where
  fits n := .whole (Nat.lt_trans n.toNat_lt (by decide))
  ne_null _ := nofun
  decode_of_shows {n _} shown := by
    rw [Node.asWord8, asBounded_of_shows n.toNat_lt shown]
    rfl

/-! ## Lists -/

/-- Values are read from trees that show them one by one. -/
theorem decodeAll_of_shows (codec : Codec room encode decode) {values : List α}
    {nodes : List Node} (shown : List.Forall₂ Node.Shows nodes (values.map encode)) :
    Node.decodeAll decode nodes = .ok values := by
  induction values generalizing nodes with
  | nil =>
    cases shown
    rfl
  | cons value values ih =>
    cases shown with
    | cons first rest =>
      rw [Node.decodeAll, codec.decode_of_shows first, ih rest]
      rfl

/-- A list of values. -/
theorem list (codec : Codec room encode decode) :
    Codec (room + 1) (fun values : List α => .array (values.map encode)) (Node.asList decode) where
  fits values := .array fun item member => by
    obtain ⟨value, -, rfl⟩ := List.mem_map.1 member
    exact codec.fits value
  ne_null _ := nofun
  decode_of_shows shown := by
    cases shown with
    | array _ shown => rw [Node.asList, codec.decodeAll_of_shows shown]

end Codec

end OrderPipeline.Json
