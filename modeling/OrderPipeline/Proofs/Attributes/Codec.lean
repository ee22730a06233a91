import OrderPipeline.Attributes.Basic
import OrderPipeline.Proofs.Json.Record
import Mathlib.Data.List.Nodup

/-!
# Attributes are read as they were written

Each kind of values has its codec (`ValueType.codec`). A record of attributes has a slot for every
attribute, under a name of its own (`Attribute.name_injective`), and is read back from its slots
alone (`Attributes.decodeFields_of_shows`), so that they may also stand beside other fields.
-/

namespace OrderPipeline

open Json (Codec)

/-! ## Values -/

theorem FileRef.codec : Codec 1 FileRef.toJson FileRef.decode where
  fits file := .object fun entry member => by
    rcases List.mem_pair.1 member with rfl | rfl <;> exact .string _
  ne_null _ := nofun
  decode_of_shows {file node} shown := by
    obtain ⟨fields, seen, shows⟩ :=
      Json.asFields_of_keys "FileRef" ["name", "url"] shown rfl (by decide)
    have name : fields.required "name" Json.Node.asString = .ok file.name :=
      shows.required Codec.string (by decide) rfl
    have url : fields.required "url" Json.Node.asString = .ok file.url :=
      shows.required Codec.string (by decide) rfl
    simp only [FileRef.decode, seen, bind, Except.bind, shows.begin, name, url, Json.both_ok]

/-- Every kind of values is read as it was written. -/
theorem ValueType.codec (kept : Bool) (type : ValueType) :
    Codec 2 type.encode (type.decode kept) := by
  cases type with
  | text => exact Codec.string.mono (by decide)
  | date => exact Codec.date.mono (by decide)
  | followupStatus =>
    exact (Codec.choice (fun value => by cases value <;> rfl) _ kept).mono (by decide)
  | yesNo => exact (Codec.choice (fun value => by cases value <;> rfl) _ kept).mono (by decide)
  | timeSlot => exact (Codec.choice (fun value => by cases value <;> rfl) _ kept).mono (by decide)
  | installStatus =>
    exact (Codec.choice (fun value => by cases value <;> rfl) _ kept).mono (by decide)
  | paymentMode =>
    exact (Codec.choice (fun value => by cases value <;> rfl) _ kept).mono (by decide)
  | quantity => exact Codec.word32.mono (by decide)
  | percentage => exact Codec.word8.mono (by decide)
  | stars => exact Codec.word8.mono (by decide)
  | flag => exact Codec.bool.mono (by decide)
  | amount => exact Codec.decimal.mono (by decide)
  | files => exact FileRef.codec.list

/-! ## Records of attributes -/

/-- An attribute is found by its name. -/
@[simp] theorem Attribute.ofName?_name (field : Attribute) : ofName? field.name = some field := by
  cases field <;> decide

/-- No two attributes have the same name. -/
theorem Attribute.name_injective : Function.Injective Attribute.name := by
  intro left right same
  have found := ofName?_name left
  rw [same, ofName?_name] at found
  exact (Option.some.inj found).symm

theorem Attribute.nodup_names : (all.map name).Nodup :=
  List.Nodup.map name_injective (by decide)

namespace Attributes

/-- The slots of a record: one for each attribute. -/
def slots (attributes : Attributes) : List (String × Option Json) :=
  Attribute.all.map fun field => (field.name, (attributes.get field).map field.type.encode)

theorem toEntries_eq_filled (attributes : Attributes) :
    attributes.toEntries = Json.filled attributes.slots := by
  rw [toEntries, Json.filled, slots, List.filterMap_map]
  congr 1
  funext field
  rw [Function.comp_apply, Option.map_map]
  rfl

@[simp] theorem keys_slots (attributes : Attributes) :
    attributes.slots.map (·.1) = Attribute.all.map Attribute.name := by
  rw [slots, List.map_map]
  rfl

/-- Under the name of an attribute its value is found. -/
theorem lookup_slots (attributes : Attributes) (field : Attribute) :
    attributes.slots.lookup field.name =
      some ((attributes.get field).map field.type.encode) := by
  -- the induction is on any list of attributes that has this one, for `all` has no shorter tail
  have among : ∀ fields : List Attribute, field ∈ fields →
      (fields.map fun field => (field.name, (attributes.get field).map field.type.encode)).lookup
        field.name = some ((attributes.get field).map field.type.encode) := by
    intro fields member
    induction fields with
    | nil => cases member
    | cons first fields ih =>
      rw [List.map_cons, Keyed.lookup_entry]
      split
      · next same => rw [Attribute.name_injective same]
      · next other =>
        rcases List.mem_cons.1 member with rfl | later
        · exact absurd rfl other
        · exact ih later
  exact among Attribute.all (Attribute.mem_all field)

/-- Attributes are read from a record without flaw in which each of them is read. -/
theorem decodeFields_of_read {kept : Bool} {fields : Json.Fields} {attributes : Attributes}
    (flawless : fields.flaw = none)
    (read : ∀ field : Attribute,
      fields.optional field.name (field.type.decode kept) = .ok (attributes.get field)) :
    decodeFields kept fields = .ok attributes := by
  -- no attribute adds a fault to the record's, of which there is none
  have sound : Attribute.all.foldl (fun first field => Json.earlier first
      (Json.faultOf (fields.optional field.name (field.type.decode kept)))) fields.flaw = none := by
    rw [flawless]
    refine List.foldl_fixed' (fun field => ?_) Attribute.all
    rw [read]
    rfl
  have value : (ofValues fun field =>
      (fields.optional field.name (field.type.decode kept)).toOption.join) = attributes := by
    refine ext_get fun field => ?_
    rw [get_ofValues, read]
    rfl
  unfold decodeFields
  extract_lets reading fault
  change fault = none at sound
  rw [sound]
  exact congrArg Except.ok value

/-- Attributes are read from fields that have under each name what was written there. -/
theorem decodeFields_of_shows (kept : Bool) (attributes : Attributes) {fields : Json.Fields}
    {entries : List (String × Json)}
    (shows : fields.Shows (Attribute.all.map Attribute.name) entries)
    (written : ∀ field : Attribute,
      entries.lookup field.name = (attributes.get field).map field.type.encode) :
    decodeFields kept fields = .ok attributes :=
  decodeFields_of_read shows.flawless fun field =>
    shows.optional (field.type.codec kept) (List.mem_map_of_mem (Attribute.mem_all field))
      (written field)

theorem nodup_keys_slots (attributes : Attributes) : (attributes.slots.map (·.1)).Nodup := by
  rw [keys_slots]
  exact Attribute.nodup_names

theorem fits_slots (attributes : Attributes) :
    ∀ slot ∈ attributes.slots, ∀ value, slot.2 = some value → value.Fits 2 := by
  intro slot member value held
  obtain ⟨field, -, rfl⟩ := List.mem_map.1 member
  obtain ⟨value, -, rfl⟩ := Option.map_eq_some_iff.1 held
  exact (field.type.codec true).fits value

/-- A record of attributes is read as it was written, whatever is set in it. -/
theorem codec (kept : Bool) : Codec 3 Attributes.toJson (Attributes.decode kept) where
  fits attributes := by
    rw [toJson, toEntries_eq_filled]
    exact .object (Json.fits_filled attributes.fits_slots)
  ne_null _ := nofun
  decode_of_shows {attributes node} shown := by
    rw [toJson, toEntries_eq_filled] at shown
    have keys := Json.keys_filled attributes.slots
    obtain ⟨fields, seen, shows⟩ := Json.asFields_of_shows "ItemAttributes" shown
      (attributes.nodup_keys_slots.sublist keys)
      (fun name member => attributes.keys_slots ▸ keys.subset member)
    have read := attributes.decodeFields_of_shows kept shows fun field => by
      rw [Json.lookup_filled attributes.nodup_keys_slots, lookup_slots, Option.join_some]
    simp only [decode, seen, bind, Except.bind, read]

end Attributes

end OrderPipeline
