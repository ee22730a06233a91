import OrderPipeline.Proofs.Json.Codec

/-!
# Records and their fields

An object is written from slots, names with values that may be absent (`filled`); what is found
under a name is the value in its slot (`lookup_filled`). A tree that shows an object is a record
without flaw, which has under each known name what the object has there (`Fields.Shows`,
`asFields_of_shows`), so its fields are read by their codecs (`Fields.Shows.required`,
`Fields.Shows.optional`, `Fields.Shows.withDefault`).
-/

namespace OrderPipeline.Json

/-! ## Slots -/

/-- The fields of an object: the slots that hold a value. -/
def filled (slots : List (String × Option Json)) : List (String × Json) :=
  slots.filterMap fun slot => slot.2.map fun value => (slot.1, value)

theorem keys_filled (slots : List (String × Option Json)) :
    ((filled slots).map (·.1)).Sublist (slots.map (·.1)) := by
  induction slots with
  | nil => exact List.Sublist.slnil
  | cons slot slots ih =>
    obtain ⟨name, value⟩ := slot
    cases value with
    | none => exact ih.cons name
    | some value => exact ih.cons_cons name

/-- The fields of an object fit where the values in its slots do. -/
theorem fits_filled {room : Nat} {slots : List (String × Option Json)}
    (each : ∀ slot ∈ slots, ∀ value, slot.2 = some value → value.Fits room) :
    ∀ entry ∈ filled slots, entry.2.Fits room := by
  intro entry member
  obtain ⟨slot, among, written⟩ := List.mem_filterMap.1 member
  obtain ⟨value, held, rfl⟩ := Option.map_eq_some_iff.1 written
  exact each slot among value held

/-- Under a name the value in its slot is found. -/
theorem lookup_filled {slots : List (String × Option Json)}
    (distinct : (slots.map (·.1)).Nodup) (name : String) :
    (filled slots).lookup name = (slots.lookup name).join := by
  induction slots with
  | nil => rfl
  | cons slot slots ih =>
    obtain ⟨key, value⟩ := slot
    rw [List.map_cons, List.nodup_cons] at distinct
    have rest := ih distinct.2
    rw [Keyed.lookup_entry]
    cases value with
    | none =>
      change (filled slots).lookup name = _
      split
      -- the slot is empty, and no later one has its name
      · next same =>
        subst same
        refine List.lookup_eq_none_iff.2 ?_
        intro entry member
        rw [bne_iff_ne]
        rintro rfl
        exact distinct.1 ((keys_filled slots).subset (List.mem_map.2 ⟨entry, member, rfl⟩))
      · exact rest
    | some value =>
      change ((key, value) :: filled slots).lookup name = _
      rw [Keyed.lookup_entry, rest]
      split <;> rfl

/-- A name is looked up among the entries whose names pass a test that it passes. -/
theorem lookup_filter {α : Type} (test : String → Bool) {name : String} (passes : test name = true)
    (entries : List (String × α)) :
    (entries.filter fun entry => test entry.1).lookup name = entries.lookup name := by
  induction entries with
  | nil => rfl
  | cons entry entries ih =>
    obtain ⟨key, value⟩ := entry
    rw [Keyed.lookup_entry, List.filter_cons]
    split
    · rw [Keyed.lookup_entry, ih]
    -- an entry that is dropped has another name
    · next failed =>
      have other : name ≠ key := by
        rintro rfl
        exact failed passes
      rw [if_neg other, ih]

/-! ## Fields as they stand in a text -/

/-- Under each name a tree is found that shows what the object has there. -/
theorem lookup_namedEntries {fields : List (Name × Node)} {entries : List (String × Json)}
    (shown : List.Forall₂ EntryShows fields entries) (name : String) :
    Option.Rel Node.Shows ((namedEntries fields).lookup name) (entries.lookup name) := by
  induction shown with
  | nil => exact .none
  | cons first _ ih =>
    obtain ⟨named, value⟩ := first
    simp only [namedEntries, List.filterMap_cons, named]
    rw [Keyed.lookup_entry, Keyed.lookup_entry]
    split
    · exact .some value
    · exact ih

/-- Fields with distinct names have no structural fault when there is none in the values that are
not known. -/
theorem entriesFlaw_eq_none (check : Node → Option Fault) (known : List String)
    {seen : List String} {fields : List (Name × Node)} {entries : List (String × Json)}
    (shown : List.Forall₂ EntryShows fields entries) (distinct : (entries.map (·.1)).Nodup)
    (fresh : ∀ entry ∈ entries, entry.1 ∉ seen)
    (passed : ∀ entry ∈ entries, entry.1 ∉ known → ∀ node : Node, node.Shows entry.2 →
      check node = none) :
    entriesFlaw check known seen fields = none := by
  -- on the fields, while the known names that were seen grow
  induction shown generalizing seen with
  | nil => rfl
  | @cons _ entry _ entries first _ ih =>
    obtain ⟨named, value⟩ := first
    rw [List.map_cons, List.nodup_cons] at distinct
    have later := fun entry member => passed entry (List.mem_cons_of_mem _ member)
    rw [entriesFlaw]
    simp only [named, if_neg (fresh _ List.mem_cons_self)]
    split
    · refine ih distinct.2 ?_ later
      intro entry member seen
      rcases List.mem_cons.1 seen with same | seen
      · exact distinct.1 (List.mem_map.2 ⟨entry, member, same⟩)
      · exact fresh entry (List.mem_cons_of_mem _ member) seen
    -- the value of an unknown field is checked, and its name may come again
    · next unknown =>
      rw [passed _ List.mem_cons_self unknown _ value, Option.none_or]
      exact ih distinct.2 (fun entry member => fresh entry (List.mem_cons_of_mem _ member)) later

/-! ## Records -/

/-- A tree of the absent value would be read as if nothing had been written; any other is read. -/
theorem Node.asOption_of_shows {α : Type} {decode : Decoder α} {node : Node} {value : Json}
    (shown : node.Shows value) (present : value ≠ .null) :
    node.asOption decode = (decode node).map some := by
  cases node with
  | null span =>
    cases shown
    exact absurd rfl present
  | broken | bool | number | string | array | object => rfl

/-- Whether a record has no flaw, and under each of some names what an object has there. -/
structure Fields.Shows (fields : Fields) (names : List String) (entries : List (String × Json)) :
    Prop where
  /-- The record is well formed. -/
  flawless : fields.flaw = none
  /-- Under each name a tree is found that shows what the object has there. -/
  lookup : ∀ name ∈ names,
    Option.Rel Node.Shows (fields.given.lookup name) (entries.lookup name)

namespace Fields.Shows

variable {α : Type} {room : Nat} {encode : α → Json} {decode : Decoder α} {fields : Fields}
  {names : List String} {entries : List (String × Json)}

/-- Reading the record does not stop before its fields. -/
theorem begin (shows : fields.Shows names entries) (value : α) :
    fields.begin value = .ok value := by
  rw [Fields.begin, shows.flawless]

/-- Where the object has a value, a tree is found that shows it. -/
theorem given_eq_some (shows : fields.Shows names entries) {name : String} {value : Json}
    (known : name ∈ names) (written : entries.lookup name = some value) :
    ∃ node : Node, fields.given.lookup name = some node ∧ node.Shows value := by
  have found := shows.lookup name known
  rw [written] at found
  generalize fields.given.lookup name = given at found ⊢
  cases found with
  | some shown => exact ⟨_, rfl, shown⟩

/-- Where the object has no value, nothing is found. -/
theorem given_eq_none (shows : fields.Shows names entries) {name : String}
    (known : name ∈ names) (written : entries.lookup name = none) :
    fields.given.lookup name = none := by
  have found := shows.lookup name known
  rw [written] at found
  generalize fields.given.lookup name = given at found ⊢
  cases found
  rfl

/-- A field that was written is read. -/
theorem required (shows : fields.Shows names entries) (codec : Codec room encode decode)
    {name : String} {value : α} (known : name ∈ names)
    (written : entries.lookup name = some (encode value)) :
    fields.required name decode = .ok value := by
  obtain ⟨node, given, shown⟩ := shows.given_eq_some known written
  rw [Fields.required, given]
  exact codec.decode_of_shows shown

/-- A field that was written is read in place of the default. -/
theorem withDefault (shows : fields.Shows names entries) (codec : Codec room encode decode)
    {name : String} {value : α} (default : α) (known : name ∈ names)
    (written : entries.lookup name = some (encode value)) :
    fields.withDefault name default decode = .ok value := by
  obtain ⟨node, given, shown⟩ := shows.given_eq_some known written
  rw [Fields.withDefault, given]
  exact codec.decode_of_shows shown

/-- A field that may be absent is read as it was written. -/
theorem optional (shows : fields.Shows names entries) (codec : Codec room encode decode)
    {name : String} {value : Option α} (known : name ∈ names)
    (written : entries.lookup name = value.map encode) :
    fields.optional name decode = .ok value := by
  cases value with
  | none => rw [Fields.optional, shows.given_eq_none known written]
  | some value =>
    obtain ⟨node, given, shown⟩ := shows.given_eq_some known written
    rw [Fields.optional, given]
    change node.asOption decode = _
    rw [Node.asOption_of_shows shown (codec.ne_null value), codec.decode_of_shows shown]
    rfl

end Fields.Shows

/-- The known fields of an object, as they stand in a text, are a record that shows it. -/
theorem Fields.Shows.of_entries {check : Node → Option Fault} {known : List String}
    {fields : List (Name × Node)} {entries : List (String × Json)}
    (shown : List.Forall₂ EntryShows fields entries) (distinct : (entries.map (·.1)).Nodup)
    (passed : ∀ entry ∈ entries, entry.1 ∉ known → ∀ node : Node, node.Shows entry.2 →
      check node = none) (absent : String → Fault) :
    Fields.Shows ⟨(namedEntries fields).filter fun entry => entry.1 ∈ known,
      entriesFlaw check known [] fields, absent⟩ known entries where
  flawless := entriesFlaw_eq_none check known shown distinct (fun _ _ => List.not_mem_nil) passed
  lookup name member := by
    rw [lookup_filter (fun text => decide (text ∈ known)) (decide_eq_true member)]
    exact lookup_namedEntries shown name

/-- A tree that shows an object with known fields is seen as a record that shows it. -/
theorem asFields_of_shows {node : Node} {entries : List (String × Json)} (record : String)
    {known : List String} (shown : node.Shows (.object entries))
    (distinct : (entries.map (·.1)).Nodup) (among : ∀ name ∈ entries.map (·.1), name ∈ known) :
    ∃ fields, node.asFields record known = .ok fields ∧ fields.Shows known entries := by
  cases shown with
  | object _ shown =>
    refine ⟨_, rfl, .of_entries shown distinct (fun entry member unknown => ?_) _⟩
    exact absurd (among entry.1 (List.mem_map.2 ⟨entry, member, rfl⟩)) unknown

/-- A tree that shows an object with just the known fields is seen as a record that shows it. -/
theorem asFields_of_keys {node : Node} {entries : List (String × Json)} (record : String)
    (known : List String) (shown : node.Shows (.object entries))
    (keys : entries.map (·.1) = known) (distinct : known.Nodup) :
    ∃ fields, node.asFields record known = .ok fields ∧ fields.Shows known entries :=
  asFields_of_shows record shown (keys ▸ distinct) fun _ member => keys ▸ member

end OrderPipeline.Json
