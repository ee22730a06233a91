import OrderPipeline.Tracker
import OrderPipeline.Proofs.Attributes.Codec

/-!
# Orders and trackers are read as they were written

An order is written as one object, its own fields and its attributes side by side. Both have names
of their own (`Item.nodup_keys_slots`), so that neither reader finds a field of the other, and the
order is read back (`Item.codec`), as are the logs in it, the feed, and the tracker as a whole
(`Tracker.codec`).
-/

namespace OrderPipeline

open Json (Codec)

theorem Stage.lookup_name (stage : Stage) :
    (all.map fun stage => (stage.name, stage)).lookup stage.name = some stage := by
  cases stage <;> rfl

theorem Stage.codec (kept : Bool) : Codec 0 Stage.toJson (Stage.decode kept) :=
  Codec.choice Stage.lookup_name _ kept

theorem StageLog.codec (kept : Bool) : Codec 4 StageLog.toJson (StageLog.decode kept) where
  fits log := .object fun entry member => by
    simp only [List.mem_cons, List.not_mem_nil, or_false] at member
    rcases member with rfl | rfl | rfl
    · exact ((Stage.codec kept).fits log.stage).mono (by decide)
    · exact .string _
    · exact (Attributes.codec kept).fits log.data
  ne_null _ := nofun
  decode_of_shows {log node} shown := by
    obtain ⟨fields, seen, shows⟩ := Json.asFields_of_keys "StageLog" ["stage", "timestamp", "data"]
      shown rfl (by decide)
    have stage : fields.required "stage" (Stage.decode kept) = .ok log.stage :=
      shows.required (Stage.codec kept) (by decide) rfl
    have time : fields.required "timestamp" Json.Node.asInstant = .ok log.time :=
      shows.required Codec.instant (by decide) rfl
    have data : fields.required "data" (Attributes.decode kept) = .ok log.data :=
      shows.required (Attributes.codec kept) (by decide) rfl
    simp only [decode, seen, bind, Except.bind, shows.begin, stage, time, data, Json.both_ok]

theorem ActivityEntry.codec : Codec 1 ActivityEntry.toJson ActivityEntry.decode where
  fits entry := .object fun field member => by
    simp only [List.mem_cons, List.not_mem_nil, or_false] at member
    rcases member with rfl | rfl | rfl | rfl <;> exact .string _
  ne_null _ := nofun
  decode_of_shows {entry node} shown := by
    obtain ⟨fields, seen, shows⟩ := Json.asFields_of_keys "ActivityEntry"
      ["customerName", "action", "stage", "timestamp"] shown rfl (by decide)
    have customerName : fields.required "customerName" Json.Node.asString =
        .ok entry.customerName :=
      shows.required Codec.string (by decide) rfl
    have action : fields.required "action" Json.Node.asString = .ok entry.action :=
      shows.required Codec.string (by decide) rfl
    have stage : fields.required "stage" Json.Node.asString = .ok entry.stage :=
      shows.required Codec.string (by decide) rfl
    have time : fields.required "timestamp" Json.Node.asInstant = .ok entry.time :=
      shows.required Codec.instant (by decide) rfl
    simp only [decode, seen, bind, Except.bind, shows.begin, customerName, action, stage, time,
      Json.both_ok]

theorem ActivityFeed.codec : Codec 2 ActivityFeed.toJson ActivityFeed.decode where
  fits feed := ActivityEntry.codec.list.fits feed.entries
  ne_null _ := nofun
  decode_of_shows {feed node} shown := by
    have entries : Json.Node.asList ActivityEntry.decode node = .ok feed.entries :=
      ActivityEntry.codec.list.decode_of_shows shown
    rw [decode, entries]
    rfl

/-! ## Orders -/

namespace Item

/-- The slots of an order's own fields. -/
def ownSlots (item : Item) : List (String × Option Json) :=
  [("id", some (.string item.id.text)), ("customerName", some (.string item.customerName)),
    ("phone", some (.string item.phone)), ("siteLocation", some (.string item.siteLocation)),
    ("requirement", item.requirement.map .string),
    ("quotationAmount", item.quotationAmount.map fun amount => .string amount.text),
    ("expectedDeliveryDate", item.expectedDeliveryDate.map fun date => .string date.text),
    ("currentStage", some item.stage.toJson),
    ("stageLogs", some (.array (item.logs.map StageLog.toJson)))]

/-- The slots of an order: its own, and beside them those of its attributes. -/
def slots (item : Item) : List (String × Option Json) := item.ownSlots ++ item.attributes.slots

theorem toEntries_eq_filled (item : Item) : item.toEntries = Json.filled item.slots := by
  rw [toEntries, item.attributes.toEntries_eq_filled, slots, Json.filled, Json.filled,
    List.filterMap_append]
  rfl

@[simp] theorem keys_ownSlots (item : Item) : item.ownSlots.map (·.1) = ownNames := rfl

/-- No attribute has the name of an order's own field. -/
theorem name_not_mem_ownNames (field : Attribute) : field.name ∉ ownNames := by
  cases field <;> decide

/-- No two slots of an order have the same name. -/
theorem nodup_keys_slots (item : Item) : (item.slots.map (·.1)).Nodup := by
  rw [slots, List.map_append, keys_ownSlots, Attributes.keys_slots]
  -- neither half has a name twice, and they share none
  refine List.nodup_append.2 ⟨by decide, Attribute.nodup_names, ?_⟩
  intro name own other member
  obtain ⟨field, -, rfl⟩ := List.mem_map.1 member
  rintro rfl
  exact name_not_mem_ownNames field own

/-- Under a name of its own an order has what its own slot holds. -/
theorem lookup_own (item : Item) {name : String} {value : Option Json}
    (slot : item.ownSlots.lookup name = some value) : item.toEntries.lookup name = value := by
  rw [toEntries_eq_filled, Json.lookup_filled item.nodup_keys_slots, slots, List.lookup_append,
    slot, Option.some_or, Option.join_some]

/-- Under the name of an attribute an order has the value of the attribute. -/
theorem lookup_attribute (item : Item) (field : Attribute) :
    item.toEntries.lookup field.name =
      (item.attributes.get field).map field.type.encode := by
  have absent : item.ownSlots.lookup field.name = none := by
    refine List.lookup_eq_none_iff.2 fun slot member => ?_
    rw [bne_iff_ne]
    intro same
    exact name_not_mem_ownNames field (List.mem_map.2 ⟨slot, member, same.symm⟩)
  rw [toEntries_eq_filled, Json.lookup_filled item.nodup_keys_slots, slots, List.lookup_append,
    absent, Option.none_or, Attributes.lookup_slots, Option.join_some]

theorem fits_toEntries (item : Item) : ∀ entry ∈ item.toEntries, entry.2.Fits 5 := by
  rw [toEntries_eq_filled]
  refine Json.fits_filled fun slot member value held => ?_
  rcases List.mem_append.1 member with own | other
  · simp only [ownSlots, List.mem_cons, List.not_mem_nil, or_false] at own
    rcases own with rfl | rfl | rfl | rfl | rfl | rfl | rfl | rfl | rfl
    · cases held
      exact .string _
    · cases held
      exact .string _
    · cases held
      exact .string _
    · cases held
      exact .string _
    · obtain ⟨requirement, -, rfl⟩ := Option.map_eq_some_iff.1 held
      exact .string _
    · obtain ⟨amount, -, rfl⟩ := Option.map_eq_some_iff.1 held
      exact .string _
    · obtain ⟨date, -, rfl⟩ := Option.map_eq_some_iff.1 held
      exact .string _
    · cases held
      exact .string _
    · cases held
      exact (StageLog.codec true).list.fits item.logs
  · exact (item.attributes.fits_slots slot other value held).mono (by decide)

theorem nodup_keys_toEntries (item : Item) : (item.toEntries.map (·.1)).Nodup := by
  rw [toEntries_eq_filled]
  exact item.nodup_keys_slots.sublist (Json.keys_filled item.slots)

/-- The attributes are read from the fields that are not the order's own. -/
theorem decodeAttributes_of_shows (item : Item) {fields : List (Json.Name × Json.Node)}
    (shown : List.Forall₂ Json.EntryShows fields item.toEntries) (stop : Nat) :
    decodeAttributes fields stop = .ok item.attributes := by
  unfold decodeAttributes
  extract_lets names others given flaw seen
  -- the reader drops the own fields from the nodes, which leaves the nodes of the other entries
  have othersShown : List.Forall₂ Json.EntryShows others
      (item.toEntries.filter fun entry => entry.1 ∉ ownNames) := by
    refine List.rel_filter (fun field entry shown => ?_) shown
    obtain ⟨named, -⟩ := shown
    simp only [named]
  have distinct : ((item.toEntries.filter fun entry => entry.1 ∉ ownNames).map (·.1)).Nodup :=
    item.nodup_keys_toEntries.sublist (List.filter_sublist.map _)
  have shows : seen.Shows names (item.toEntries.filter fun entry => entry.1 ∉ ownNames) :=
    ⟨Json.entriesFlaw_eq_none _ names othersShown distinct (fun _ _ => List.not_mem_nil)
      fun _ _ _ _ _ => rfl, fun name _ => Json.lookup_namedEntries othersShown name⟩
  have written : ∀ field : Attribute,
      (item.toEntries.filter fun entry => entry.1 ∉ ownNames).lookup field.name =
        (item.attributes.get field).map field.type.encode := by
    intro field
    rw [Json.lookup_filter (fun name => decide (name ∉ ownNames))
      (decide_eq_true (name_not_mem_ownNames field)), lookup_attribute]
  rw [item.attributes.decodeFields_of_shows true shows written]
  rfl

/-- An order is read as it was written. -/
theorem codec (kept : Bool) : Codec 6 Item.toJson (Item.decode kept) where
  fits item := .object item.fits_toEntries
  ne_null _ := nofun
  decode_of_shows {item node} shown := by
    cases shown with
    | @object span fields _ _ shown =>
      -- the own fields and the attributes are read from the same fields, each past the other's
      have attributes := item.decodeAttributes_of_shows shown span.stop
      have passed : ∀ entry ∈ item.toEntries, entry.1 ∉ ownNames → ∀ node : Json.Node,
          node.Shows entry.2 → node.valueFault = none := fun entry member _ _ shown =>
        shown.valueFault_eq_none (item.fits_toEntries entry member)
      obtain ⟨seen, same, shows⟩ : ∃ seen : Json.Fields,
          ⟨(Json.namedEntries fields).filter fun entry => entry.1 ∈ ownNames,
            Json.entriesFlaw Json.Node.valueFault ownNames [] fields,
            fun field => ⟨.missingField field, span.stop⟩⟩ = seen ∧
          seen.Shows ownNames item.toEntries :=
        ⟨_, rfl, .of_entries shown item.nodup_keys_toEntries passed _⟩
      have text : ∀ {name value}, name ∈ ownNames →
          item.ownSlots.lookup name = some (some (.string value)) →
          seen.required name Json.Node.asString = .ok value := fun known slot =>
        shows.required Codec.string known (item.lookup_own slot)
      have requirement : seen.optional "requirement" Json.Node.asString = .ok item.requirement :=
        shows.optional Codec.string (by decide) (item.lookup_own rfl)
      have amount : seen.optional "quotationAmount" Json.Node.asDecimal =
          .ok item.quotationAmount :=
        shows.optional Codec.decimal (by decide) (item.lookup_own rfl)
      have date : seen.optional "expectedDeliveryDate" Json.Node.asDate =
          .ok item.expectedDeliveryDate :=
        shows.optional Codec.date (by decide) (item.lookup_own rfl)
      have stage : seen.required "currentStage" (Stage.decode kept) = .ok item.stage :=
        shows.required (Stage.codec kept) (by decide) (item.lookup_own rfl)
      have logs : seen.withDefault "stageLogs" [] (Json.Node.asList (StageLog.decode kept)) =
          .ok item.logs :=
        shows.withDefault (StageLog.codec kept).list [] (by decide) (item.lookup_own rfl)
      simp only [decode, same, shows.begin, text (show "id" ∈ ownNames by decide) rfl,
        text (show "customerName" ∈ ownNames by decide) rfl,
        text (show "phone" ∈ ownNames by decide) rfl,
        text (show "siteLocation" ∈ ownNames by decide) rfl, requirement, amount, date, stage,
        logs, attributes, Except.map, Json.both_ok]

end Item

/-- A tracker is read as it was written. -/
theorem Tracker.codec (kept : Bool) : Codec 8 Tracker.toJson (Tracker.decode kept) where
  fits tracker := .object fun entry member => by
    rcases List.mem_pair.1 member with rfl | rfl
    · exact (Item.codec kept).list.fits tracker.items
    · exact (ActivityFeed.codec.fits tracker.feed).mono (by decide)
  ne_null _ := nofun
  decode_of_shows {tracker node} shown := by
    obtain ⟨fields, seen, shows⟩ :=
      Json.asFields_of_keys "WorkflowState" ["items", "activityLog"] shown rfl (by decide)
    have items : fields.required "items" (Json.Node.asList (Item.decode kept)) =
        .ok tracker.items :=
      shows.required (Item.codec kept).list (by decide) rfl
    have feed : fields.required "activityLog" ActivityFeed.decode = .ok tracker.feed :=
      shows.required ActivityFeed.codec (by decide) rfl
    simp only [decode, seen, bind, Except.bind, shows.begin, items, feed, Json.both_ok]

/-- What is saved of a tracker is the whole tracker. -/
@[simp] theorem Tracker.ofText_text (tracker : Tracker) : ofText tracker.text = .ok tracker :=
  (Tracker.codec false).decode_text (by decide) tracker

end OrderPipeline
