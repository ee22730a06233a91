import OrderPipeline.Action
import OrderPipeline.Proofs.Tracker.Codec

/-!
# What is saved is restored

Trackers and actions are read from their texts as they were written (`Tracker.ofText_text`,
`Action.codec`), whatever is in them. So a tracker that was read from any text is saved in a form
that is read as the same tracker, and saving that one gives the same text
(`saved_tracker_and_action_restored`).
-/

namespace OrderPipeline

open Json (Codec)

namespace Action

/-- The name that a kind has in a record. -/
def Kind.tag : Kind → String
  | addItem => "ADD_ITEM"
  | updateItem => "UPDATE_ITEM"
  | advance => "MOVE_TO_NEXT_STAGE"
  | logStage => "LOG_STAGE_ACTION"
  | addActivity => "ADD_ACTIVITY"
  | load => "LOAD_STATE"

theorem Kind.lookup_tag (kind : Kind) : kinds.lookup kind.tag = some kind := by
  cases kind <;> rfl

theorem Kind.codec : Codec 0 (fun kind => .string (tag kind))
    (Json.Node.asChoice kinds (kinds.map (·.1)) false) :=
  Codec.choice Kind.lookup_tag _ false

/-- A content is read when its kind is known. -/
theorem decode_tagged (kind : Kind) {content : Json} {action : Action}
    (read : ∀ node : Json.Node, node.Shows content → decodeContent true kind node = .ok action)
    {node : Json.Node} (shown : node.Shows (tagged kind.tag content)) :
    decode node = .ok action := by
  obtain ⟨fields, seen, shows⟩ :=
    Json.asFields_of_keys "WorkflowAction" ["type", "payload"] shown rfl (by decide)
  have type : fields.required "type" (Json.Node.asChoice kinds (kinds.map (·.1)) false) =
      .ok kind :=
    shows.required Kind.codec (by decide) rfl
  obtain ⟨payload, given, content⟩ :=
    shows.given_eq_some (show "payload" ∈ ["type", "payload"] by decide) rfl
  -- a record as an object sets its content aside, and the content is read as one that was
  have contentRead : ∀ kept, kept = true →
      fields.required "payload" (decodeContent kept kind) = .ok action := by
    rintro kept rfl
    rw [Json.Fields.required, given]
    exact read payload content
  unfold decode
  simp only [seen, bind, Except.bind, shows.begin, type]
  refine contentRead _ ?_
  cases shown
  rfl

/-- The content of an action that records data is read back. -/
theorem decodeRecord_of_shows {record stageName : String}
    {action : ItemId → Stage → Attributes → Action} (other : stageName ≠ "id" ∧ stageName ≠ "data")
    {id : ItemId} {stage : Stage} {data : Attributes} {node : Json.Node}
    (shown : node.Shows (.object [("id", .string id.text), (stageName, stage.toJson),
      ("data", data.toJson)])) :
    decodeRecord true record stageName action node = .ok (action id stage data) := by
  obtain ⟨fields, seen, shows⟩ :=
    Json.asFields_of_keys record ["id", stageName, "data"] shown rfl
      (by simp [other.1.symm, other.2])
  have idRead : fields.required "id" Json.Node.asString = .ok id.text :=
    shows.required Codec.string (by simp) rfl
  have stageRead : fields.required stageName (Stage.decode true) = .ok stage :=
    shows.required (Stage.codec true) (by simp) (by
      rw [Keyed.lookup_entry, if_neg other.1, Keyed.lookup_entry, if_pos rfl])
  have dataRead : fields.required "data" (Attributes.decode true) = .ok data :=
    shows.required (Attributes.codec true) (by simp) (by
      rw [Keyed.lookup_entry, if_neg (by decide), Keyed.lookup_entry, if_neg other.2.symm]
      rfl)
  simp only [decodeRecord, seen, bind, Except.bind, shows.begin, idRead, stageRead, dataRead,
    Except.map, Json.both_ok]

/-- The content of an action that records an activity is read back. -/
theorem decodeActivity_of_shows {customerName action stage : String} {node : Json.Node}
    (shown : node.Shows (.object [("customerName", .string customerName),
      ("action", .string action), ("stage", .string stage)])) :
    decodeActivity node = .ok (addActivity customerName action stage) := by
  obtain ⟨fields, seen, shows⟩ := Json.asFields_of_keys "ActivityPayload"
    ["customerName", "action", "stage"] shown rfl (by decide)
  have customerRead : fields.required "customerName" Json.Node.asString = .ok customerName :=
    shows.required Codec.string (by decide) rfl
  have actionRead : fields.required "action" Json.Node.asString = .ok action :=
    shows.required Codec.string (by decide) rfl
  have stageRead : fields.required "stage" Json.Node.asString = .ok stage :=
    shows.required Codec.string (by decide) rfl
  simp only [decodeActivity, seen, bind, Except.bind, shows.begin, customerRead, actionRead,
    stageRead, Json.both_ok]

/-- A content that fits leaves the record of its kind to fit. -/
theorem fits_tagged {room : Nat} (kind : String) {content : Json} (fits : content.Fits room) :
    (tagged kind content).Fits (room + 1) := .object fun entry member => by
  rcases List.mem_pair.1 member with rfl | rfl
  · exact .string _
  · exact fits

/-- The content of an action that records data fits. -/
theorem fits_record (stageName : String) (id : ItemId) (stage : Stage) (data : Attributes) :
    (Json.object [("id", .string id.text), (stageName, stage.toJson),
      ("data", data.toJson)]).Fits 8 := .object fun entry member => by
  simp only [List.mem_cons, List.not_mem_nil, or_false] at member
  rcases member with rfl | rfl | rfl
  · exact .string _
  · exact .string _
  · exact ((Attributes.codec true).fits data).mono (by decide)

/-- An action is read as it was written. -/
theorem codec : Codec 9 Action.toJson Action.decode where
  fits action := by
    cases action with
    | addItem item => exact fits_tagged _ (((Item.codec true).fits item).mono (by decide))
    | updateItem item => exact fits_tagged _ (((Item.codec true).fits item).mono (by decide))
    | advance id stage data => exact fits_tagged _ (fits_record _ id stage data)
    | logStage id stage data => exact fits_tagged _ (fits_record _ id stage data)
    | addActivity customerName action stage =>
      refine fits_tagged _ (.object fun entry member => ?_)
      simp only [List.mem_cons, List.not_mem_nil, or_false] at member
      rcases member with rfl | rfl | rfl <;> exact .string _
    | load tracker => exact fits_tagged _ ((Tracker.codec true).fits tracker)
  ne_null action := by
    cases action <;> exact nofun
  decode_of_shows {action node} shown := by
    cases action with
    | addItem item =>
      exact decode_tagged .addItem (fun _ shown =>
        congrArg (Except.map addItem) ((Item.codec true).decode_of_shows shown)) shown
    | updateItem item =>
      exact decode_tagged .updateItem (fun _ shown =>
        congrArg (Except.map updateItem) ((Item.codec true).decode_of_shows shown)) shown
    | advance id stage data =>
      exact decode_tagged .advance
        (fun _ shown => decodeRecord_of_shows (by decide) shown) shown
    | logStage id stage data =>
      exact decode_tagged .logStage
        (fun _ shown => decodeRecord_of_shows (by decide) shown) shown
    | addActivity customerName action stage =>
      exact decode_tagged .addActivity
        (fun _ shown => decodeActivity_of_shows shown) shown
    | load tracker =>
      exact decode_tagged .load (fun _ shown =>
        congrArg (Except.map load) ((Tracker.codec true).decode_of_shows shown)) shown

end Action

/-- Trackers and actions are restored as they were saved; and a tracker that was read from any text
is saved in a form that is read as itself and is saved as the same text again. -/
theorem saved_tracker_and_action_restored :
    (∀ tracker : Tracker, Tracker.ofText tracker.text = .ok tracker) ∧
    (∀ action : Action,
      (Json.Document.ofText action.toJson.text).decode Action.decode = .ok action) ∧
    ∀ (text : String) (tracker : Tracker), Tracker.ofText text = .ok tracker →
      ∃ again : Tracker, Tracker.ofText tracker.text = .ok again ∧ again = tracker ∧
        again.text = tracker.text :=
  ⟨Tracker.ofText_text, Action.codec.decode_text (by decide),
    fun _ tracker _ => ⟨tracker, tracker.ofText_text, rfl, rfl⟩⟩

/-- A text written by hand, with an order whose fields stand in another order, with blanks, an
escape, an unknown field, and a choice named by its label. -/
def handwritten : String :=
  "\x7b\"activityLog\": [], \"items\": [\x7b\"currentStage\": \"dispatch-plan\", " ++
    "\"timeSlot\": \"Morning\", \"id\": \"A\", \"colour\": 1, " ++
    "\"customerName\": \"\\u00e9\", \"phone\": \"\", \"siteLocation\": \"\"\x7d]\x7d"

/-- The tracker that the text stands for. -/
def handwrittenTracker : Tracker where
  items := [{ id := ⟨"A"⟩, customerName := "é", phone := "", siteLocation := "",
              stage := .dispatchPlan, attributes := { timeSlot := some .morning } }]

/-- The text is read, and its tracker is restored from its saved form. -/
theorem saved_tracker_and_action_restored_handwritten :
    Tracker.ofText handwritten = .ok handwrittenTracker ∧
      ∃ again : Tracker, Tracker.ofText handwrittenTracker.text = .ok again ∧
        again = handwrittenTracker ∧ again.text = handwrittenTracker.text := by
  have read : Tracker.ofText handwritten = .ok handwrittenTracker := by decide +kernel
  exact ⟨read, saved_tracker_and_action_restored.2.2 handwritten handwrittenTracker read⟩

end OrderPipeline
