import OrderPipeline.Proofs.Engine.Journal
import OrderPipeline.Proofs.Form.Reading
import OrderPipeline.Proofs.Submission.History
import OrderPipeline.Report.Table

/-!
# What the history of a stage shows of its logs

The history of a stage is a table of orders that were logged there, but its cells are taken from the
attributes of the orders, to which later logs have added. So a cell shows what the last log of all
has set (`lastSet?`), which may not be the one of the stage.

* `forall_receiveAll` — what holds of orders without logs and is kept when data is recorded holds
  in every tracker that is reached by submissions.
* `mem_remark_or_dispatchDate` — which attributes the forms of later stages have fields for.
* `history_cell_shows_last_set` — what a cell shows, and when that is the value that was logged at
  the stage.
-/

namespace OrderPipeline

/-! ## The value that was set last -/

/-- The value of an attribute in the last of some logs that sets it. -/
def lastSet? (field : Attribute) : List StageLog → Option field.Value
  | [] => none
  | log :: rest => (lastSet? field rest).or (log.data.get field)

/-- Of two lists of logs, the second one decides if it sets the attribute. -/
theorem lastSet?_append (field : Attribute) (earlier later : List StageLog) :
    lastSet? field (earlier ++ later) = (lastSet? field later).or (lastSet? field earlier) := by
  induction earlier with
  | nil => simp [lastSet?]
  | cons log rest ih => rw [List.cons_append, lastSet?, ih, lastSet?, Option.or_assoc]

/-- Logs that do not set an attribute have no last value for it. -/
theorem lastSet?_eq_none {field : Attribute} {logs : List StageLog}
    (unset : ∀ log ∈ logs, log.data.get field = none) : lastSet? field logs = none := by
  induction logs with
  | nil => rfl
  | cons log rest ih =>
    obtain ⟨first, others⟩ := List.forall_mem_cons.1 unset
    rw [lastSet?, ih others, first, Option.or_none]

/-- Attributes that are overlaid with the data of some logs hold what was set last. -/
theorem get_foldl_merge (start : Attributes) (logs : List StageLog) (field : Attribute) :
    ((logs.map StageLog.data).foldl Attributes.merge start).get field =
      (lastSet? field logs).or (start.get field) := by
  induction logs generalizing start with
  | nil => rfl
  | cons log rest ih =>
    rw [List.map_cons, List.foldl_cons, ih, Attributes.get_merge, lastSet?, Option.or_assoc]

/-- Whether a log is the last one of a stage, and `later` are the logs after it. -/
structure LastLogged (logs : List StageLog) (stage : Stage) (log : StageLog)
    (later : List StageLog) : Prop where
  /-- The other logs come before it or are the later ones. -/
  split : ∃ earlier, logs = earlier ++ log :: later
  /-- It was logged at the stage. -/
  atStage : log.stage = stage
  /-- No later one was. -/
  last : ∀ other ∈ later, other.stage ≠ stage

/-! ## Trackers that are reached by submissions -/

namespace Tracker

variable {P : Item → Prop} (Allowed : Intake → Prop) {tracker : Tracker}

/-- What holds of new orders, and is kept when data is recorded, holds of all orders after something
reaches the tracker. -/
theorem forall_receive (added : ∀ item, item.logs = [] → P item)
    (recorded : ∀ item id stage data now next, Allowed (.submit id stage data) → P item →
      P (item.recordTo stage data now next))
    (kept : ∀ item ∈ tracker.items, P item) {intake : Intake × Instant}
    (allowed : Allowed intake.1) : ∀ item ∈ (tracker.receive intake).items, P item := by
  obtain ⟨intake, now⟩ := intake
  cases intake with
  | add item fresh =>
    intro other member
    rcases List.mem_append.1 member with old | new
    · exact kept other old
    · rw [List.mem_singleton.1 new]
      exact added item fresh
  | submit id stage data =>
    rcases tracker.submit_cases id stage data now with same | ⟨item, form, outcomes, -, -, carried⟩
    · rw [receive, same]
      exact kept
    · obtain ⟨earlier, later, before, after, -, -⟩ := carried.items
      rw [receive, after]
      rw [before, List.forall_mem_append, List.forall_mem_cons] at kept
      rw [List.forall_mem_append, List.forall_mem_cons]
      exact ⟨kept.1, recorded item id stage data now _ allowed kept.2.1, kept.2.2⟩

/-- So it holds of all orders after all that reaches the tracker. -/
theorem forall_receiveAll (added : ∀ item, item.logs = [] → P item)
    (recorded : ∀ item id stage data now next, Allowed (.submit id stage data) → P item →
      P (item.recordTo stage data now next))
    (fresh : ∀ item ∈ tracker.items, item.logs = []) {intakes : List (Intake × Instant)}
    (allowed : ∀ intake ∈ intakes, Allowed intake.1) :
    ∀ item ∈ (tracker.receiveAll intakes).items, P item := by
  have start : ∀ item ∈ tracker.items, P item := fun item member => added item (fresh item member)
  clear fresh
  induction intakes generalizing tracker with
  | nil => exact start
  | cons intake rest ih =>
    obtain ⟨first, others⟩ := List.forall_mem_cons.1 allowed
    exact ih others (forall_receive Allowed added recorded start first)

end Tracker

/-- The attributes of an order that was reached by submissions are those of a new order, overlaid
with the data of its logs. -/
theorem exists_recordedAs_of_mem_receiveAll {tracker : Tracker}
    (fresh : ∀ item ∈ tracker.items, item.logs = []) {intakes : List (Intake × Instant)} :
    ∀ item ∈ (tracker.receiveAll intakes).items,
      ∃ entry : Item, entry.RecordedAs item.logs item := by
  refine Tracker.forall_receiveAll (fun _ => True) ?_ ?_ fresh fun _ _ => trivial
  · intro item noLogs
    refine ⟨item, ?_⟩
    rw [noLogs]
    exact .nil item
  · rintro item id stage data now next - ⟨entry, recorded⟩
    exact ⟨entry, recorded.append ⟨rfl, rfl⟩⟩

/-! ## Logs of forms -/

/-- Whether an intake is a form that was filled in with texts, or a new order. -/
def Intake.IsFilledIn : Intake → Prop
  | submit _ stage data => ∃ pairs, Submission.read stage pairs = .ok data
  | add .. => True

/-- Whether a log is about a stage that has a form, and sets only attributes that the form has
fields for. -/
def StageLog.OfForm (log : StageLog) : Prop :=
  ∃ form, StageForm.of? log.stage = some form ∧
    ∀ field : Attribute, log.data.isSet field = true → ∃ own ∈ form.fields, own.field = field

/-- What is set by a form that was filled in are fields of the form. -/
theorem FilledIn.exists_field {form : StageForm} {pairs : List String} {data : Attributes}
    (filled : FilledIn form pairs data) {field : Attribute} (set : data.isSet field = true) :
    ∃ own ∈ form.fields, own.field = field := by
  obtain ⟨raw, given, nonblank⟩ :=
    (filled.mem_setNames_iff field.name).1 (Attributes.mem_setNames.2 ⟨field, rfl, set⟩)
  obtain ⟨own, member, named, -⟩ := filled.value field.name raw given nonblank
  exact ⟨own, member, Attribute.name_injective named⟩

/-- Data that was read from texts makes a log of a form. -/
theorem StageLog.ofForm_of_read {stage : Stage} {pairs : List String} {data : Attributes}
    (read : Submission.read stage pairs = .ok data) (now : Instant) :
    StageLog.OfForm ⟨stage, now, data⟩ := by
  cases formed : StageForm.of? stage with
  | none =>
    simp only [Submission.read, Submission.form, formed, bind, Except.bind] at read
    cases read
  | some form => exact ⟨form, formed, fun field => (filledIn_of_read formed read).exists_field⟩

/-- In a tracker that is reached by forms that were filled in, all logs are of forms. -/
theorem ofForm_of_mem_receiveAll {tracker : Tracker}
    (fresh : ∀ item ∈ tracker.items, item.logs = []) {intakes : List (Intake × Instant)}
    (filledIn : ∀ intake ∈ intakes, intake.1.IsFilledIn) :
    ∀ item ∈ (tracker.receiveAll intakes).items, ∀ log ∈ item.logs, log.OfForm := by
  refine Tracker.forall_receiveAll Intake.IsFilledIn ?_ ?_ fresh filledIn
  · intro item noLogs log member
    rw [noLogs] at member
    cases member
  · rintro item id stage data now next ⟨pairs, read⟩ old log member
    rcases List.mem_append.1 member with earlier | new
    · exact old log earlier
    · rw [List.mem_singleton.1 new]
      exact StageLog.ofForm_of_read read now

/-- The forms of later stages have no fields for an attribute that a form has a field for, except
for remarks, and for the dispatch date until the dispatch. -/
theorem mem_remark_or_dispatchDate :
    ∀ form ∈ StageForm.all, ∀ own ∈ form.fields, ∀ other ∈ StageForm.all,
      form.stage < other.stage → ∀ again ∈ other.fields, again.field = own.field →
        own.field = .remark ∨ own.field = .dispatchDate ∧ form.stage ≠ .dispatch := by
  decide +kernel

/-! ## The cells of a history -/

/-- Of orders whose histories are kept, each has the history of a stage at which it came in. -/
theorem HistoriesKept.exists_of_mem {entries : List Stage} {items : List Item} {item : Item}
    (kept : HistoriesKept entries items) (member : item ∈ items) :
    ∃ entry, StageHistory entry item.stage (item.logs.map StageLog.stage) := by
  induction kept with
  | nil => cases member
  | cons history _ ih =>
    rcases List.mem_cons.1 member with rfl | among
    · exact ⟨_, history⟩
    · exact ih among

namespace LastLogged

variable {item : Item} {stage : Stage} {log : StageLog} {later : List StageLog}
  {field : Attribute} {value : field.Value}

/-- An order holds what was set last after the log of a stage, or else what this log has set. -/
theorem get_eq (logged : LastLogged item.logs stage log later)
    (recorded : ∃ entry : Item, entry.RecordedAs item.logs item)
    (set : log.data.get field = some value) :
    item.attributes.get field = some ((lastSet? field later).getD value) := by
  obtain ⟨entry, recorded⟩ := recorded
  obtain ⟨earlier, split⟩ := logged.split
  rw [recorded.attributes, get_foldl_merge, split, lastSet?_append, lastSet?, set]
  cases lastSet? field later <;> rfl

/-- Stages that were logged after the last log of a stage come later in the sequence. -/
theorem lt_of_mem (logged : LastLogged item.logs stage log later) {entry : Stage}
    (history : StageHistory entry item.stage (item.logs.map StageLog.stage)) {other : StageLog}
    (member : other ∈ later) : stage < other.stage := by
  obtain ⟨earlier, split⟩ := logged.split
  have ordered := history.ordered
  rw [split, List.map_append, List.map_cons] at ordered
  have above := (List.pairwise_cons.1 (List.pairwise_append.1 ordered).2.1).1
  have notBefore : log.stage ≤ other.stage := above _ (List.mem_map_of_mem member)
  rw [logged.atStage] at notBefore
  refine Nat.lt_of_le_of_ne notBefore fun same => ?_
  exact logged.last other member (Stage.rank_injective same.symm)

/-- No log after the last one of a stage has set a field of the stage, if all logs are of forms and
the field is neither a remark nor a dispatch date before the dispatch. -/
theorem later_unset {form : StageForm} {own : FormField}
    (logged : LastLogged item.logs stage log later) {entry : Stage}
    (history : StageHistory entry item.stage (item.logs.map StageLog.stage))
    (ofForms : ∀ log ∈ item.logs, log.OfForm) (formed : StageForm.of? stage = some form)
    (held : own ∈ form.fields) (notRemark : own.field ≠ .remark)
    (onlyAtDispatch : own.field = .dispatchDate → stage = .dispatch) :
    ∀ other ∈ later, other.data.get own.field = none := by
  intro other among
  by_contra isSet
  obtain ⟨earlier, split⟩ := logged.split
  obtain ⟨otherForm, otherFormed, fields⟩ := ofForms other (by simp [split, among])
  obtain ⟨again, hasField, same⟩ := fields own.field (Option.isSome_iff_ne_none.2 isSet)
  have atStage : form.stage = stage := StageForm.stage_of_of? formed
  have after : form.stage < otherForm.stage := by
    rw [atStage, StageForm.stage_of_of? otherFormed]
    exact logged.lt_of_mem history among
  rcases mem_remark_or_dispatchDate form (StageForm.mem_all_of_of? formed) own held otherForm
    (StageForm.mem_all_of_of? otherFormed) after again hasField same with isRemark | ⟨isDate, no⟩
  · exact notRemark isRemark
  · exact no (atStage.trans (onlyAtDispatch isDate))

end LastLogged

/-- In every tracker that is reached by submissions, the history of a stage shows, for a field that
the last log of the stage has set, what was set last of all. This is the logged value just if the
last later log that sets the field, if any does, sets it to a value that is shown the same; and it
always is for the forms that were filled in, unless the field is a remark, or a dispatch date that
was logged before the dispatch. -/
theorem history_cell_shows_last_set (tracker : Tracker)
    (fresh : ∀ item ∈ tracker.items, item.logs = []) (intakes : List (Intake × Instant))
    {stage : Stage} {form : StageForm} {search : String} {item : Item} {log : StageLog}
    {later : List StageLog} (formed : StageForm.of? stage = some form)
    (listed : item ∈ (tracker.receiveAll intakes).historyItems stage search)
    (logged : LastLogged item.logs stage log later) :
    ∀ own ∈ form.fields, own.label ∈ form.historyColumns →
      ∀ value, log.data.get own.field = some value →
        item.cell own.label = own.field.type.cell ((lastSet? own.field later).getD value) ∧
        (item.cell own.label = own.field.type.cell value ↔
          ∀ other, lastSet? own.field later = some other →
            own.field.type.cell other = own.field.type.cell value) ∧
        ((∀ intake ∈ intakes, intake.1.IsFilledIn) → own.field ≠ .remark →
          (own.field = .dispatchDate → stage = .dispatch) →
            item.cell own.label = own.field.type.cell value) := by
  rintro own held - value set
  have member : item ∈ (tracker.receiveAll intakes).items := List.mem_of_mem_filter listed
  have shows : item.cell own.label =
      own.field.type.cell ((lastSet? own.field later).getD value) := by
    rw [Item.cell_label formed held,
      logged.get_eq (exists_recordedAs_of_mem_receiveAll fresh item member) set]
    rfl
  refine ⟨shows, ?_, fun filledIn notRemark onlyAtDispatch => ?_⟩
  · rw [shows]
    cases lastSet? own.field later <;> simp
  · obtain ⟨entry, history⟩ :=
      (forall₂_receiveAll (HistoriesKept.of_fresh fresh) intakes).exists_of_mem member
    have unset := logged.later_unset history (ofForm_of_mem_receiveAll fresh filledIn item member)
      formed held notRemark onlyAtDispatch
    rw [shows, lastSet?_eq_none unset]
    rfl

/-- What an order is logged with at the follow-up. -/
def followupData : Attributes :=
  { status := some .orderReceived, notes := some "wants blue", remark := some "ring twice" }

/-- What it is logged with at the stock. -/
def stockData : Attributes := { stockAvailable := some .yes, remark := some "two left" }

/-- An order comes in and gets a remark at the follow-up and another one at the stock. -/
def remarkedTwice : List (Intake × Instant) :=
  [(.add
        { id := ⟨"LEAD-1"⟩, customerName := "Amit Sharma", phone := "9000000001",
          siteLocation := "Mumbai" } rfl, .epoch),
    (.submit ⟨"LEAD-1"⟩ .followup followupData, .epoch),
    (.submit ⟨"LEAD-1"⟩ .stock stockData, .epoch)]

/-- The order that comes of it. -/
def remarkedOrder : Item where
  id := ⟨"LEAD-1"⟩
  customerName := "Amit Sharma"
  phone := "9000000001"
  siteLocation := "Mumbai"
  stage := .po
  logs := [⟨.followup, .epoch, followupData⟩, ⟨.stock, .epoch, stockData⟩]
  attributes := followupData.merge stockData

/-- Both forms were filled in with texts. -/
theorem filledIn_remarkedTwice : ∀ intake ∈ remarkedTwice, intake.1.IsFilledIn := by
  have followup : Submission.read .followup
      ["status=order_received", "notes=wants blue", "remark=ring twice"] = .ok followupData := by
    rfl
  have stock : Submission.read .stock ["stockAvailable=yes", "remark=two left"] =
      .ok stockData := by
    rfl
  simp only [remarkedTwice, List.forall_mem_cons]
  exact ⟨trivial, ⟨_, followup⟩, ⟨_, stock⟩, fun _ member => absurd member List.not_mem_nil⟩

/-- The order is in the history of the follow-up. -/
theorem mem_historyItems_remarkedTwice :
    remarkedOrder ∈ (Tracker.receiveAll {} remarkedTwice).historyItems .followup "" := by
  decide +kernel

/-- It was logged once at the follow-up, and at the stock after that. -/
theorem lastLogged_remarkedOrder :
    LastLogged remarkedOrder.logs .followup ⟨.followup, .epoch, followupData⟩
      [⟨.stock, .epoch, stockData⟩] where
  split := ⟨[], rfl⟩
  atStage := rfl
  last := by decide

/-- The history of the follow-up shows what the customer said there, and the remark that was made
at the stock. -/
theorem history_cell_shows_last_set_remarkedTwice :
    remarkedOrder ∈ (Tracker.receiveAll {} remarkedTwice).historyItems .followup "" ∧
      remarkedOrder.cell "What did customer say?" = "wants blue" ∧
      remarkedOrder.cell "Remark" = "two left" := by
  have fresh : ∀ item ∈ ({} : Tracker).items, item.logs = [] :=
    fun _ member => absurd member List.not_mem_nil
  have shown := history_cell_shows_last_set {} fresh remarkedTwice (by rfl)
    mem_historyItems_remarkedTwice lastLogged_remarkedOrder
  refine ⟨mem_historyItems_remarkedTwice, ?_, ?_⟩
  · exact (shown StageForm.followupForm.fields[1] (by decide) (by decide) "wants blue" rfl).2.2
      filledIn_remarkedTwice (by decide) nofun
  · exact (shown StageForm.followupForm.fields[3] (by decide) (by decide) "ring twice" rfl).1

/-- So it does not show the remark that was logged there. -/
theorem overwritten_remark_remarkedTwice :
    (∀ intake ∈ remarkedTwice, intake.1.IsFilledIn) ∧
      remarkedOrder ∈ (Tracker.receiveAll {} remarkedTwice).historyItems .followup "" ∧
      LastLogged remarkedOrder.logs .followup ⟨.followup, .epoch, followupData⟩
        [⟨.stock, .epoch, stockData⟩] ∧
      "Remark" ∈ StageForm.followupForm.historyColumns ∧
      followupData.remark = some "ring twice" ∧ remarkedOrder.cell "Remark" = "two left" :=
  ⟨filledIn_remarkedTwice, mem_historyItems_remarkedTwice, lastLogged_remarkedOrder, by decide,
    rfl, by decide +kernel⟩

end OrderPipeline
