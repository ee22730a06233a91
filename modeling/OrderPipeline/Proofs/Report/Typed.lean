import OrderPipeline.Proofs.Form.Numbers
import OrderPipeline.Proofs.Number.LowestTerms
import OrderPipeline.Proofs.Tracker.Saved
import OrderPipeline.Report.Table

/-!
# What tables show of typed values

A value that is typed into a form is read, recorded, saved and restored before a table shows it.
`ShownAs` says for each kind of values as which text a typed one is shown, without a word on what
lies between.

* `ShownAs.unique` — what was typed is shown as one text and no other.
* `ValueType.shownAs_cell` — the cell of a value that was read from a text shows the text.
* `typed_values_shown` — after a form has been submitted, saved and restored, the tables of its
  stage show what was typed last for each field, and what they showed before where that was nothing.
-/

namespace OrderPipeline

/-- The names of files in a text, without the blanks around them; what is blank is no name. -/
def fileNames (raw : String) : List String :=
  (((Text.splitOn ',' raw.toList).map Text.trimEnds).filter fun name => !name.isEmpty).map
    String.ofList

/-- Whether a text names an option by its stored form or by its label, up to the case of ASCII
letters. -/
def FieldOption.NamedBy (option : FieldOption) (raw : String) : Prop :=
  ∃ name ∈ [option.value, option.label], Text.lowerAscii name = Text.lowerAscii raw

/-- Whether a text is shown for what was typed as `raw`. -/
inductive ShownAs (raw : String) : ValueType → String → Prop where
  /-- A text is shown as it was typed. -/
  | text : ShownAs raw .text raw
  /-- A date is shown as year, month and day, with a sign before a year that is not one of four
  digits. -/
  | date {date : Date} (read : Date.ofTyped raw = .ok date) : ShownAs raw .date date.text
  /-- A choice is shown by its stored form, also if it was typed as its label. -/
  | choice {type : ValueType} {option : FieldOption} (offered : option ∈ type.options)
    (named : option.NamedBy raw) : ShownAs raw type option.value
  /-- A number of pieces is shown without a point. -/
  | quantity {d : Decimal} {n : ℕ} (read : Decimal.read? raw = some d) (same : d.value = n) :
    ShownAs raw .quantity (toString n)
  /-- So is a share of work. -/
  | percentage {n : ℕ} (read : unsigned? raw.toList = some n) (bound : n ≤ 100) :
    ShownAs raw .percentage (toString n)
  /-- So are stars. -/
  | stars {n : ℕ} (read : unsigned? raw.toList = some n) (bounds : 1 ≤ n ∧ n ≤ 5) :
    ShownAs raw .stars (toString n)
  /-- What is so is shown as a yes. -/
  | yes (agreed : Text.lowerAscii raw ∈ ["true", "yes", "1", "on"]) : ShownAs raw .flag "Yes"
  /-- What is not so is shown as a no. -/
  | no (denied : Text.lowerAscii raw ∈ ["false", "no", "0", "off"]) : ShownAs raw .flag "No"
  /-- An amount is shown by the number that was typed, without zeros at its end. -/
  | amount {d paid : Decimal} (read : Decimal.read? raw = some d) (same : paid.value = d.value)
    (lowest : paid.InLowestTerms) : ShownAs raw .amount paid.text
  /-- Where no file is named, a dash is shown. -/
  | noFiles (nothing : fileNames raw = []) : ShownAs raw .files "-"
  /-- Files are shown by their names. -/
  | files (something : fileNames raw ≠ []) :
    ShownAs raw .files (", ".intercalate (fileNames raw))

/-- Of the options that a field offers, a text names at most one. -/
theorem FieldOption.NamedBy.unique {type : ValueType} {option other : FieldOption} {raw : String}
    (named : option.NamedBy raw) (offered : option ∈ type.options) (otherNamed : other.NamedBy raw)
    (otherOffered : other ∈ type.options) : option.value = other.value := by
  have distinct : ∀ option ∈ type.options, ∀ other ∈ type.options,
      ∀ name ∈ [option.value, option.label], ∀ otherName ∈ [other.value, other.label],
        Text.lowerAscii name = Text.lowerAscii otherName → option.value = other.value := by
    cases type <;> decide +kernel
  obtain ⟨name, member, same⟩ := named
  obtain ⟨otherName, otherMember, otherSame⟩ := otherNamed
  exact distinct option offered other otherOffered name member otherName otherMember
    (same.trans otherSame.symm)

/-- An answer that is a yes is not a no. -/
theorem not_denied_of_agreed {answer : String} (agreed : answer ∈ ["true", "yes", "1", "on"]) :
    answer ∉ ["false", "no", "0", "off"] := by
  revert answer
  decide

/-- What was typed is shown as one text and no other. -/
theorem ShownAs.unique {raw : String} {type : ValueType} {shown other : String}
    (first : ShownAs raw type shown) (second : ShownAs raw type other) : shown = other := by
  cases first with
  | text =>
    cases second with
    | text => rfl
    | choice offered => cases offered
  | date read =>
    cases second with
    | date again => rw [Except.ok.inj (read.symm.trans again)]
    | choice offered => cases offered
  | choice offered named =>
    cases second with
    | choice otherOffered otherNamed => exact named.unique offered otherNamed otherOffered
    | _ => cases offered
  | quantity read same =>
    cases second with
    | quantity again too =>
      cases read.symm.trans again
      rw [Nat.cast_injective (same.symm.trans too)]
    | choice offered => cases offered
  | percentage read =>
    cases second with
    | percentage again => rw [Option.some.inj (read.symm.trans again)]
    | choice offered => cases offered
  | stars read =>
    cases second with
    | stars again => rw [Option.some.inj (read.symm.trans again)]
    | choice offered => cases offered
  | yes agreed =>
    cases second with
    | yes => rfl
    | no denied => exact absurd denied (not_denied_of_agreed agreed)
    | choice offered => cases offered
  | no denied =>
    cases second with
    | yes agreed => exact absurd denied (not_denied_of_agreed agreed)
    | no => rfl
    | choice offered => cases offered
  | amount read same lowest =>
    cases second with
    | amount again too otherLowest =>
      cases read.symm.trans again
      rw [lowest.eq_of_value_eq otherLowest (same.trans too.symm)]
    | choice offered => cases offered
  | noFiles nothing =>
    cases second with
    | noFiles => rfl
    | files something => exact absurd nothing something
    | choice offered => cases offered
  | files something =>
    cases second with
    | noFiles nothing => exact absurd nothing something
    | files => rfl
    | choice offered => cases offered

namespace ValueType

/-! ## Cells of values that were typed -/

/-- A choice that was read is shown by its stored form. -/
theorem shownAs_of_readChoice {α : Type} [DecidableEq α] {choices : List (Choice α)}
    {type : ValueType} {raw : String} {value : α} (offered : type.options = optionsOf choices)
    (stored : ∀ choice ∈ choices, nameOf choices choice.value = choice.name)
    (read : readChoice choices raw = .ok value) : ShownAs raw type (nameOf choices value) := by
  rw [readChoice] at read
  split at read
  · next choice found =>
    cases read
    have member : choice ∈ choices := List.mem_of_find?_eq_some found
    have option : (⟨choice.label, choice.name⟩ : FieldOption) ∈ type.options := by
      rw [offered, optionsOf]
      exact List.mem_map.2 ⟨choice, member, rfl⟩
    have named : FieldOption.NamedBy ⟨choice.label, choice.name⟩ raw := by
      simpa [FieldOption.NamedBy, Text.sameIgnoringAsciiCase] using List.find?_some found
    rw [stored choice member]
    exact .choice option named
  · cases read

/-- A number is read from a text that stands for a decimal. -/
theorem read?_of_readNumber {raw : String} {d : Decimal} (read : readNumber raw = .ok d) :
    Decimal.read? raw = some d := by
  rw [readNumber] at read
  split at read
  · cases read
  · next parsed =>
    split at read
    · cases read
    · cases read
      exact parsed

/-- A whole number that was read is the one between the bounds that the digits stand for. -/
theorem toNat_of_readBetween {least most : ℕ} {raw : String} {value : UInt8} (small : most < 256)
    (read : readBetween least most raw = .ok value) :
    unsigned? raw.toList = some value.toNat ∧ least ≤ value.toNat ∧ value.toNat ≤ most := by
  refine ⟨?_, bounds_of_readBetween small read⟩
  rw [readBetween] at read
  split at read
  · next n found =>
    obtain ⟨digits, between⟩ := Option.filter_eq_some_iff.1 found
    cases read
    rw [digits, UInt8.toNat_ofNat', Nat.mod_eq_of_lt]
    simp only [decide_eq_true_eq] at between
    omega
  · cases read

/-- The files that are read have the names that the text lists. -/
theorem map_textCell_readFiles (raw : String) :
    (readFiles raw).map (fun file => textCell file.name) = fileNames raw := by
  simp only [readFiles, fileNames, List.map_map]
  refine List.map_congr_left fun name member => ?_
  have given : name ≠ [] := by simpa using (List.mem_filter.1 member).2
  simp [textCell, given]

/-- Something that was read is shown as a yes or a no. -/
theorem shownAs_of_readFlag {raw : String} {value : Bool} (read : readFlag raw = .ok value) :
    ShownAs raw .flag (if value then "Yes" else "No") := by
  simp only [readFlag] at read
  split at read
  · next agreed =>
    cases read
    exact .yes agreed
  · split at read
    · next denied =>
      cases read
      exact .no denied
    · cases read

/-- Files that were read are shown by their names. -/
theorem shownAs_readFiles (raw : String) : ShownAs raw .files (files.cell (readFiles raw)) := by
  have names := map_textCell_readFiles raw
  simp only [cell, names, List.isEmpty_iff]
  by_cases nothing : readFiles raw = []
  · rw [nothing, List.map_nil] at names
    rw [if_pos nothing]
    exact .noFiles names.symm
  · rw [if_neg nothing]
    refine .files ?_
    rw [← names]
    exact mt List.map_eq_nil_iff.1 nothing

/-- The cell of a value that was read from a text shows the text. -/
theorem shownAs_cell {type : ValueType} {raw : String} {value : type.Carrier}
    (given : raw ≠ "") (read : type.readTyped raw = .ok value) :
    ShownAs raw type (type.cell value) := by
  cases type with
  | text =>
    cases read
    simp only [cell, textCell, String.isEmpty_iff, if_neg given]
    exact .text
  | date => exact .date (mapError_eq_ok_iff.1 read)
  | followupStatus => exact shownAs_of_readChoice rfl (by decide) read
  | yesNo => exact shownAs_of_readChoice rfl (by decide) read
  | timeSlot => exact shownAs_of_readChoice rfl (by decide) read
  | installStatus => exact shownAs_of_readChoice rfl (by decide) read
  | paymentMode => exact shownAs_of_readChoice rfl (by decide) read
  | quantity =>
    obtain ⟨d, number, -⟩ := exists_of_bind_eq_ok read
    have parsed := read?_of_readNumber number
    exact .quantity parsed ((readQuantity_eq_ok_iff parsed).1 read)
  | percentage =>
    obtain ⟨digits, -, bound⟩ := toNat_of_readBetween (by decide) read
    exact .percentage digits bound
  | stars =>
    obtain ⟨digits, bounds⟩ := toNat_of_readBetween (by decide) read
    exact .stars digits bounds
  | flag => exact shownAs_of_readFlag read
  | amount =>
    obtain ⟨d, number, -⟩ := exists_of_bind_eq_ok read
    have parsed := read?_of_readNumber number
    have same : (Decimal.normalize value).value = d.value := by
      rw [Decimal.value_normalize]
      exact value_of_readAmount parsed read
    exact .amount parsed same (Decimal.inLowestTerms_normalize _)
  | files =>
    cases read
    exact shownAs_readFiles raw

end ValueType

/-! ## The tables after a submission -/

/-- A replaced order is the one that is found afterwards. -/
theorem ReplacesFirst.find?_eq {id : ItemId} {old new : Item} {before after : List Item}
    (replaced : ReplacesFirst id old new before after) (same : new.id = id) :
    after.find? (fun item => item.id == id) = some new := by
  obtain ⟨earlier, later, -, rfl, -, others⟩ := replaced
  have passed : earlier.find? (fun item => item.id == id) = none := by simpa using others
  simp [List.find?_append, passed, same]

/-- After a submission the order is found with the data laid over its attributes, whenever its
actions are carried out. -/
theorem Submission.exists_findItem?_run {tracker : Tracker} {item : Item} {stage : Stage}
    {data : Attributes} {actions : List Action} (found : tracker.findItem? item.id = some item)
    (planned : Submission.plan item stage data = .ok actions) (clock : Clock) :
    ∃ later, (tracker.run (clock.stamp actions)).1.findItem? item.id = some later ∧
      later.attributes = item.attributes.merge data := by
  obtain ⟨form, formed, rfl, -, rfl⟩ := plan_eq_ok_iff.1 planned
  -- the activity that is recorded in the end leaves the orders alone
  have carried := carried_replay found formed data (clock.reading 0)
  exact ⟨_, carried.items.find?_eq rfl, rfl⟩

/-- An attribute for which nothing was filled in is not set. -/
theorem FilledIn.get_eq_none {form : StageForm} {pairs : List String} {data : Attributes}
    (filled : FilledIn form pairs data) {field : Attribute}
    (unfilled : ¬ FilledFor pairs field.name) : data.get field = none := by
  by_contra set
  have isSet : data.isSet field = true := Option.isSome_iff_ne_none.2 set
  have named := Attributes.mem_setNames.2 ⟨_, rfl, isSet⟩
  exact unfilled ((filled.mem_setNames_iff field.name).1 named)

/-- After a form has been submitted for an order, and the tracker was saved and restored, the tables
of the stage show the order as it was filled in: for each field that has a column, what was typed
last for it, or, where that is blank or nothing was typed, what was shown before. -/
theorem typed_values_shown {tracker : Tracker} {item : Item} {stage : Stage} {form : StageForm}
    {pairs : List String} {data : Attributes} {actions : List Action}
    (found : tracker.findItem? item.id = some item) (formed : StageForm.of? stage = some form)
    (read : Submission.read stage pairs = .ok data)
    (planned : Submission.plan item stage data = .ok actions) (clock : Clock) :
    ∃ restored later, Tracker.ofText (tracker.run (clock.stamp actions)).1.text = .ok restored ∧
      restored.findItem? item.id = some later ∧
      ∀ own ∈ form.fields, own.label ∈ form.pendingColumns ∨ own.label ∈ form.historyColumns →
        (∀ raw, FormValues.LastGiven pairs own.name raw → raw ≠ "" →
          ∀ shown, later.cell own.label = shown ↔ ShownAs raw own.field.type shown) ∧
        (¬ FilledFor pairs own.name → later.cell own.label = item.cell own.label) := by
  obtain ⟨later, after, attributes⟩ := Submission.exists_findItem?_run found planned clock
  refine ⟨_, later, Tracker.ofText_text _, after, fun own held _ => ⟨?_, ?_⟩⟩
  · intro raw given nonblank shown
    obtain ⟨value, set⟩ := exists_setAs_of_read formed nonblank given read
    have shows : ShownAs raw own.field.type (later.cell own.label) := by
      rw [Item.cell_label formed held, attributes, Attributes.get_merge, set.get_eq]
      exact ValueType.shownAs_cell nonblank set.read
    exact ⟨fun same => same ▸ shows, shows.unique⟩
  · intro unfilled
    have unset := (filledIn_of_read formed read).get_eq_none unfilled
    rw [Item.cell_label formed held, Item.cell_label formed held, attributes,
      Attributes.get_merge, unset, Option.none_or]

/-- Values that are read from texts are what the texts give. -/
theorem FormValues.holds_of_ofPairs {pairs : List String} {values : FormValues}
    (read : FormValues.ofPairs pairs = .ok values) : values.Holds pairs := by
  rcases exists_first_malformed pairs with
    wellFormed | ⟨earlier, bad, later, rfl, wellFormed, malformed⟩
  · obtain ⟨others, found, holds⟩ := FormValues.exists_holds_ofPairs wellFormed
    cases found.symm.trans read
    exact holds
  · rw [FormValues.ofPairs_of_malformed wellFormed malformed] at read
    cases read

/-- An order that was followed up before, when the customer had said something. -/
def hesitant : Item where
  id := ⟨"LEAD-1"⟩
  customerName := "Amit Sharma"
  phone := "9000000001"
  siteLocation := "Mumbai"
  attributes := { notes := some "wants blue" }

/-- The tracker with this order. -/
def hesitantTracker : Tracker where
  items := [hesitant]

/-- A choice is shown that was typed as its label, and a date that was typed with one digit for the
day; what the customer had said is still shown, as only blanks were typed for it. -/
theorem typed_values_shown_hesitant :
    ∃ actions restored later,
      Tracker.ofText (hesitantTracker.run ((Clock.still .epoch).stamp actions)).1.text =
        .ok restored ∧
      restored.findItem? hesitant.id = some later ∧
      later.cell "Status" = "order_received" ∧ later.cell "Need Call Date" = "2024-03-01" ∧
      later.cell "What did customer say?" = "wants blue" := by
  have read : Submission.read .followup
      ["status=Order Received", "notes= ", "callDate=2024-03-1"] =
        .ok { status := some .orderReceived, callDate := Date.of? 2024 3 1 } := by rfl
  have planned : Submission.plan hesitant .followup
      { status := some .orderReceived, callDate := Date.of? 2024 3 1 } =
        .ok [.advance hesitant.id .followup
            { status := some .orderReceived, callDate := Date.of? 2024 3 1 },
          .addActivity "Amit Sharma" "Updated in Followup Customer" "Followup Customer"] := by rfl
  have holds : FormValues.Holds
      ⟨[("callDate", "2024-03-1"), ("notes", ""), ("status", "Order Received")]⟩
      ["status=Order Received", "notes= ", "callDate=2024-03-1"] :=
    FormValues.holds_of_ofPairs (by rfl)
  have given : ∀ name raw, FormValues.LastGiven
      ["status=Order Received", "notes= ", "callDate=2024-03-1"] name raw ↔
        [("callDate", "2024-03-1"), ("notes", ""), ("status", "Order Received")].lookup name =
          some raw :=
    fun name raw => (holds.lookup_eq_some_iff name raw).symm
  have offered : (⟨"Order Received", "order_received"⟩ : FieldOption) ∈
      ValueType.options .followupStatus := by decide
  have date : Date.ofTyped "2024-03-1" = .ok ⟨2024, 3, 1, by decide⟩ := by rfl
  have found : hesitantTracker.findItem? hesitant.id = some hesitant := by decide
  obtain ⟨restored, later, saved, again, shown⟩ :=
    typed_values_shown found (by rfl) read planned (.still .epoch)
  refine ⟨_, restored, later, saved, again, ?_, ?_, ?_⟩
  · refine ((shown StageForm.followupForm.fields[0] (by decide) (by decide)).1 "Order Received"
      ((given _ _).2 (by decide)) (by decide) _).2 ?_
    exact .choice offered ⟨"Order Received", by decide, rfl⟩
  · refine ((shown StageForm.followupForm.fields[2] (by decide) (by decide)).1 "2024-03-1"
      ((given _ _).2 (by decide)) (by decide) _).2 ?_
    exact .date date
  · refine ((shown StageForm.followupForm.fields[1] (by decide) (by decide)).2 ?_).trans
      (by decide +kernel)
    rintro ⟨raw, last, nonblank⟩
    exact nonblank (Option.some.inj ((given _ _).1 last)).symm

/-- A remark that is followed by a blank one counts as not typed, so it is not shown; and of two
orders with one identifier, what is typed for the second one is not shown there, as it is recorded
for the first. -/
theorem unshown_values_hesitant :
    (∃ data actions restored later,
      Submission.read .followup
          ["status=order_received", "remark=call on Monday", "remark= "] = .ok data ∧
        FormValues.Gives "remark=call on Monday" "remark" "call on Monday" ∧
        FormValues.Gives "remark= " "remark" "" ∧
        Submission.plan hesitant .followup data = .ok actions ∧
        Tracker.ofText (hesitantTracker.run ((Clock.still .epoch).stamp actions)).1.text =
          .ok restored ∧
        restored.findItem? hesitant.id = some later ∧ later.cell "Remark" = "-") ∧
    ∃ second data actions restored,
      Submission.twins.items[1]? = some second ∧
        Submission.read .po ["vendor=Acme", "poNumber=7", "poDate=2024-03-01"] = .ok data ∧
        Submission.plan second .po data = .ok actions ∧
        Tracker.ofText (Submission.twins.run ((Clock.still .epoch).stamp actions)).1.text =
          .ok restored ∧
        restored.items.map (fun item => item.cell "Vendor Name") = ["Acme", "-"] := by
  have typed : FormValues.Gives "remark=call on Monday" "remark" "call on Monday" :=
    FormValues.splitPair?_eq_some_iff.1 (by decide +kernel)
  have blanked : FormValues.Gives "remark= " "remark" "" :=
    FormValues.splitPair?_eq_some_iff.1 (by decide +kernel)
  refine ⟨⟨{ status := some .orderReceived }, _, _, _, by rfl, typed, blanked, by rfl,
    Tracker.ofText_text _, by rfl, by decide +kernel⟩, ?_⟩
  exact ⟨_, { vendor := some "Acme", poNumber := some "7", poDate := Date.of? 2024 3 1 }, _, _,
    by rfl, by rfl, by rfl, Tracker.ofText_text _, by decide +kernel⟩

end OrderPipeline
