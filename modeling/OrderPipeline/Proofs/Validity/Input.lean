import OrderPipeline.Command.Basic
import OrderPipeline.Proofs.Submission.Outcome
import OrderPipeline.Proofs.Validity.Record

/-!
# Valid input

Whatever is typed in, the data that a form is filled in with and the order that a lead stands for
are valid (`Command.valid_of_readSubmission`, `Lead.valid_of_toItem`), and so are the actions that
are planned for them (`Task.valid_of_submission`, `Task.valid_additions`).
-/

namespace OrderPipeline

/-! ## Forms -/

namespace FormValues

/-- Whether all values are trimmed. -/
def Trimmed (entries : List (String × String)) : Prop :=
  ∀ entry ∈ entries, Text.trim entry.2 = entry.2

/-- The value of a pair is trimmed. -/
theorem trim_of_splitPair? {pair name value : String}
    (split : splitPair? pair = some (name, value)) : Text.trim value = value := by
  simp only [splitPair?] at split
  split at split
  · cases split
  · split at split
    · cases split
    · cases split
      rw [Text.trim, String.toList_ofList, Text.trimEnds_trimEnds]

/-- Pairs add trimmed values to trimmed values. -/
theorem trimmed_of_addPairs {pairs : List String} {values result : FormValues}
    (trimmed : Trimmed values.entries) (added : values.addPairs pairs = .ok result) :
    Trimmed result.entries := by
  induction pairs generalizing values with
  | nil =>
    cases added
    exact trimmed
  | cons pair rest ih =>
    rw [addPairs] at added
    split at added
    · next name value split =>
      refine ih (fun entry member => ?_) added
      rcases Keyed.mem_insert member with rfl | old
      · exact trim_of_splitPair? split
      · exact trimmed entry old
    · cases added

/-- Trimmed values are laid over valid data as valid data. -/
theorem valid_of_readEntries {form : StageForm} {entries : List (String × String)}
    (trimmed : Trimmed entries) {data result : Attributes} (valid : data.Valid)
    (read : readEntries form data entries = .ok result) : result.Valid := by
  induction entries generalizing data with
  | nil =>
    cases read
    exact valid
  | cons entry rest ih =>
    obtain ⟨name, raw⟩ := entry
    have others : Trimmed rest := fun entry member => trimmed entry (List.mem_cons_of_mem _ member)
    rw [readEntries] at read
    split at read
    · cases read
    · next field _ =>
      split at read
      -- a blank value counts as not given
      · exact ih others valid read
      · next given =>
        have neat : Text.Neat raw := ⟨trimmed (name, raw) List.mem_cons_self, by simpa using given⟩
        split at read
        · cases read
        · next value typed =>
          have updated : (Attributes.single field.field value).Valid :=
            .single (ValueType.valid_of_readTyped neat typed)
          exact ih others (valid.merge updated) read

end FormValues

/-- The data that a form is filled in with is valid. -/
theorem Command.valid_of_readSubmission {name : String} {fields : List String} {stage : Stage}
    {data : Attributes} (read : readSubmission name fields = .ok (stage, data)) : data.Valid := by
  obtain ⟨form, -, read⟩ := exists_of_bind_eq_ok read
  obtain ⟨values, given, read⟩ := exists_of_bind_eq_ok read
  obtain ⟨result, read, same⟩ := exists_of_bind_eq_ok read
  cases same
  have trimmed : FormValues.Trimmed values.entries :=
    FormValues.trimmed_of_addPairs (fun _ member => absurd member List.not_mem_nil)
      (mapError_eq_ok_iff.1 given)
  exact FormValues.valid_of_readEntries trimmed .empty (mapError_eq_ok_iff.1 read)

namespace Task

/-- The actions that are planned for a form with valid data are valid. -/
theorem valid_of_submission {tracker : Tracker} {id : ItemId} {stage : Stage} {data : Attributes}
    (valid : data.Valid) {actions : List Action}
    (planned : submission tracker id stage data = .ok actions) :
    ∀ action ∈ actions, action.Valid := by
  rw [submission] at planned
  split at planned
  · cases planned
  · next item _ =>
    obtain ⟨form, formed, -, -, rfl⟩ := Submission.plan_eq_ok_iff.1 (mapError_eq_ok_iff.1 planned)
    have working := Submission.ne_completed_of_form formed
    intro action member
    rcases List.mem_pair.1 member with rfl | rfl
    · rw [Submission.stageAction]
      split <;> exact ⟨working, valid⟩
    · exact trivial

/-- The actions that add a valid order are valid. -/
theorem valid_additions {item : Item} (valid : item.Valid) :
    ∀ action ∈ additions item, action.Valid := by
  simp [additions, Action.Valid, valid]

end Task

/-! ## Leads -/

namespace Lead

/-- What is given of a value that may be left out was read. -/
theorem exists_of_readGiven {α : Type} {read : String → Except Failure α} {given : Option String}
    {value : α} (found : readGiven read given = .ok (some value)) :
    ∃ raw, read raw = .ok value := by
  cases given with
  | none => cases found
  | some raw =>
    rw [readGiven] at found
    cases result : read raw with
    | error failure =>
      rw [result] at found
      cases found
    | ok other =>
      rw [result] at found
      cases found
      exact ⟨raw, result⟩

/-- An amount is not read if it is below zero. -/
theorem negative_of_readAmount {raw : String} {amount : Decimal}
    (read : readAmount raw = .ok amount) : amount.negative = false := by
  rw [readAmount] at read
  split at read
  · cases read
  · split at read
    · cases read
    · next unsigned =>
      cases read
      simpa using unsigned

/-- The order that a lead stands for is valid. -/
theorem valid_of_toItem {lead : Lead} {id : ItemId} {item : Item}
    (read : lead.toItem id = .ok item) : item.Valid := by
  obtain ⟨complete, amount, date, quoted, -, rfl⟩ := toItem_eq_ok_iff.1 read
  have given : ∀ entry ∈ lead.required, Text.blank entry.2 = false := by
    simpa [missing] using complete
  exact {
    customerName := Text.neat_trim (given ("customerName", lead.customerName) (by simp [required]))
    phone := Text.neat_trim (given ("phone", lead.phone) (by simp [required]))
    siteLocation := Text.neat_trim (given ("siteLocation", lead.siteLocation) (by simp [required]))
    requirement := fun text ordered => by
      simpa using (Option.filter_eq_some_iff.1 ordered).2
    quotationAmount := fun value set => by
      cases set
      obtain ⟨raw, read⟩ := exists_of_readGiven quoted
      exact negative_of_readAmount read
    attributes := .empty
    logs := fun _ member => absurd member List.not_mem_nil }

end Lead

end OrderPipeline
