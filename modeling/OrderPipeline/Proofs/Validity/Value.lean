import OrderPipeline.Form.Field
import Mathlib.Data.List.DropRight

/-!
# Valid values

A text is neat when it is not empty and has no blanks at its ends. `ValueType.Valid` says for each
kind of values which ones may be recorded, and `ValueType.valid_of_readTyped` that no other value is
read from a neat text that was typed in.
-/

namespace OrderPipeline

/-! ## Results -/

section Results

variable {ε δ α β : Type}

/-- What succeeds after something else succeeds after it. -/
theorem exists_of_bind_eq_ok {first : Except ε α} {next : α → Except ε β} {b : β}
    (done : (first >>= next) = .ok b) : ∃ a, first = .ok a ∧ next a = .ok b := by
  cases first with
  | error => cases done
  | ok a => exact ⟨a, rfl, done⟩

/-- Translating a failure changes nothing where there is none. -/
theorem mapError_eq_ok_iff {result : Except ε α} {f : ε → δ} {a : α} :
    result.mapError f = .ok a ↔ result = .ok a := by
  cases result <;> simp [Except.mapError]

/-- Changing a value changes nothing where there is none. -/
theorem map_eq_ok_iff {result : Except ε α} {f : α → β} {b : β} :
    result.map f = .ok b ↔ ∃ a, result = .ok a ∧ f a = b := by
  cases result <;> simp [Except.map]

theorem map_eq_error_iff {result : Except ε α} {f : α → β} {e : ε} :
    result.map f = .error e ↔ result = .error e := by
  cases result <;> simp [Except.map]

end Results

/-! ## Neat texts -/

namespace Text

/-- A text without blanks at its ends begins with none. -/
theorem dropBlank_trimEnds (cs : List Char) : dropBlank (trimEnds cs) = trimEnds cs := by
  have front : trimEnds cs <+: dropBlank cs := List.rdropWhile_prefix isBlank (dropBlank cs)
  refine List.dropWhile_eq_self_iff.2 fun nonempty => ?_
  -- what is left begins as it did when the blanks in front had been dropped
  rw [front.getElem nonempty]
  exact List.dropWhile_eq_self_iff.1 (dropBlank_dropBlank cs) (nonempty.trans_le front.length_le)

/-- Nothing is trimmed off a second time. -/
theorem trimEnds_trimEnds (cs : List Char) : trimEnds (trimEnds cs) = trimEnds cs := by
  rw [trimEnds, dropBlank_trimEnds]
  exact List.rdropWhile_idempotent isBlank (dropBlank cs)

/-- Nothing is left of a text just if all of it is blank. -/
theorem trimEnds_eq_nil_iff (cs : List Char) : trimEnds cs = [] ↔ cs.all isBlank = true := by
  rw [trimEnds, dropBlankEnd, List.reverse_eq_nil_iff, dropBlank_eq_nil_iff, List.all_reverse,
    ← dropBlank_eq_nil_iff, dropBlank_dropBlank, dropBlank_eq_nil_iff]

/-- Nothing is trimmed off a text without blanks. -/
theorem trimEnds_of_forall {cs : List Char} (solid : ∀ c ∈ cs, isBlank c = false) :
    trimEnds cs = cs := by
  have front : dropBlank cs = cs :=
    List.dropWhile_eq_self_iff.2 fun nonempty => by simp [solid _ (List.getElem_mem nonempty)]
  have back : dropBlankEnd cs = cs :=
    List.rdropWhile_eq_self_iff.2 fun nonempty => by
      simp [solid _ (List.getLast_mem nonempty)]
  rw [trimEnds, front, back]

/-- Whether a text has no blanks at its ends and is not empty. -/
structure Neat (text : String) : Prop where
  /-- There are no blanks at the ends. -/
  trimmed : trim text = text
  /-- There is something in the text. -/
  nonempty : text ≠ ""

instance (text : String) : Decidable (Neat text) :=
  decidable_of_iff (trim text = text ∧ text ≠ "") ⟨fun h => ⟨h.1, h.2⟩, fun h => ⟨h.1, h.2⟩⟩

/-- What is left of a text is neat unless nothing is left. -/
theorem neat_ofList_trimEnds {cs : List Char} (left : trimEnds cs ≠ []) :
    Neat (String.ofList (trimEnds cs)) where
  trimmed := by rw [trim, String.toList_ofList, trimEnds_trimEnds]
  nonempty empty := left (by simpa using congrArg String.toList empty)

/-- A text that is not blank is neat once it is trimmed. -/
theorem neat_trim {text : String} (given : blank text = false) : Neat (trim text) := by
  refine neat_ofList_trimEnds fun nothing => ?_
  rw [trimEnds_eq_nil_iff] at nothing
  exact Bool.false_ne_true (given.symm.trans nothing)

/-- A text without any blanks is neat unless it is empty. -/
theorem neat_ofList {cs : List Char} (nonempty : cs ≠ []) (solid : ∀ c ∈ cs, isBlank c = false) :
    Neat (String.ofList cs) := by
  rw [← trimEnds_of_forall solid]
  exact neat_ofList_trimEnds (by rwa [trimEnds_of_forall solid])

end Text

/-! ## Values -/

/-- A number that is built without a sign has none. -/
theorem Decimal.negative_of_ofParts? {mantissa scale : Nat} {d : Decimal}
    (built : Decimal.ofParts? false mantissa scale = some d) : d.negative = false := by
  rw [Decimal.ofParts?] at built
  split at built
  · cases built
    rfl
  · cases built

/-- Whether a file has a neat name and the address that is made from it. -/
structure FileRef.Valid (file : FileRef) : Prop where
  /-- The name is neat. -/
  name : Text.Neat file.name
  /-- The address is made from the name. -/
  url : file.url = "blob:" ++ file.name

namespace ValueType

/-- Whether a value may be recorded. -/
def Valid : (type : ValueType) → type.Carrier → Prop
  | text, value => Text.Neat value
  | percentage, value => value.toNat ≤ 100
  | stars, value => 1 ≤ value.toNat ∧ value.toNat ≤ 5
  | amount, value => value.negative = false
  | files, value => ∀ file ∈ value, file.Valid
  | date, _ | followupStatus, _ | yesNo, _ | timeSlot, _ | installStatus, _ | paymentMode, _
  | quantity, _ | flag, _ => True

/-- A number is not read if it is below zero. -/
theorem negative_of_readNumber {raw : String} {d : Decimal} (read : readNumber raw = .ok d) :
    d.negative = false := by
  rw [readNumber] at read
  split at read
  · cases read
  · split at read
    · cases read
    · next unsigned =>
      cases read
      simpa using unsigned

/-- Neither is an amount. -/
theorem negative_of_readAmount {raw : String} {d : Decimal} (read : readAmount raw = .ok d) :
    d.negative = false := by
  obtain ⟨given, number, done⟩ := exists_of_bind_eq_ok read
  cases done
  -- a whole amount is built anew, without a sign
  cases whole : (wholeWord? given).bind fun n => Decimal.ofParts? false n 0 with
  | none => exact negative_of_readNumber number
  | some rounded =>
    obtain ⟨n, -, parts⟩ := Option.bind_eq_some_iff.1 whole
    exact Decimal.negative_of_ofParts? parts

/-- A whole number is read only between the bounds. -/
theorem bounds_of_readBetween {least most : Nat} {raw : String} {value : UInt8}
    (small : most < 256) (read : readBetween least most raw = .ok value) :
    least ≤ value.toNat ∧ value.toNat ≤ most := by
  rw [readBetween] at read
  split at read
  · next n found =>
    have between := (Option.filter_eq_some_iff.1 found).2
    cases read
    simp only [decide_eq_true_eq] at between
    have same : (UInt8.ofNat n).toNat = n := by
      rw [UInt8.toNat_ofNat']
      omega
    rwa [same]
  · cases read

/-- The files that are read are valid. -/
theorem valid_of_mem_readFiles {raw : String} {file : FileRef} (member : file ∈ readFiles raw) :
    file.Valid := by
  simp only [readFiles, List.mem_map, List.mem_filter] at member
  obtain ⟨name, ⟨⟨part, -, rfl⟩, given⟩, rfl⟩ := member
  exact ⟨Text.neat_ofList_trimEnds (by simpa using given), rfl⟩

/-- Only valid values are read from neat texts. -/
theorem valid_of_readTyped {type : ValueType} {raw : String} {value : type.Carrier}
    (neat : Text.Neat raw) (read : type.readTyped raw = .ok value) : type.Valid value := by
  cases type with
  | text =>
    cases read
    exact neat
  | percentage => exact (bounds_of_readBetween (by decide) read).2
  | stars => exact bounds_of_readBetween (by decide) read
  | amount => exact negative_of_readAmount read
  | files =>
    cases read
    exact fun file => valid_of_mem_readFiles
  | date | followupStatus | yesNo | timeSlot | installStatus | paymentMode | quantity | flag =>
    exact trivial

end ValueType

end OrderPipeline
