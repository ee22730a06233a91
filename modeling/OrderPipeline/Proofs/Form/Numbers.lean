import OrderPipeline.Proofs.Form.Reading
import OrderPipeline.Proofs.Number.Solid
import OrderPipeline.Proofs.Number.Value

/-!
# Numbers that are typed into a form

An amount of money is taken unless it is below zero, and a number of pieces if it is a whole number
that fits 32 bits; what is set has the value that was typed, in whichever of the two forms it was
handed over.

* `ValueType.exists_readAmount_iff`, `ValueType.value_of_readAmount`,
  `ValueType.readQuantity_eq_ok_iff` — what is read from a typed number.
* `takes_of_readTyped` — a form takes a value just if the field reads it (`Takes`).
* `typed_number_keeps_value` — what becomes of typed numbers on the forms.
-/

namespace OrderPipeline

namespace ValueType

variable {raw : String} {d : Decimal}

/-! ## Numbers as they are read -/

/-- A decimal below zero is refused. -/
theorem readNumber_of_neg (parsed : Decimal.read? raw = some d) (below : d.value < 0) :
    readNumber raw = .error "expected zero or more" := by
  simp only [readNumber, parsed, Decimal.value_neg_iff.1 below, if_true]

/-- Any other decimal is read as it is. -/
theorem readNumber_of_nonneg (parsed : Decimal.read? raw = some d) (nonneg : 0 ≤ d.value) :
    readNumber raw = .ok d := by
  have unsigned : ¬ d.negative = true := fun negative =>
    absurd (Decimal.value_neg_iff.2 negative) (not_lt.2 nonneg)
  simp only [readNumber, parsed, if_neg unsigned]

/-- A number that is read is the decimal that was typed. -/
theorem eq_of_readNumber (parsed : Decimal.read? raw = some d) {number : Decimal}
    (read : readNumber raw = .ok number) : number = d ∧ 0 ≤ d.value := by
  rcases lt_or_ge d.value 0 with below | nonneg
  · rw [readNumber_of_neg parsed below] at read
    cases read
  · rw [readNumber_of_nonneg parsed nonneg] at read
    cases read
    exact ⟨rfl, nonneg⟩

/-- An amount is read just if it is not below zero. -/
theorem exists_readAmount_iff (parsed : Decimal.read? raw = some d) :
    (∃ paid, readAmount raw = .ok paid) ↔ 0 ≤ d.value := by
  constructor
  · rintro ⟨paid, read⟩
    obtain ⟨number, numberRead, -⟩ := exists_of_bind_eq_ok read
    exact (eq_of_readNumber parsed numberRead).2
  · intro nonneg
    rw [readAmount, readNumber_of_nonneg parsed nonneg]
    exact ⟨_, rfl⟩

/-- An amount that is read has the value that was typed, also if its zeros are dropped. -/
theorem value_of_readAmount (parsed : Decimal.read? raw = some d) {paid : Decimal}
    (read : readAmount raw = .ok paid) : paid.value = d.value := by
  obtain ⟨number, numberRead, done⟩ := exists_of_bind_eq_ok read
  obtain ⟨rfl, -⟩ := eq_of_readNumber parsed numberRead
  cases done
  cases whole : (wholeWord? number).bind fun n => Decimal.ofParts? false n 0 with
  | none => rfl
  | some built =>
    obtain ⟨n, isWhole, parts⟩ := Option.bind_eq_some_iff.1 whole
    rw [Option.getD_some, Decimal.value_of_ofParts? parts,
      (Decimal.wholeWord?_eq_some_iff.1 isWhole).1]

/-- A number of pieces is read just if it is the number that was typed. -/
theorem readQuantity_eq_ok_iff (parsed : Decimal.read? raw = some d) {count : UInt32} :
    readQuantity raw = .ok count ↔ d.value = count.toNat := by
  constructor
  · intro read
    obtain ⟨number, numberRead, done⟩ := exists_of_bind_eq_ok read
    obtain ⟨rfl, -⟩ := eq_of_readNumber parsed numberRead
    split at done
    · next n whole =>
      split at done
      · next small found =>
        cases done
        have same : (small.val : Int) = n := below?_eq_some_iff.1 found
        rw [(Decimal.wholeWord?_eq_some_iff.1 whole).1, UInt32.toNat_ofFin]
        exact_mod_cast same.symm
      · cases done
    · cases done
  · intro same
    have nonneg : 0 ≤ d.value := by
      rw [same]
      exact Nat.cast_nonneg _
    have whole : wholeWord? d = some count.toNat :=
      Decimal.wholeWord?_eq_some_iff.2 ⟨same, lt_trans count.toNat_lt (by decide)⟩
    have small : below? UInt32.size count.toNat = some count.toFin := below?_eq_some_iff.2 rfl
    simp only [readQuantity, readNumber_of_nonneg parsed nonneg, whole, small, bind, Except.bind]
    rfl

/-- So it is read just if a number of 32 bits was typed. -/
theorem exists_readQuantity_iff (parsed : Decimal.read? raw = some d) :
    (∃ count, readQuantity raw = .ok count) ↔ ∃ n : ℕ, n ≤ 4294967295 ∧ d.value = n := by
  constructor
  · rintro ⟨count, read⟩
    have bound : count.toNat < 4294967296 := count.toNat_lt
    exact ⟨count.toNat, by omega, (readQuantity_eq_ok_iff parsed).1 read⟩
  · rintro ⟨n, bound, same⟩
    have kept : (UInt32.ofNat n).toNat = n := by
      rw [UInt32.toNat_ofNat']
      omega
    exact ⟨UInt32.ofNat n, (readQuantity_eq_ok_iff parsed).2 (by rw [kept, same])⟩

/-! ## Numbers as they are handed over -/

/-- A whole number that fits a word is handed over as a number. -/
theorem coerceNumber_of_whole (parsed : Decimal.read? raw = some d) {n : ℕ} (small : n < 2 ^ 64)
    (same : d.value = n) : coerceNumber raw = .ok (.count n) := by
  have nonneg : 0 ≤ d.value := by
    rw [same]
    exact Nat.cast_nonneg n
  have whole : wholeWord? d = some n := Decimal.wholeWord?_eq_some_iff.2 ⟨same, small⟩
  exact coerceNumber_eq_ok_iff.2 ⟨d, readNumber_of_nonneg parsed nonneg, .inl ⟨n, whole, rfl⟩⟩

/-- Every other number is handed over as its text. -/
theorem coerceNumber_of_other (parsed : Decimal.read? raw = some d) (nonneg : 0 ≤ d.value)
    (other : ∀ n : ℕ, n < 2 ^ 64 → d.value ≠ n) : coerceNumber raw = .ok (.string d.text) := by
  have noWord : wholeWord? d = none := by
    cases whole : wholeWord? d with
    | none => rfl
    | some n =>
      obtain ⟨same, small⟩ := Decimal.wholeWord?_eq_some_iff.1 whole
      exact absurd same (other n small)
  exact coerceNumber_eq_ok_iff.2 ⟨d, readNumber_of_nonneg parsed nonneg, .inr ⟨noWord, rfl⟩⟩

end ValueType

/-! ## Numbers on the forms -/

/-- Whether the form of a stage takes a typed value just under a condition, and how the value is
kept. -/
structure Takes (stage : Stage) (field : Attribute) (raw : String) (condition : Prop)
    (Kept : field.Value → Prop) : Prop where
  /-- Typed by itself, the value is taken just under the condition. -/
  alone : (∃ data, Submission.read stage [field.name ++ "=" ++ raw] = .ok data) ↔ condition
  /-- If a form is taken on which it was typed last for the field, the condition holds, and the
  value is set as it was typed. -/
  taken : ∀ pairs data, FormValues.LastGiven pairs field.name raw →
    Submission.read stage pairs = .ok data →
      condition ∧ ∃ value, SetAs data field raw value ∧ Kept value
  /-- If such a form is refused for the field, it is for this value, and the condition fails. -/
  refused : ∀ pairs text reason, FormValues.LastGiven pairs field.name raw →
    Submission.read stage pairs = .error (.invalidValue field.name text reason) →
      text = raw ∧ ¬ condition

section Takes

variable {stage : Stage} {form : StageForm} {field : Attribute} {raw : String}

/-- The name of an attribute has no equals sign and no blanks. -/
theorem Attribute.solid_name (field : Attribute) :
    ∀ c ∈ field.name.toList, c ≠ '=' ∧ Text.isBlank c = false := by
  have plain : field.name.toList.all (fun c => c != '=' && !Text.isBlank c) = true := by
    cases field <;> rfl
  intro c member
  simpa using List.all_eq_true.1 plain c member

/-- A text without blanks is given for an attribute as it stands. -/
theorem Attribute.gives_of_solid (field : Attribute)
    (solid : ∀ c ∈ raw.toList, Text.isBlank c = false) :
    FormValues.Gives (field.name ++ "=" ++ raw) field.name raw := by
  have noSign : '=' ∉ field.name.toList := fun member => (field.solid_name '=' member).1 rfl
  have name : Text.trimEnds field.name.toList = field.name.toList :=
    Text.trimEnds_of_forall fun c member => (field.solid_name c member).2
  refine ⟨⟨field.name.toList, raw.toList, by simp, noSign, ?_, ?_⟩, ?_⟩
  · rw [name, String.ofList_toList]
  · rw [Text.trimEnds_of_forall solid, String.ofList_toList]
  · cases field <;> decide

/-- A value that is read is not refused by a form that has the field. -/
theorem StageForm.not_fault_of_read (held : ∃ own ∈ form.fields, own.field = field)
    (read : ∃ value, field.type.readTyped raw = .ok value) (fault : FormError) :
    ¬ form.Fault field.name raw fault := by
  intro faulty
  cases faulty with
  | unknownField absent =>
    obtain ⟨own, member, rfl⟩ := held
    exact absent own member rfl
  | @invalidValue own reason member named given unread =>
    have same : own.field = field := Attribute.name_injective named
    subst same
    obtain ⟨value, read⟩ := read
    rw [unread] at read
    cases read

/-- On a form that is taken, the value that was typed last for an attribute is set. -/
theorem exists_setAs_of_read {pairs : List String} {data : Attributes}
    (formed : StageForm.of? stage = some form) (nonempty : raw ≠ "")
    (given : FormValues.LastGiven pairs field.name raw)
    (read : Submission.read stage pairs = .ok data) : ∃ value, SetAs data field raw value := by
  obtain ⟨own, -, named, value, set⟩ :=
    (filledIn_of_read formed read).value field.name raw given nonempty
  have same : own.field = field := Attribute.name_injective named
  subst same
  exact ⟨value, set⟩

/-- A form on which nothing was typed but a value that is read is taken. -/
theorem exists_read_singleton {pair : String} (formed : StageForm.of? stage = some form)
    (held : ∃ own ∈ form.fields, own.field = field)
    (gives : FormValues.Gives pair field.name raw)
    (valueRead : ∃ value, field.type.readTyped raw = .ok value) :
    ∃ data, Submission.read stage [pair] = .ok data := by
  have reading := reading_read formed [pair]
  cases read : Submission.read stage [pair] with
  | ok data => exact ⟨data, rfl⟩
  | error fault =>
    rw [read] at reading
    cases reading with
    | @malformed earlier later bad split wellFormed malformed =>
      have only : bad ∈ [pair] := by simp [split]
      rw [List.mem_singleton.1 only] at malformed
      exact absurd malformed gives.wellFormed
    | refused wellFormed given faulty least =>
      obtain ⟨rfl, rfl⟩ := gives.unique (FormValues.lastGiven_singleton_iff.1 given)
      exact absurd faulty (StageForm.not_fault_of_read held valueRead fault)

/-- A form that is refused for a field is refused for the value that was typed last, which is not
read. -/
theorem unread_of_refused {pairs : List String} {text reason : String}
    (formed : StageForm.of? stage = some form) (held : ∃ own ∈ form.fields, own.field = field)
    (given : FormValues.LastGiven pairs field.name raw)
    (read : Submission.read stage pairs = .error (.invalidValue field.name text reason)) :
    text = raw ∧ ¬ ∃ value, field.type.readTyped raw = .ok value := by
  have reading := reading_read formed pairs
  rw [read] at reading
  cases reading with
  | refused wellFormed last faulty least =>
    cases faulty with
    | invalidValue member named nonblank unread =>
      obtain ⟨values, -, holds⟩ := FormValues.exists_holds_ofPairs wellFormed
      obtain rfl := holds.lastGiven_unique given last
      refine ⟨rfl, fun valueRead => ?_⟩
      exact StageForm.not_fault_of_read held valueRead _
        (.invalidValue member named nonblank unread)

/-- A form takes a value for one of its fields just if the field reads it. -/
theorem takes_of_readTyped {condition : Prop} {Kept : field.Value → Prop}
    (formed : StageForm.of? stage = some form) (held : ∃ own ∈ form.fields, own.field = field)
    (nonempty : raw ≠ "") (solid : ∀ c ∈ raw.toList, Text.isBlank c = false)
    (read_iff : (∃ value, field.type.readTyped raw = .ok value) ↔ condition)
    (kept : ∀ value, field.type.readTyped raw = .ok value → Kept value) :
    Takes stage field raw condition Kept := by
  have gives := field.gives_of_solid solid
  have taken : ∀ pairs data, FormValues.LastGiven pairs field.name raw →
      Submission.read stage pairs = .ok data →
        condition ∧ ∃ value, SetAs data field raw value ∧ Kept value := by
    intro pairs data given read
    obtain ⟨value, set⟩ := exists_setAs_of_read formed nonempty given read
    exact ⟨read_iff.1 ⟨value, set.read⟩, value, set, kept value set.read⟩
  refine ⟨⟨?_, ?_⟩, taken, ?_⟩
  · rintro ⟨data, read⟩
    exact (taken _ data (FormValues.lastGiven_singleton_iff.2 gives) read).1
  · intro holds
    exact exists_read_singleton formed held gives (read_iff.2 holds)
  · intro pairs text reason given read
    rw [← read_iff]
    exact unread_of_refused formed held given read

end Takes

/-- A typed number keeps its value on the forms. As the amount that was paid it is taken unless it
is below zero, and as a number of pieces if it is a whole number that fits 32 bits. It is handed
over as a number if it is whole and fits 64 bits, and as a text otherwise. -/
theorem typed_number_keeps_value {raw : String} {d : Decimal}
    (parsed : Decimal.read? raw = some d) :
    Takes .payment .paidAmount raw (¬ d.value < 0) (fun paid => paid.value = d.value) ∧
      Takes .stock .quantity raw (∃ n : ℕ, n ≤ 4294967295 ∧ d.value = n)
        (fun count => (count.toNat : ℚ) = d.value) ∧
      Takes .receiving .receivedQty raw (∃ n : ℕ, n ≤ 4294967295 ∧ d.value = n)
        (fun count => (count.toNat : ℚ) = d.value) ∧
      (∀ n : ℕ, n < 2 ^ 64 → d.value = n → ValueType.coerceNumber raw = .ok (.count n)) ∧
      (0 ≤ d.value → (∀ n : ℕ, n < 2 ^ 64 → d.value ≠ n) →
        ValueType.coerceNumber raw = .ok (.string d.text)) := by
  obtain ⟨nonempty, solid⟩ := Decimal.solid_of_read? parsed
  have counted : ∀ count : UInt32, ValueType.readQuantity raw = .ok count →
      (count.toNat : ℚ) = d.value :=
    fun count read => ((ValueType.readQuantity_eq_ok_iff parsed).1 read).symm
  refine ⟨?_, ?_, ?_, ?_, ?_⟩
  · rw [not_lt]
    exact takes_of_readTyped (by rfl) (by decide) nonempty solid
      (ValueType.exists_readAmount_iff parsed) fun paid => ValueType.value_of_readAmount parsed
  · exact takes_of_readTyped (by rfl) (by decide) nonempty solid
      (ValueType.exists_readQuantity_iff parsed) counted
  · exact takes_of_readTyped (by rfl) (by decide) nonempty solid
      (ValueType.exists_readQuantity_iff parsed) counted
  · exact fun n => ValueType.coerceNumber_of_whole parsed
  · exact ValueType.coerceNumber_of_other parsed

/-- The largest decimal is taken as an amount, and not as a number of pieces. -/
theorem typed_number_keeps_value_largest :
    Decimal.read? "79228162514264337593543950335" = some Decimal.max ∧
      (∃ data, Submission.read .payment ["paidAmount=79228162514264337593543950335"] = .ok data) ∧
      ¬ ∃ data, Submission.read .stock ["quantity=79228162514264337593543950335"] = .ok data := by
  have parsed : Decimal.read? "79228162514264337593543950335" = some Decimal.max := by rfl
  have value : Decimal.max.value = 79228162514264337593543950335 := by
    norm_num [Decimal.value, Decimal.max, mantissaLimit]
  obtain ⟨paid, quantity, -⟩ := typed_number_keeps_value parsed
  refine ⟨parsed, paid.alone.2 (by rw [value]; norm_num), fun taken => ?_⟩
  obtain ⟨n, small, same⟩ := quantity.alone.1 taken
  rw [value] at same
  have large : n = 79228162514264337593543950335 := by exact_mod_cast same.symm
  omega

end OrderPipeline
