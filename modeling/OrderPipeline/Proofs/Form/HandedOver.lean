import OrderPipeline.Form.Field
import OrderPipeline.Proofs.Attributes.Codec
import OrderPipeline.Proofs.Validity.Value

/-!
# Typed values that are handed over as JSON

A text that is typed into a field is handed over as a JSON value (`ValueType.coerce`), from which
the kind of the field reads its values. Numbers are handed over in one of two forms: whole numbers
that fit a word as numbers, all others as texts. The record that is handed over has the value under
the name of the field, and reading the record is what typing the text comes to.

* `ValueType.decode_of_coerce` — the value that is handed over is read as the typed text is, and
  refused with the same words.
* `Attributes.decode_handedOver` — so is the record, in which no other attribute is set.
-/

namespace OrderPipeline

/-! ## Numbers in messages -/

/-- A text in which nothing has to be escaped is quoted as it is. -/
theorem Text.quoted_of_plain {text : String}
    (plain : ∀ c ∈ text.toList, Text.quotedChar c = [c]) :
    Text.quoted text = "\"" ++ text ++ "\"" := by
  have same : text.toList.flatMap Text.quotedChar = text.toList := by
    rw [List.flatMap_congr plain, List.flatMap_singleton']
  rw [Text.quoted, same]
  apply String.toList_injective
  simp

/-- Digits are not escaped. -/
theorem Text.quotedChar_of_isDigit {c : Char} (digit : c.isDigit = true) :
    Text.quotedChar c = [c] := by
  have bounds : 48 ≤ c.toNat ∧ c.toNat ≤ 57 := by
    rw [Char.isDigit, Bool.and_eq_true, decide_eq_true_iff, decide_eq_true_iff] at digit
    exact digit
  have quote : c ≠ '"' := ne_of_isDigit digit (by decide)
  have backslash : c ≠ '\\' := ne_of_isDigit digit (by decide)
  have feed : c ≠ '\n' := ne_of_isDigit digit (by decide)
  have back : c ≠ '\r' := ne_of_isDigit digit (by decide)
  have tab : c ≠ '\t' := ne_of_isDigit digit (by decide)
  rw [Text.quotedChar, if_neg quote, if_neg backslash, if_neg feed, if_neg back, if_neg tab,
    if_neg (by omega), if_neg (by omega)]

/-- A decimal is quoted as it is written. -/
theorem Decimal.quoted_text (d : Decimal) : Text.quoted d.text = "\"" ++ d.text ++ "\"" := by
  refine Text.quoted_of_plain fun c member => ?_
  rw [Decimal.text, String.toList_ofList, chars_eq] at member
  rcases List.mem_append.1 member with front | fraction
  · rcases List.mem_append.1 front with sign | whole
    · split at sign
      · rw [List.mem_singleton.1 sign]
        decide
      · cases sign
    · exact Text.quotedChar_of_isDigit (d.isDigit_wholeChars c whole)
  · split at fraction
    · cases fraction
    · rcases List.mem_cons.1 fraction with rfl | digit
      · decide
      · exact Text.quotedChar_of_isDigit (d.isDigit_fractionChars c digit)

namespace ValueType

/-! ## Values -/

/-- A typed number as JSON: a whole number if it fits a word, and the text of the number
otherwise. -/
def coerceNumber (raw : String) : Except String Json :=
  (readNumber raw).map fun d =>
    match wholeWord? d with
    | some n => .count n
    | none => .string d.text

/-- A typed text as JSON. Only numbers may be written in another way than they are kept. -/
def coerce : ValueType → String → Except String Json
  | quantity, raw | amount, raw => coerceNumber raw
  | type, raw => (type.readTyped raw).map type.encode

/-- What a typed number is handed over as. -/
theorem coerceNumber_eq_ok_iff {raw : String} {json : Json} :
    coerceNumber raw = .ok json ↔
      ∃ d, readNumber raw = .ok d ∧
        ((∃ n, wholeWord? d = some n ∧ json = .count n) ∨
          (wholeWord? d = none ∧ json = .string d.text)) := by
  rw [coerceNumber, map_eq_ok_iff]
  refine exists_congr fun d => and_congr_right fun _ => ?_
  cases wholeWord? d <;> simp [eq_comm]

/-- What is handed over is a typed number, or a value as it is kept. -/
theorem coerce_eq_ok_iff {type : ValueType} {raw : String} {json : Json} :
    type.coerce raw = .ok json ↔
      ((type = quantity ∨ type = amount) ∧ coerceNumber raw = .ok json) ∨
        (¬ (type = quantity ∨ type = amount) ∧
          ∃ value, type.readTyped raw = .ok value ∧ type.encode value = json) := by
  cases type <;> simp [coerce, map_eq_ok_iff]

/-- A text that is not handed over is refused for the same reason. -/
theorem readTyped_of_coerce_error {type : ValueType} {raw reason : String}
    (refused : type.coerce raw = .error reason) : type.readTyped raw = .error reason := by
  cases type with
  | quantity =>
    have number : readNumber raw = .error reason := map_eq_error_iff.1 refused
    rw [readTyped, readQuantity, number]
    rfl
  | amount =>
    have number : readNumber raw = .error reason := map_eq_error_iff.1 refused
    rw [readTyped, readAmount, number]
    rfl
  | text | date | followupStatus | yesNo | timeSlot | installStatus | paymentMode | percentage
  | stars | flag | files => exact map_eq_error_iff.1 refused

/-- A text that is read is handed over. -/
theorem exists_coerce_of_readTyped {type : ValueType} {raw : String} {value : type.Carrier}
    (read : type.readTyped raw = .ok value) : ∃ json, type.coerce raw = .ok json := by
  cases coerced : type.coerce raw with
  | error reason =>
    rw [readTyped_of_coerce_error coerced] at read
    cases read
  | ok json => exact ⟨json, rfl⟩

/-- Nothing is handed over as the absent value. -/
theorem ne_null_of_coerce {type : ValueType} {raw : String} {json : Json}
    (coerced : type.coerce raw = .ok json) : json ≠ .null := by
  rcases coerce_eq_ok_iff.1 coerced with ⟨-, number⟩ | ⟨-, value, -, rfl⟩
  · obtain ⟨d, -, ⟨n, -, rfl⟩ | ⟨-, rfl⟩⟩ := coerceNumber_eq_ok_iff.1 number
    · exact nofun
    · exact nofun
  · exact (type.codec true).ne_null value

/-- A whole number that fits a word is the amount of that many. -/
theorem asDecimal_count {n : Nat} (small : n < Json.wordLimit) {node : Json.Node}
    (shown : node.Shows (.count n)) (d : Decimal) :
    Json.Node.asDecimal node = .ok ((Decimal.ofParts? false n 0).getD d) := by
  have fits : n < mantissaLimit ∧ 0 ≤ scaleLimit := ⟨lt_trans small (by decide), by decide⟩
  obtain ⟨whole, built⟩ : ∃ whole, Decimal.ofParts? false n 0 = some whole :=
    ⟨_, dif_pos fits⟩
  have unsigned : ¬ ((n : Int) < 0) := by omega
  have read : Decimal.ofInt? n = some whole := by
    rw [Decimal.ofInt?, Int.natAbs_natCast, decide_eq_false unsigned, built]
  cases shown
  rw [Json.Node.asDecimal]
  simp only [read, built, Option.getD_some]

/-- The words for a number of pieces that is too large. -/
theorem message_wrongValue_whole (n : Nat) :
    (Json.Cause.wrongValue (Json.Number.whole n).shown "u32").message =
      "invalid value: integer `" ++ toString n ++ "`, expected u32" := by
  calc (Json.Cause.wrongValue (Json.Number.whole n).shown "u32").message
    _ = "invalid value: " ++ ("integer `" ++ toString n ++ "`") ++ ", expected " ++ "u32" := rfl
    _ = "invalid value: " ++ "integer `" ++ toString n ++ ("`" ++ ", expected " ++ "u32") := by
      simp only [String.append_assoc]
    _ = "invalid value: integer `" ++ toString n ++ "`, expected u32" := rfl

/-- The words for a number of pieces that is no whole number. -/
theorem message_wrongKind_text (d : Decimal) :
    (Json.Cause.wrongKind (Json.shownText d.text) "u32").message =
      "invalid type: string \"" ++ d.text ++ "\", expected u32" := by
  calc (Json.Cause.wrongKind (Json.shownText d.text) "u32").message
    _ = "invalid type: " ++ ("string " ++ Text.quoted d.text) ++ ", expected " ++ "u32" := rfl
    _ = "invalid type: " ++ "string " ++ "\"" ++ d.text ++ ("\"" ++ ", expected " ++ "u32") := by
      rw [d.quoted_text]
      simp only [String.append_assoc]
    _ = "invalid type: string \"" ++ d.text ++ "\", expected u32" := rfl

section Number

variable {raw : String} {json : Json} {node : Json.Node}

/-- A number that is handed over is read as a number of pieces as the typed one is. -/
theorem asWord32_of_coerceNumber (coerced : coerceNumber raw = .ok json)
    (shown : node.Shows json) :
    (Json.Node.asWord32 node).mapError (·.cause.message) = readQuantity raw := by
  obtain ⟨d, read, ⟨n, whole, rfl⟩ | ⟨whole, rfl⟩⟩ := coerceNumber_eq_ok_iff.1 coerced
  · cases shown
    simp only [readQuantity, read, whole, bind, Except.bind, Json.Node.asWord32,
      Json.Node.asBounded]
    cases below? UInt32.size n with
    | some small => rfl
    | none => exact congrArg Except.error (message_wrongValue_whole n)
  · cases shown
    simp only [readQuantity, read, whole, bind, Except.bind, Json.Node.asWord32,
      Json.Node.asBounded]
    exact congrArg Except.error (message_wrongKind_text d)

/-- A number that is handed over is read as an amount as the typed one is. -/
theorem asDecimal_of_coerceNumber (coerced : coerceNumber raw = .ok json)
    (shown : node.Shows json) :
    (Json.Node.asDecimal node).mapError (·.cause.message) = readAmount raw := by
  obtain ⟨d, read, ⟨n, whole, rfl⟩ | ⟨whole, rfl⟩⟩ := coerceNumber_eq_ok_iff.1 coerced
  · have small : n < Json.wordLimit := by
      simpa using (Option.filter_eq_some_iff.1 whole).2
    rw [asDecimal_count small shown d]
    simp only [readAmount, read, bind, Except.bind, whole, Option.bind_some]
    rfl
  · cases shown
    simp only [readAmount, read, bind, Except.bind, whole, Option.bind_none,
      Json.Node.asDecimal, Decimal.read?_text]
    rfl

end Number

/-- The value that is handed over is read as the typed text is, and refused with the same words. -/
theorem decode_of_coerce {type : ValueType} {raw : String} {json : Json}
    (coerced : type.coerce raw = .ok json) {node : Json.Node} (shown : node.Shows json)
    (kept : Bool) :
    (type.decode kept node).mapError (·.cause.message) = type.readTyped raw := by
  rcases coerce_eq_ok_iff.1 coerced with ⟨rfl | rfl, number⟩ | ⟨-, value, read, rfl⟩
  · exact asWord32_of_coerceNumber number shown
  · exact asDecimal_of_coerceNumber number shown
  · rw [(type.codec kept).decode_of_shows shown, read]
    rfl

end ValueType

/-! ## Records -/

/-- Where only one of several parts has a fault, it is the earliest one. -/
theorem Json.foldl_earlier_of_only {α : Type} {faults : α → Option Fault} {only : α}
    (others : ∀ other, other ≠ only → faults other = none) {fault : Fault}
    (failed : faults only = some fault) {parts : List α} (member : only ∈ parts) :
    parts.foldl (fun first part => earlier first (faults part)) none = some fault := by
  have stays : ∀ rest : List α,
      rest.foldl (fun first part => earlier first (faults part)) (some fault) = some fault := by
    refine fun rest => List.foldl_fixed' (fun part => ?_) rest
    by_cases same : part = only
    · rw [same, failed]
      simp [earlier]
    · rw [others part same]
      rfl
  induction parts with
  | nil => cases member
  | cons part rest ih =>
    rw [List.foldl_cons]
    by_cases same : part = only
    · rw [same, failed]
      exact stays rest
    · rw [others part same]
      exact ih ((List.mem_cons.1 member).resolve_left (Ne.symm same))

namespace Attributes

@[simp] theorem get_single_self (field : Attribute) (value : field.Value) :
    (single field value).get field = some value := by
  simp [single]

theorem get_single_of_ne {field other : Attribute} (different : other ≠ field)
    (value : field.Value) : (single field value).get other = none := by
  rw [single, get_ofValues, dif_neg (Ne.symm different)]

variable {kept : Bool} {field : Attribute}

/-- A record is not read if one of its attributes is not. -/
theorem decodeFields_of_fault {fields : Json.Fields} {fault : Json.Fault}
    (flawless : fields.flaw = none)
    (others : ∀ other : Attribute, other ≠ field →
      fields.optional other.name (other.type.decode kept) = .ok none)
    (failed : fields.optional field.name (field.type.decode kept) = .error fault) :
    decodeFields kept fields = .error fault := by
  have faulty : Attribute.all.foldl (fun first field => Json.earlier first
      (Json.faultOf (fields.optional field.name (field.type.decode kept)))) fields.flaw =
        some fault := by
    rw [flawless]
    refine Json.foldl_earlier_of_only (fun other different => ?_) ?_ (Attribute.mem_all field)
    · rw [others other different]
      rfl
    · rw [failed]
      rfl
  unfold decodeFields
  extract_lets reading first
  change first = some fault at faulty
  rw [faulty]

/-- The record that a typed text is handed over in is read as the text is: as a record set in the
attribute of the field alone, or refused with the same words. -/
theorem decode_handedOver {raw : String} {json : Json}
    (coerced : field.type.coerce raw = .ok json) {node : Json.Node}
    (shown : node.Shows (.object [(field.name, json)])) (kept : Bool) :
    (decode kept node).mapError (·.cause.message) =
      (field.type.readTyped raw).map (single field) := by
  have known : ∀ other : Attribute, other.name ∈ Attribute.all.map Attribute.name :=
    fun other => List.mem_map_of_mem (Attribute.mem_all other)
  have among : ∀ name ∈ [(field.name, json)].map (·.1),
      name ∈ Attribute.all.map Attribute.name := by
    intro name member
    rw [List.mem_singleton.1 member]
    exact known field
  obtain ⟨fields, seen, shows⟩ :=
    Json.asFields_of_shows "ItemAttributes" shown (List.nodup_singleton _) among
  have written : [(field.name, json)].lookup field.name = some json := by
    rw [Keyed.lookup_entry, if_pos rfl]
  obtain ⟨value, given, valueShown⟩ := shows.given_eq_some (known field) written
  have others : ∀ other : Attribute, other ≠ field →
      fields.optional other.name (other.type.decode kept) = .ok none := by
    intro other different
    have unnamed : other.name ≠ field.name := fun same =>
      different (Attribute.name_injective same)
    have unwritten : [(field.name, json)].lookup other.name = none := by
      rw [Keyed.lookup_entry, if_neg unnamed, List.lookup_nil]
    rw [Json.Fields.optional, shows.given_eq_none (known other) unwritten]
  have own : fields.optional field.name (field.type.decode kept) =
      (field.type.decode kept value).map some := by
    rw [Json.Fields.optional, given]
    exact Json.Node.asOption_of_shows valueShown (ValueType.ne_null_of_coerce coerced)
  rw [← ValueType.decode_of_coerce coerced valueShown kept, decode, seen]
  change (decodeFields kept fields).mapError _ = _
  cases read : field.type.decode kept value with
  | error fault =>
    rw [read] at own
    rw [decodeFields_of_fault shows.flawless others own]
    rfl
  | ok held =>
    rw [read] at own
    have all : ∀ other : Attribute, fields.optional other.name (other.type.decode kept) =
        .ok ((single field held).get other) := by
      intro other
      by_cases same : other = field
      · subst same
        rw [own, get_single_self]
        rfl
      · rw [others other same, get_single_of_ne same]
    rw [decodeFields_of_read shows.flawless all]
    rfl

end Attributes

end OrderPipeline
