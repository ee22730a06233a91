import OrderPipeline.Demo
import OrderPipeline.Proofs.Calendar.Text
import OrderPipeline.Proofs.Validity.Record

/-!
# Valid demonstration orders

Whatever is drawn, demonstration orders are valid (`Demo.valid_order`). `Generator.Always` says of a
draw what all its values have in common, and `Demo.drawn_items?` that demonstration orders are drawn
as `Demo.Drawn` says.
-/

namespace OrderPipeline

namespace Generator

/-- Whether all values of a draw have a property, whatever the source. -/
def Always {α : Type} (draw : Draw α) (property : α → Prop) : Prop :=
  ∀ source, property (StateT.run draw source).1

namespace Always

variable {α β : Type} {property : α → Prop}

theorem pure {a : α} (holds : property a) : Always (Pure.pure a) property := fun _ => holds

/-- What is drawn after something else may depend on it. -/
theorem bind {draw : Draw α} {next : α → Draw β} {result : β → Prop}
    (first : Always draw property) (rest : ∀ a, property a → Always (next a) result) :
    Always (draw >>= next) result := fun source =>
  rest _ (first source) (StateT.run draw source).2

/-- What all draws of a list have in common all their values have. -/
theorem mapM {draw : α → Draw β} {result : β → Prop} (each : ∀ a, Always (draw a) result)
    {list : List α} : Always (list.mapM draw) fun drawn => ∀ b ∈ drawn, result b := by
  induction list with
  | nil => exact .pure fun _ member => absurd member List.not_mem_nil
  | cons a rest ih =>
    rw [List.mapM_cons]
    refine (each a).bind fun b first => ih.bind fun drawn others => .pure ?_
    exact List.forall_mem_cons.2 ⟨first, others⟩

/-- Every draw has values. -/
theorem trivial (draw : Draw α) : Always draw fun _ => True := fun _ => True.intro

end Always

/-- A word has 32 bits. -/
theorem always_word : Always word (· < UInt32.size) := fun source => by
  show (mix (source.state + 0x9E3779B97F4A7C15) >>> 32).toNat < UInt32.size
  generalize mix (source.state + 0x9E3779B97F4A7C15) = mixed
  have whole : mixed.toNat < UInt32.size * UInt32.size := mixed.toNat_lt
  rw [UInt64.toNat_shiftRight, Nat.shiftRight_eq_div_pow]
  exact Nat.div_lt_of_lt_mul whole

/-- A number below a bound is below it. -/
theorem always_below {bound : Nat} (positive : 0 < bound) : Always (below bound) (· < bound) := by
  rw [below]
  generalize retries = tries
  -- on the number of tries; a word that is not taken leaves one less
  induction tries with
  | zero => exact .pure positive
  | succ tries ih =>
    refine always_word.bind fun word small => ?_
    dsimp only
    split
    · exact .pure (Nat.div_lt_of_lt_mul (Nat.mul_lt_mul_of_pos_right small positive))
    · exact ih

/-- One of several texts is one of them. -/
theorem always_pick (texts : List String) (nonempty : texts ≠ []) :
    Always (pick texts) (· ∈ texts) := by
  refine (always_below (List.length_pos_iff.2 nonempty)).bind fun index small => .pure ?_
  simp [List.getElem_mem, small]

/-- A character of a code is one of the alphabet. -/
theorem always_drawCodeChar (tries : Nat) : Always (drawCodeChar tries) (· ∈ codeAlphabet) := by
  induction tries with
  | zero => exact .pure (by decide)
  | succ tries ih =>
    refine always_word.bind fun word _ => ?_
    split
    · next c found => exact .pure (List.mem_of_getElem? found)
    · exact ih

/-- The characters of a code are those of the alphabet. -/
theorem always_code (length : Nat) :
    Always (code length) fun text => ∀ c ∈ text.toList, c ∈ codeAlphabet := by
  have chars : Always (codeChars length) fun cs => ∀ c ∈ cs, c ∈ codeAlphabet := by
    induction length with
    | zero => exact .pure fun _ member => absurd member List.not_mem_nil
    | succ length ih =>
      refine (always_drawCodeChar retries).bind fun c first => ih.bind fun cs rest => .pure ?_
      exact List.forall_mem_cons.2 ⟨first, rest⟩
  exact chars.bind fun cs known => .pure (by rwa [String.toList_ofList])

end Generator

namespace Demo

/-! ## Orders -/

/-- Whether the texts of a sample are among those to draw from; its numbers may be any. -/
structure Sample.Drawn (sample : Sample) : Prop where
  /-- The customer is one to draw from. -/
  customerName : sample.customerName ∈ customers
  /-- The place is one to draw from. -/
  siteLocation : sample.siteLocation ∈ locations
  /-- The requirement is one to draw from. -/
  requirement : sample.requirement ∈ requirements
  /-- The reference is a code. -/
  reference : ∀ c ∈ sample.reference.toList, c ∈ Generator.codeAlphabet

/-- Whether orders are made from samples, for any stages and dates. -/
def Drawn (items : List Item) : Prop :=
  ∀ item ∈ items, ∃ day stage sample, sample.Drawn ∧ item = order day stage sample

/-- A phone number is neat. -/
theorem neat_phone (n : Nat) : Text.Neat (phone n) :=
  Text.neat_ofList (List.cons_ne_nil _ _) <| List.forall_mem_cons.2 ⟨by decide, fun c member =>
    Text.isBlank_of_isDigit (isDigit_paddedDigits 9 n c member)⟩

/-- A text without blanks is neat after one that is not empty. -/
theorem neat_append {front back : String} (nonempty : front ≠ "")
    (frontSolid : ∀ c ∈ front.toList, Text.isBlank c = false)
    (backSolid : ∀ c ∈ back.toList, Text.isBlank c = false) : Text.Neat (front ++ back) := by
  rw [← String.ofList_toList (s := front ++ back), String.toList_append]
  refine Text.neat_ofList (by simp [nonempty]) fun c member => ?_
  exact (List.mem_append.1 member).elim (frontSolid c) (backSolid c)

/-- A number after some letters is neat. -/
theorem neat_numbered {letters : String} (nonempty : letters ≠ "")
    (solid : ∀ c ∈ letters.toList, Text.isBlank c = false) (n : Nat) :
    Text.Neat (numbered letters n) := by
  refine neat_append nonempty solid fun c member => Text.isBlank_of_isDigit ?_
  have digits : (toString (1000 + n)).toList = Nat.toDigits 10 (1000 + n) := String.toList_ofList
  rw [digits] at member
  exact isDigit_toDigits _ c member

/-- The attributes of a demonstration order are valid. -/
theorem valid_attributes (day : Days) {sample : Sample} (drawn : sample.Drawn) :
    (attributes day sample).Valid := by
  intro field value set
  cases field with
  | notes | warehouse | vendor | driverName | deliveryEta | teamAssigned | vehicleNumber
  | installerName | remark =>
    cases set
    show Text.Neat _
    decide +kernel
  | poNumber | truckNumber =>
    cases set
    exact neat_numbered (by decide) (by simp [Text.isBlank]) _
  | driverContact | installerContact =>
    cases set
    exact neat_phone _
  | reference =>
    cases set
    have alphabet : Generator.codeAlphabet.any Text.isBlank = false := by decide
    refine neat_append (by decide) (by simp [Text.isBlank]) fun c member => ?_
    exact Bool.eq_false_iff.2 (List.any_eq_false.1 alphabet c (drawn.reference c member))
  | damageNotes | issues | issueNotes | feedback | image | video | rating => cases set
  | workDone =>
    cases set
    exact (by decide : (0 : Nat) ≤ 100)
  | paidAmount =>
    cases set
    rfl
  | status | callDate | stockAvailable | quantity | dispatchDate | poDate | deliveryDate
  | receivedQty | hasDamage | receivedDate | plannedDate | timeSlot | deliveredDate | confirmed
  | installDate | installStatus | wouldRecommend | paymentMode | paymentDate => exact trivial

/-- A demonstration order is valid. -/
theorem valid_order (day : Days) (stage : Stage) {sample : Sample} (drawn : sample.Drawn) :
    (order day stage sample).Valid where
  customerName :=
    (by decide +kernel : ∀ text ∈ customers, Text.Neat text) _ drawn.customerName
  phone := neat_phone _
  siteLocation :=
    (by decide +kernel : ∀ text ∈ locations, Text.Neat text) _ drawn.siteLocation
  requirement text ordered := by
    cases ordered
    exact (by decide +kernel : ∀ text ∈ requirements, Text.blank text = false) _ drawn.requirement
  quotationAmount amount quoted := Decimal.negative_of_ofParts? quoted
  attributes := valid_attributes day drawn
  logs _ member := absurd member List.not_mem_nil

/-- A sample is drawn from what there is to draw from. -/
theorem always_sample : Generator.Always sample Sample.Drawn := by
  unfold sample
  refine (Generator.Always.trivial (Generator.code 9)).bind fun code _ => ?_
  refine (Generator.always_pick customers (by decide)).bind fun customerName customer => ?_
  refine (Generator.Always.trivial (Generator.below _)).bind fun phone _ => ?_
  refine (Generator.always_pick locations (by decide)).bind fun siteLocation place => ?_
  refine (Generator.always_pick requirements (by decide)).bind fun requirement ordered => ?_
  -- the other numbers, up to the one of the installer
  iterate 7 refine (Generator.Always.trivial (Generator.below _)).bind fun _ _ => ?_
  refine (Generator.always_code 6).bind fun reference known => .pure ?_
  exact ⟨customer, place, ordered, known⟩

/-- All demonstration orders are drawn from samples. -/
theorem always_items (day : Days) : Generator.Always (items day) Drawn := by
  refine Generator.Always.mapM fun stage => ?_
  exact always_sample.bind fun sample drawn => .pure ⟨day, stage, sample, drawn, rfl⟩

/-- The demonstration orders of any day are drawn. -/
theorem drawn_items? {generator : Generator} {today : Date} {demo : List Item}
    (made : items? generator today = some demo) : Drawn demo := by
  obtain ⟨latest, -, made⟩ := Option.bind_eq_some_iff.1 made
  obtain ⟨earliest, -, made⟩ := Option.bind_eq_some_iff.1 made
  have same : (StateT.run (items today.addDays?) generator).1 = demo := Option.some.inj made
  rw [← same]
  exact always_items today.addDays? generator

end Demo

end OrderPipeline
