import Mathlib.Logic.Function.Basic
import OrderPipeline.Proofs.Form.Reading

/-!
# Laying updates over records

Merging lays an update over a record, one attribute after another. It is described by the views of
the two records alone, so its laws are those of taking the first of two values that is there.

* `Attributes.get_foldl_takeOver`, `Attributes.merge_eq_foldl_takeOver` — no attribute is forgotten,
  and none is given the value of another.
* `Attributes.merge_comm_iff` — two updates can be made in either order just if they agree where
  both set something.
* `Attributes.merge_is_overlay` — all laws together, in terms of the names of form fields.
-/

namespace OrderPipeline

namespace Attributes

variable {record update first second : Attributes}

/-! ## One attribute after another -/

/-- The record with the value that an update sets for one attribute, if it sets one. -/
def takeOver (update record : Attributes) (field : Attribute) : Attributes :=
  match update.get field with
  | some value => ofValues (Function.update record.get field (some value))
  | none => record

theorem get_takeOver (update record : Attributes) (field other : Attribute) :
    (takeOver update record field).get other =
      if other = field then (update.get other).or (record.get other) else record.get other := by
  unfold takeOver
  by_cases same : other = field
  · subst same
    cases given : update.get other with
    | none => simp
    | some value => simp
  · cases update.get field with
    | none => simp [same]
    | some value => simp [same]

/-- Taking over some attributes leaves the others as they are. -/
theorem get_foldl_takeOver (fields : List Attribute) (update record : Attributes)
    (field : Attribute) :
    (fields.foldl (takeOver update) record).get field =
      if field ∈ fields then (update.get field).or (record.get field) else record.get field := by
  induction fields generalizing record with
  | nil => simp
  | cons next fields ih =>
    rw [List.foldl_cons, ih, get_takeOver]
    by_cases same : field = next
    · subst same
      -- an attribute that is listed twice is taken over twice, which makes no difference
      cases update.get field <;> simp
    · simp [same]

/-- Merging takes over all attributes. -/
theorem merge_eq_foldl_takeOver (record update : Attributes) :
    record.merge update = Attribute.all.foldl (takeOver update) record := by
  refine ext_get fun field => ?_
  rw [get_foldl_takeOver, get_merge, if_pos (Attribute.mem_all field)]

/-! ## Laws -/

theorem isSet_merge (record update : Attributes) (field : Attribute) :
    (record.merge update).isSet field = (record.isSet field || update.isSet field) := by
  rw [isSet, get_merge, Option.isSome_or, Bool.or_comm]
  rfl

theorem merge_assoc (record first second : Attributes) :
    (record.merge first).merge second = record.merge (first.merge second) := by
  refine ext_get fun field => ?_
  simp only [get_merge, Option.or_assoc]

theorem empty_merge (update : Attributes) : empty.merge update = update := by
  refine ext_get fun field => ?_
  rw [get_merge, get_empty, Option.or_none]

theorem merge_self (record : Attributes) : record.merge record = record := by
  refine ext_get fun field => ?_
  rw [get_merge, Option.or_self]

/-- An update that is made a second time changes nothing more. -/
theorem merge_merge_self (record update : Attributes) :
    (record.merge update).merge update = record.merge update := by
  rw [merge_assoc, merge_self]

/-- Two updates can be made in either order just if they agree where both set something. -/
theorem merge_comm_iff :
    (∀ record : Attributes, (record.merge first).merge second =
        (record.merge second).merge first) ↔
      ∀ field, first.isSet field = true → second.isSet field = true →
        first.get field = second.get field := by
  constructor
  · intro commute field isFirst isSecond
    -- the one that is made last wins, already over the record in which nothing is set
    have views := congrArg (fun record => record.get field) (commute empty)
    simp only [empty_merge, get_merge] at views
    rw [Option.or_of_isSome isSecond, Option.or_of_isSome isFirst] at views
    exact views.symm
  · intro agree record
    refine ext_get fun field => ?_
    simp only [get_merge]
    cases inFirst : first.get field with
    | none => simp
    | some value =>
      cases inSecond : second.get field with
      | none => simp
      | some other =>
        have same := agree field (by simp [isSet, inFirst]) (by simp [isSet, inSecond])
        rw [inFirst, inSecond] at same
        simp [same]

/-! ## Names -/

/-- Two records with no name in common set no attribute in common. -/
theorem not_isSet_of_disjoint (disjoint : ∀ name ∈ first.setNames, name ∉ second.setNames)
    {field : Attribute} (isFirst : first.isSet field = true) : second.isSet field ≠ true := by
  intro isSecond
  exact disjoint field.name (mem_setNames.2 ⟨field, rfl, isFirst⟩)
    (mem_setNames.2 ⟨field, rfl, isSecond⟩)

/-- The value under a name is that of the update, or else that of the record. -/
theorem field?_merge (record update : Attributes) (name : String) :
    (record.merge update).field? name = (update.field? name).or (record.field? name) := by
  unfold field?
  cases Attribute.ofName? name with
  | none => rfl
  | some field =>
    simp only [Option.bind_eq_bind, Option.bind_some, get_merge]
    cases update.get field <;> rfl

/-- The names of what is set after a merge are those of the record and those of the update. -/
theorem mem_setNames_merge {name : String} :
    name ∈ (record.merge update).setNames ↔ name ∈ record.setNames ∨ name ∈ update.setNames := by
  simp only [mem_setNames, isSet_merge, Bool.or_eq_true, and_or_left, exists_or]

/-- Merging lays an update over a record: it takes over every attribute, the values of the update
win, the names that are set are those of both, and updates that have no name in common can be made
in either order. -/
theorem merge_is_overlay (record first second : Attributes) :
    (record.merge first = Attribute.all.foldl (takeOver first) record ∧
      ∀ name, (record.merge first).field? name =
        if (first.field? name).isSome then first.field? name else record.field? name) ∧
    (∀ field, (record.merge first).get field =
      if first.isSet field then first.get field else record.get field) ∧
    ((record.merge first).setNames.Pairwise (· < ·) ∧
      ∀ name, name ∈ (record.merge first).setNames ↔
        name ∈ record.setNames ∨ name ∈ first.setNames) ∧
    (record.merge first).merge second = record.merge (first.merge second) ∧
    (record.merge empty = record ∧ empty.merge record = record) ∧
    (record.merge record = record ∧ (record.merge first).merge first = record.merge first) ∧
    ((∀ name ∈ first.setNames, name ∉ second.setNames) →
      first.merge second = second.merge first ∧
        (record.merge first).merge second = (record.merge second).merge first) := by
  refine ⟨⟨merge_eq_foldl_takeOver record first, fun name => ?_⟩, fun field => ?_,
    ⟨pairwise_setNames _, fun name => mem_setNames_merge⟩, merge_assoc record first second,
    ⟨merge_empty record, empty_merge record⟩, ⟨merge_self record, merge_merge_self record first⟩,
    fun disjoint => ?_⟩
  · rw [field?_merge]
    cases first.field? name <;> rfl
  · rw [get_merge, isSet]
    cases first.get field <;> rfl
  · have commute := merge_comm_iff.2 fun field isFirst isSecond =>
      absurd isSecond (not_isSet_of_disjoint disjoint isFirst)
    have alone := commute empty
    rw [empty_merge, empty_merge] at alone
    exact ⟨alone, commute record⟩

/-- A remark and a quantity that are handed in apart can be laid over an order in either order,
though the order has another remark already. -/
theorem merge_is_overlay_remark_and_quantity :
    let record := single .remark "first contact"
    let remark := single .remark "confirmed on phone"
    let quantity := single .quantity (4 : UInt32)
    (∀ name ∈ remark.setNames, name ∉ quantity.setNames) ∧
      (record.merge remark).merge quantity = (record.merge quantity).merge remark ∧
      ((record.merge quantity).merge remark).get .remark = some "confirmed on phone" := by
  intro record remark quantity
  have disjoint : ∀ name ∈ remark.setNames, name ∉ quantity.setNames := by decide +kernel
  obtain ⟨-, -, -, -, -, -, either⟩ := merge_is_overlay record remark quantity
  exact ⟨disjoint, (either disjoint).2, rfl⟩

end Attributes

end OrderPipeline
