import OrderPipeline.Failure
import OrderPipeline.Item
import OrderPipeline.Number.DecimalReader

/-!
# Leads

A lead is a new order as it is typed in. `Lead.toItem` reads it: name, phone and place have to be
given and are trimmed, a blank requirement counts as none, and an amount must not be negative.
Nothing else is refused (`Lead.toItem_eq_ok_iff`).
-/

namespace OrderPipeline

/-- A new order as it is typed in. -/
structure Lead where
  /-- The name of the customer. -/
  customerName : String
  /-- How to reach the customer. -/
  phone : String
  /-- Where the order goes. -/
  siteLocation : String
  /-- What is ordered. -/
  requirement : Option String := none
  /-- The amount that was quoted. -/
  quotationAmount : Option String := none
  /-- When the customer expects the order. -/
  expectedDeliveryDate : Option String := none
  deriving DecidableEq, Inhabited

namespace Lead

/-- The values that have to be given, with their names. -/
def required (lead : Lead) : List (String × String) :=
  [("customerName", lead.customerName), ("phone", lead.phone),
    ("siteLocation", lead.siteLocation)]

/-- The names of the values that have to be given and are blank. -/
def missing (lead : Lead) : List String :=
  (lead.required.filter fun entry => Text.blank entry.2).map (·.1)

/-- The amount that a text stands for. -/
def readAmount (raw : String) : Except Failure Decimal :=
  match Decimal.read? (Text.trim raw) with
  | none => .error (.invariantViolation ("quotation amount `" ++ raw ++ "` is not a number"))
  | some amount =>
    if amount.negative then
      .error (.invariantViolation ("quotation amount `" ++ raw ++ "` is negative"))
    else .ok amount

/-- The date that a text stands for. -/
def readDate (raw : String) : Except Failure Date :=
  match Date.ofTyped (Text.trim raw) with
  | .ok date => .ok date
  | .error _ =>
    .error (.invariantViolation ("expected delivery date `" ++ raw ++ "` is not YYYY-MM-DD"))

/-- A value that may be left out. -/
def readGiven {α : Type} (read : String → Except Failure α) :
    Option String → Except Failure (Option α)
  | none => .ok none
  | some raw => (read raw).map some

/-- The order that a lead stands for, with an amount and a date that were read. -/
def order (lead : Lead) (id : ItemId) (amount : Option Decimal) (date : Option Date) : Item where
  id := id
  customerName := Text.trim lead.customerName
  phone := Text.trim lead.phone
  siteLocation := Text.trim lead.siteLocation
  requirement := lead.requirement.filter fun text => !Text.blank text
  quotationAmount := amount
  expectedDeliveryDate := date

/-- The order that a lead stands for. -/
def toItem (lead : Lead) (id : ItemId) : Except Failure Item := do
  if !lead.missing.isEmpty then
    throw (.invariantViolation ("missing required values: " ++ ", ".intercalate lead.missing))
  let amount ← readGiven readAmount lead.quotationAmount
  let date ← readGiven readDate lead.expectedDeliveryDate
  return lead.order id amount date

/-- A lead is read when nothing that is needed is blank and what is given besides can be read. -/
theorem toItem_eq_ok_iff {lead : Lead} {id : ItemId} {item : Item} :
    lead.toItem id = .ok item ↔ lead.missing = [] ∧ ∃ amount date,
      readGiven readAmount lead.quotationAmount = .ok amount ∧
        readGiven readDate lead.expectedDeliveryDate = .ok date ∧
        item = lead.order id amount date := by
  simp only [toItem, bind, Except.bind, pure, Except.pure, throw, throwThe, MonadExceptOf.throw]
  cases missing : lead.missing with
  | cons name names => simp
  | nil =>
    cases readGiven readAmount lead.quotationAmount with
    | error failure => simp
    | ok amount =>
      cases readGiven readDate lead.expectedDeliveryDate with
      | error failure => simp
      | ok date => simp [eq_comm]

end Lead

end OrderPipeline
