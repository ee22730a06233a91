import OrderPipeline.Text.Basic
import OrderPipeline.Text.Lower

/-!
# Stages of an order

An order goes through twelve working stages in a fixed sequence and ends as completed. `Stage.rank`
is the place of a stage in the sequence, `Stage.next` the stage after it; completed is its own
successor, so advancing a finished order moves nothing.
-/

namespace OrderPipeline

/-- A stage of an order, in the order in which orders pass through. -/
inductive Stage where
  /-- The customer is followed up on a quotation. -/
  | followup
  /-- The stock is checked for the delivery. -/
  | stock
  /-- A purchase order is made. -/
  | po
  /-- The delivery of the material is tracked. -/
  | delivery
  /-- The material is received. -/
  | receiving
  /-- The dispatch to the customer is planned. -/
  | dispatchPlan
  /-- The order is dispatched. -/
  | dispatch
  /-- The customer confirms the receipt. -/
  | confirmation
  /-- An installer is sent. -/
  | installation
  /-- The material is installed. -/
  | installMaterial
  /-- The customer reviews the work. -/
  | customerReview
  /-- The payment is collected. -/
  | payment
  /-- The order is finished. -/
  | completed
  deriving DecidableEq, Repr, Inhabited

namespace Stage

/-- The working stages in the order in which orders pass through. -/
def working : List Stage :=
  [.followup, .stock, .po, .delivery, .receiving, .dispatchPlan, .dispatch, .confirmation,
    .installation, .installMaterial, .customerReview, .payment]

/-- All stages, the working ones first. -/
def all : List Stage := working ++ [.completed]

/-- The place of a stage in the sequence, from zero. -/
def rank : Stage → Nat
  | followup => 0
  | stock => 1
  | po => 2
  | delivery => 3
  | receiving => 4
  | dispatchPlan => 5
  | dispatch => 6
  | confirmation => 7
  | installation => 8
  | installMaterial => 9
  | customerReview => 10
  | payment => 11
  | completed => 12

instance : LE Stage := ⟨fun earlier later => earlier.rank ≤ later.rank⟩

instance : LT Stage := ⟨fun earlier later => earlier.rank < later.rank⟩

instance (earlier later : Stage) : Decidable (earlier ≤ later) :=
  inferInstanceAs (Decidable (earlier.rank ≤ later.rank))

instance (earlier later : Stage) : Decidable (earlier < later) :=
  inferInstanceAs (Decidable (earlier.rank < later.rank))

/-- The identifier of a stage. -/
def name : Stage → String
  | followup => "followup"
  | stock => "stock"
  | po => "po"
  | delivery => "delivery"
  | receiving => "receiving"
  | dispatchPlan => "dispatch-plan"
  | dispatch => "dispatch"
  | confirmation => "confirmation"
  | installation => "installation"
  | installMaterial => "install-material"
  | customerReview => "customer-review"
  | payment => "payment"
  | completed => "completed"

/-- The label of a stage in overviews. -/
def label : Stage → String
  | followup => "Quotation Followup"
  | stock => "Check Delivery For Stock"
  | po => "Make PO"
  | delivery => "Track Delivery"
  | receiving => "Receiving Stock"
  | dispatchPlan => "Dispatch Planning"
  | dispatch => "Dispatch"
  | confirmation => "Receiving Confirmation"
  | installation => "Send to Installation"
  | installMaterial => "Install to Material"
  | customerReview => "Customer Review"
  | payment => "Payment Collection"
  | completed => "Completed"

/-- The stage after a stage; completed stays as it is. -/
def next : Stage → Stage
  | followup => stock
  | stock => po
  | po => delivery
  | delivery => receiving
  | receiving => dispatchPlan
  | dispatchPlan => dispatch
  | dispatch => confirmation
  | confirmation => installation
  | installation => installMaterial
  | installMaterial => customerReview
  | customerReview => payment
  | payment => completed
  | completed => completed

/-- Whether an order at this stage is finished. -/
def isTerminal (stage : Stage) : Bool := stage == completed

/-- The place of a working stage in the sequence; completed has none. -/
def position? (stage : Stage) : Option Nat :=
  if stage.isTerminal then none else some stage.rank

/-- The stage with an identifier, if there is one; blanks around it and the case of ASCII letters
do not matter. -/
def ofText? (text : String) : Option Stage :=
  let wanted := Text.lowerAscii (Text.trim text)
  all.find? fun stage => stage.name == wanted

/-- The identifier of the stage after the one that a text names, or the text itself when it names
none. -/
def nextName (text : String) : String :=
  match ofText? text with
  | some stage => stage.next.name
  | none => text

@[simp] theorem mem_all (stage : Stage) : stage ∈ all := by cases stage <;> decide

/-- The working stages are those other than completed. -/
theorem mem_working_iff (stage : Stage) : stage ∈ working ↔ stage ≠ completed := by
  cases stage <;> decide

/-- Stages at the same place are the same. -/
theorem rank_injective {first second : Stage} (same : first.rank = second.rank) :
    first = second := by
  cases first <;> cases second <;> simp_all [rank]

/-- Advancing from a working stage moves one place on. -/
theorem rank_next {stage : Stage} (working : stage ≠ completed) :
    stage.next.rank = stage.rank + 1 := by
  cases stage <;> simp_all [next, rank]

@[simp] theorem next_completed : next completed = completed := rfl

end Stage

end OrderPipeline
