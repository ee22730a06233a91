import OrderPipeline.Item
import OrderPipeline.Random.Generator

/-!
# Demonstration orders

`Demo.items?` makes two orders for each working stage, with nearly every attribute set. What
differs between them is drawn at random; the dates are counted from a given day, so there are none
if one of them lies outside the calendar.
-/

namespace OrderPipeline.Demo

open Generator (Draw)

/-- The customers to draw from. -/
def customers : List String :=
  ["Amit Sharma", "Neha Verma", "Rahul Singh", "Priya Patel", "Mohit Jain", "Gaurav Kumar",
    "Anjali Gupta", "Rohan Mehta", "Sita Ram", "Vikram Yadav"]

/-- The requirements to draw from. -/
def requirements : List String :=
  ["Sofa Set", "Office Desk", "Dining Table", "Bed Frame", "Cabinet", "Chair", "Bookshelf",
    "Coffee Table"]

/-- The places to draw from. -/
def locations : List String :=
  ["Mumbai", "Delhi", "Bangalore", "Pune", "Hyderabad", "Chennai", "Kolkata"]

/-- How many orders there are for each working stage. -/
def itemsPerStage : Nat := 2

/-- A phone number of ten digits: a nine and the digits of a number. -/
def phone (n : Nat) : String := String.ofList ('9' :: paddedDigits 9 n)

/-- Some letters and a number of four digits. -/
def numbered (letters : String) (n : Nat) : String := letters ++ toString (1000 + n)

/-- A whole amount of money. -/
def amount (n : Nat) : Option Decimal := Decimal.ofParts? false n 0

/-- What is drawn for an order. -/
structure Sample where
  /-- The code in the identifier. -/
  code : String
  /-- The name of the customer. -/
  customerName : String
  /-- The number of the customer's phone. -/
  phone : Nat
  /-- Where the order goes. -/
  siteLocation : String
  /-- What is ordered. -/
  requirement : String
  /-- What is quoted beyond the least amount. -/
  quoted : Nat
  /-- How many pieces beyond the first are available. -/
  quantity : Nat
  /-- The number of the purchase order. -/
  poNumber : Nat
  /-- The number of the truck. -/
  truckNumber : Nat
  /-- The number of the driver's phone. -/
  driverContact : Nat
  /-- How many pieces beyond the first were received. -/
  receivedQty : Nat
  /-- The number of the installer's phone. -/
  installerContact : Nat
  /-- The code in the reference of the payment. -/
  reference : String

/-- Draws what an order needs. -/
def sample : Draw Sample := do
  return {
    code := ← Generator.code 9
    customerName := ← Generator.pick customers
    phone := ← Generator.below 1000000000
    siteLocation := ← Generator.pick locations
    requirement := ← Generator.pick requirements
    quoted := ← Generator.below 500000
    quantity := ← Generator.below 10
    poNumber := ← Generator.below 9000
    truckNumber := ← Generator.below 9000
    driverContact := ← Generator.below 1000000000
    receivedQty := ← Generator.below 10
    installerContact := ← Generator.below 1000000000
    reference := ← Generator.code 6 }

/-- A date counted from a day, which has to lie in the calendar. -/
abbrev Days := Int → Option Date

/-- The attributes of an order with dates found by `day`. -/
def attributes (day : Days) (sample : Sample) : Attributes where
  status := some .interested
  notes := some "Customer is looking for premium finish"
  callDate := day 2
  stockAvailable := some .yes
  quantity := some (UInt32.ofNat (1 + sample.quantity))
  warehouse := some "Central Warehouse"
  dispatchDate := day 5
  vendor := some "Global Furnishings Ltd"
  poNumber := some (numbered "PO-" sample.poNumber)
  poDate := day (-2)
  deliveryDate := day 7
  truckNumber := some (numbered "TR-" sample.truckNumber)
  driverName := some "Fast Transporters"
  driverContact := some (phone sample.driverContact)
  deliveryEta := some "2:00 PM"
  receivedQty := some (UInt32.ofNat (1 + sample.receivedQty))
  hasDamage := some .no
  receivedDate := day 1
  plannedDate := day 3
  timeSlot := some .morning
  teamAssigned := some "Team Alpha"
  vehicleNumber := some "DL-01-AB-1234"
  confirmed := some .yes
  installerName := some "Rajesh Kumar"
  installerContact := some (phone sample.installerContact)
  installDate := day 4
  workDone := some 0
  installStatus := some .pending
  paidAmount := some Decimal.zero
  paymentMode := some .upi
  paymentDate := day 0
  reference := some ("UPI-" ++ sample.reference)
  remark := some "Generated dummy data"

/-- The order at a stage with dates found by `day`. -/
def order (day : Days) (stage : Stage) (sample : Sample) : Item where
  id := ⟨"LEAD-" ++ sample.code⟩
  customerName := sample.customerName
  phone := phone sample.phone
  siteLocation := sample.siteLocation
  requirement := some sample.requirement
  quotationAmount := amount (50000 + sample.quoted)
  expectedDeliveryDate := day 10
  stage := stage
  attributes := attributes day sample

/-- Draws an order at a stage with dates found by `day`. -/
def item (day : Days) (stage : Stage) : Draw Item := return order day stage (← sample)

/-- Draws the orders for all stages with dates found by `day`. -/
def items (day : Days) : Draw (List Item) :=
  (Stage.working.flatMap fun stage => List.replicate itemsPerStage stage).mapM (item day)

/-- The orders counted from a day, if all dates up to ten days later and two days earlier lie in the
calendar. -/
def items? (generator : Generator) (today : Date) : Option (List Item) := do
  let _ ← today.addDays? 10
  let _ ← today.addDays? (-2)
  return (StateT.run (items today.addDays?) generator).1

end OrderPipeline.Demo
