import OrderPipeline.Attributes.Value

/-!
# Attributes of an order

The forms of the stages write 42 attributes onto an order, each of which may be unset. `Attribute`
names them, `Attributes` is the record of their values, and `Attributes.get` is the view of the
record as a function from attributes to values: two records with the same view are equal
(`Attributes.ext_get`), and every operation is described by what it does to the view.

* `Attributes.merge` lays an update over a record: where the update is set, it wins (`get_merge`).
* `Attributes.toEntries` and `Attributes.decode` write and read the set attributes.
-/

namespace OrderPipeline

/-- The attributes, in the order in which they are stored. -/
inductive Attribute where
  /-- The answer to the follow-up. -/
  | status
  /-- What the customer said. -/
  | notes
  /-- When to call again. -/
  | callDate
  /-- Whether the stock suffices. -/
  | stockAvailable
  /-- How many pieces are available. -/
  | quantity
  /-- Where the stock is kept. -/
  | warehouse
  /-- When the material leaves. -/
  | dispatchDate
  /-- Who sells the material. -/
  | vendor
  /-- The number of the purchase order. -/
  | poNumber
  /-- The date of the purchase order. -/
  | poDate
  /-- When the material is expected. -/
  | deliveryDate
  /-- The number of the truck. -/
  | truckNumber
  /-- The name of the driver. -/
  | driverName
  /-- How to reach the driver. -/
  | driverContact
  /-- When the truck is expected. -/
  | deliveryEta
  /-- How many pieces were received. -/
  | receivedQty
  /-- Whether something was damaged. -/
  | hasDamage
  /-- What was damaged. -/
  | damageNotes
  /-- When the material was received. -/
  | receivedDate
  /-- When the dispatch is planned. -/
  | plannedDate
  /-- The part of the day that is planned. -/
  | timeSlot
  /-- Who is assigned. -/
  | teamAssigned
  /-- The number of the vehicle. -/
  | vehicleNumber
  /-- Pictures of the dispatch. -/
  | image
  /-- Films of the dispatch. -/
  | video
  /-- When the customer received the goods. -/
  | deliveredDate
  /-- Whether the customer confirmed the receipt. -/
  | confirmed
  /-- What the customer found fault with. -/
  | issues
  /-- The name of the installer. -/
  | installerName
  /-- How to reach the installer. -/
  | installerContact
  /-- When the installation takes place. -/
  | installDate
  /-- The share of the installation that is done. -/
  | workDone
  /-- How far the installation is. -/
  | installStatus
  /-- What hinders the installation. -/
  | issueNotes
  /-- The stars given by the customer. -/
  | rating
  /-- What the customer thinks of the work. -/
  | feedback
  /-- Whether the customer would recommend the work. -/
  | wouldRecommend
  /-- The amount that was paid. -/
  | paidAmount
  /-- How it was paid. -/
  | paymentMode
  /-- When it was paid. -/
  | paymentDate
  /-- The reference of the payment. -/
  | reference
  /-- Any remark. -/
  | remark
  deriving DecidableEq

namespace Attribute

/-- All attributes, in the order in which they are stored. -/
def all : List Attribute :=
  [.status, .notes, .callDate, .stockAvailable, .quantity, .warehouse, .dispatchDate, .vendor,
    .poNumber, .poDate, .deliveryDate, .truckNumber, .driverName, .driverContact, .deliveryEta,
    .receivedQty, .hasDamage, .damageNotes, .receivedDate, .plannedDate, .timeSlot, .teamAssigned,
    .vehicleNumber, .image, .video, .deliveredDate, .confirmed, .issues, .installerName,
    .installerContact, .installDate, .workDone, .installStatus, .issueNotes, .rating, .feedback,
    .wouldRecommend, .paidAmount, .paymentMode, .paymentDate, .reference, .remark]

/-- The name of an attribute in a record and on a form. -/
def name : Attribute → String
  | status => "status"
  | notes => "notes"
  | callDate => "callDate"
  | stockAvailable => "stockAvailable"
  | quantity => "quantity"
  | warehouse => "warehouse"
  | dispatchDate => "dispatchDate"
  | vendor => "vendor"
  | poNumber => "poNumber"
  | poDate => "poDate"
  | deliveryDate => "deliveryDate"
  | truckNumber => "truckNumber"
  | driverName => "driverName"
  | driverContact => "driverContact"
  | deliveryEta => "deliveryEta"
  | receivedQty => "receivedQty"
  | hasDamage => "hasDamage"
  | damageNotes => "damageNotes"
  | receivedDate => "receivedDate"
  | plannedDate => "plannedDate"
  | timeSlot => "timeSlot"
  | teamAssigned => "teamAssigned"
  | vehicleNumber => "vehicleNumber"
  | image => "image"
  | video => "video"
  | deliveredDate => "deliveredDate"
  | confirmed => "confirmed"
  | issues => "issues"
  | installerName => "installerName"
  | installerContact => "installerContact"
  | installDate => "installDate"
  | workDone => "workDone"
  | installStatus => "installStatus"
  | issueNotes => "issueNotes"
  | rating => "rating"
  | feedback => "feedback"
  | wouldRecommend => "wouldRecommend"
  | paidAmount => "paidAmount"
  | paymentMode => "paymentMode"
  | paymentDate => "paymentDate"
  | reference => "reference"
  | remark => "remark"

/-- The kind of values that an attribute holds. -/
abbrev type : Attribute → ValueType
  | status => .followupStatus
  | notes => .text
  | callDate => .date
  | stockAvailable => .yesNo
  | quantity => .quantity
  | warehouse => .text
  | dispatchDate => .date
  | vendor => .text
  | poNumber => .text
  | poDate => .date
  | deliveryDate => .date
  | truckNumber => .text
  | driverName => .text
  | driverContact => .text
  | deliveryEta => .text
  | receivedQty => .quantity
  | hasDamage => .yesNo
  | damageNotes => .text
  | receivedDate => .date
  | plannedDate => .date
  | timeSlot => .timeSlot
  | teamAssigned => .text
  | vehicleNumber => .text
  | image => .files
  | video => .files
  | deliveredDate => .date
  | confirmed => .yesNo
  | issues => .text
  | installerName => .text
  | installerContact => .text
  | installDate => .date
  | workDone => .percentage
  | installStatus => .installStatus
  | issueNotes => .text
  | rating => .stars
  | feedback => .text
  | wouldRecommend => .flag
  | paidAmount => .amount
  | paymentMode => .paymentMode
  | paymentDate => .date
  | reference => .text
  | remark => .text

/-- The values of an attribute. -/
abbrev Value (field : Attribute) : Type := field.type.Carrier

/-- The attribute with a name, if there is one. -/
def ofName? (name : String) : Option Attribute :=
  all.find? fun field => field.name == name

@[simp] theorem mem_all (field : Attribute) : field ∈ all := by cases field <;> decide

end Attribute

/-- The attributes of an order, or the part of them that a form was filled in with. -/
structure Attributes where
  /-- The answer to the follow-up. -/
  status : Option FollowupStatus := none
  /-- What the customer said. -/
  notes : Option String := none
  /-- When to call again. -/
  callDate : Option Date := none
  /-- Whether the stock suffices. -/
  stockAvailable : Option YesNo := none
  /-- How many pieces are available. -/
  quantity : Option UInt32 := none
  /-- Where the stock is kept. -/
  warehouse : Option String := none
  /-- When the material leaves. -/
  dispatchDate : Option Date := none
  /-- Who sells the material. -/
  vendor : Option String := none
  /-- The number of the purchase order. -/
  poNumber : Option String := none
  /-- The date of the purchase order. -/
  poDate : Option Date := none
  /-- When the material is expected. -/
  deliveryDate : Option Date := none
  /-- The number of the truck. -/
  truckNumber : Option String := none
  /-- The name of the driver. -/
  driverName : Option String := none
  /-- How to reach the driver. -/
  driverContact : Option String := none
  /-- When the truck is expected. -/
  deliveryEta : Option String := none
  /-- How many pieces were received. -/
  receivedQty : Option UInt32 := none
  /-- Whether something was damaged. -/
  hasDamage : Option YesNo := none
  /-- What was damaged. -/
  damageNotes : Option String := none
  /-- When the material was received. -/
  receivedDate : Option Date := none
  /-- When the dispatch is planned. -/
  plannedDate : Option Date := none
  /-- The part of the day that is planned. -/
  timeSlot : Option TimeSlot := none
  /-- Who is assigned. -/
  teamAssigned : Option String := none
  /-- The number of the vehicle. -/
  vehicleNumber : Option String := none
  /-- Pictures of the dispatch. -/
  image : Option (List FileRef) := none
  /-- Films of the dispatch. -/
  video : Option (List FileRef) := none
  /-- When the customer received the goods. -/
  deliveredDate : Option Date := none
  /-- Whether the customer confirmed the receipt. -/
  confirmed : Option YesNo := none
  /-- What the customer found fault with. -/
  issues : Option String := none
  /-- The name of the installer. -/
  installerName : Option String := none
  /-- How to reach the installer. -/
  installerContact : Option String := none
  /-- When the installation takes place. -/
  installDate : Option Date := none
  /-- The share of the installation that is done. -/
  workDone : Option UInt8 := none
  /-- How far the installation is. -/
  installStatus : Option InstallStatus := none
  /-- What hinders the installation. -/
  issueNotes : Option String := none
  /-- The stars given by the customer. -/
  rating : Option UInt8 := none
  /-- What the customer thinks of the work. -/
  feedback : Option String := none
  /-- Whether the customer would recommend the work. -/
  wouldRecommend : Option Bool := none
  /-- The amount that was paid. -/
  paidAmount : Option Decimal := none
  /-- How it was paid. -/
  paymentMode : Option PaymentMode := none
  /-- When it was paid. -/
  paymentDate : Option Date := none
  /-- The reference of the payment. -/
  reference : Option String := none
  /-- Any remark. -/
  remark : Option String := none

namespace Attributes

/-- The value of an attribute, if it is set. -/
def get (attributes : Attributes) : (field : Attribute) → Option field.Value
  | .status => attributes.status
  | .notes => attributes.notes
  | .callDate => attributes.callDate
  | .stockAvailable => attributes.stockAvailable
  | .quantity => attributes.quantity
  | .warehouse => attributes.warehouse
  | .dispatchDate => attributes.dispatchDate
  | .vendor => attributes.vendor
  | .poNumber => attributes.poNumber
  | .poDate => attributes.poDate
  | .deliveryDate => attributes.deliveryDate
  | .truckNumber => attributes.truckNumber
  | .driverName => attributes.driverName
  | .driverContact => attributes.driverContact
  | .deliveryEta => attributes.deliveryEta
  | .receivedQty => attributes.receivedQty
  | .hasDamage => attributes.hasDamage
  | .damageNotes => attributes.damageNotes
  | .receivedDate => attributes.receivedDate
  | .plannedDate => attributes.plannedDate
  | .timeSlot => attributes.timeSlot
  | .teamAssigned => attributes.teamAssigned
  | .vehicleNumber => attributes.vehicleNumber
  | .image => attributes.image
  | .video => attributes.video
  | .deliveredDate => attributes.deliveredDate
  | .confirmed => attributes.confirmed
  | .issues => attributes.issues
  | .installerName => attributes.installerName
  | .installerContact => attributes.installerContact
  | .installDate => attributes.installDate
  | .workDone => attributes.workDone
  | .installStatus => attributes.installStatus
  | .issueNotes => attributes.issueNotes
  | .rating => attributes.rating
  | .feedback => attributes.feedback
  | .wouldRecommend => attributes.wouldRecommend
  | .paidAmount => attributes.paidAmount
  | .paymentMode => attributes.paymentMode
  | .paymentDate => attributes.paymentDate
  | .reference => attributes.reference
  | .remark => attributes.remark

/-- The record with given values. -/
def ofValues (value : (field : Attribute) → Option field.Value) : Attributes where
  status := value .status
  notes := value .notes
  callDate := value .callDate
  stockAvailable := value .stockAvailable
  quantity := value .quantity
  warehouse := value .warehouse
  dispatchDate := value .dispatchDate
  vendor := value .vendor
  poNumber := value .poNumber
  poDate := value .poDate
  deliveryDate := value .deliveryDate
  truckNumber := value .truckNumber
  driverName := value .driverName
  driverContact := value .driverContact
  deliveryEta := value .deliveryEta
  receivedQty := value .receivedQty
  hasDamage := value .hasDamage
  damageNotes := value .damageNotes
  receivedDate := value .receivedDate
  plannedDate := value .plannedDate
  timeSlot := value .timeSlot
  teamAssigned := value .teamAssigned
  vehicleNumber := value .vehicleNumber
  image := value .image
  video := value .video
  deliveredDate := value .deliveredDate
  confirmed := value .confirmed
  issues := value .issues
  installerName := value .installerName
  installerContact := value .installerContact
  installDate := value .installDate
  workDone := value .workDone
  installStatus := value .installStatus
  issueNotes := value .issueNotes
  rating := value .rating
  feedback := value .feedback
  wouldRecommend := value .wouldRecommend
  paidAmount := value .paidAmount
  paymentMode := value .paymentMode
  paymentDate := value .paymentDate
  reference := value .reference
  remark := value .remark

@[simp] theorem get_ofValues (value : (field : Attribute) → Option field.Value)
    (field : Attribute) : (ofValues value).get field = value field := by
  cases field <;> rfl

@[simp] theorem ofValues_get (attributes : Attributes) : ofValues attributes.get = attributes := rfl

/-- Two records with the same values are equal. -/
theorem ext_get {left right : Attributes}
    (same : ∀ field, left.get field = right.get field) : left = right := by
  rw [← ofValues_get left, ← ofValues_get right, funext same]

instance : DecidableEq Attributes := fun left right =>
  if same : ∀ field ∈ Attribute.all, left.get field = right.get field then
    isTrue (ext_get fun field => same field (Attribute.mem_all field))
  else isFalse fun equal => same fun _ _ => by rw [equal]

/-- The record in which nothing is set. -/
def empty : Attributes := {}

instance : Inhabited Attributes := ⟨empty⟩

/-- The record overlaid with an update: what the update sets replaces what was set before. -/
def merge (attributes update : Attributes) : Attributes :=
  ofValues fun field => (update.get field).or (attributes.get field)

/-- A record set in one attribute. -/
def single (field : Attribute) (value : field.Value) : Attributes :=
  ofValues fun other => if same : field = other then some (same ▸ value) else none

/-- Whether an attribute is set. -/
def isSet (attributes : Attributes) (field : Attribute) : Bool :=
  (attributes.get field).isSome

/-- Whether nothing is set. -/
def isEmpty (attributes : Attributes) : Bool :=
  Attribute.all.all fun field => !attributes.isSet field

/-- The record with its amount in lowest terms. -/
def canonical (attributes : Attributes) : Attributes :=
  ofValues fun field => (attributes.get field).map field.type.canonical

@[simp] theorem get_empty (field : Attribute) : empty.get field = none := by
  cases field <;> rfl

@[simp] theorem get_merge (attributes update : Attributes) (field : Attribute) :
    (attributes.merge update).get field =
      (update.get field).or (attributes.get field) := by
  simp [merge]

/-- The set attributes with their values, in stored order. -/
def toEntries (attributes : Attributes) : List (String × Json) :=
  Attribute.all.filterMap fun field =>
    (attributes.get field).map fun value => (field.name, field.type.encode value)

/-- The record as JSON, without what is unset. -/
def toJson (attributes : Attributes) : Json := .object attributes.toEntries

/-- The JSON value of the attribute with a name, if there is one and it is set. -/
def field? (attributes : Attributes) (name : String) : Option Json := do
  let field ← Attribute.ofName? name
  let value ← attributes.get field
  return field.type.encode value

/-- The names of the set attributes, in the order of their characters. -/
def setNames (attributes : Attributes) : List String :=
  ((Attribute.all.filter attributes.isSet).map Attribute.name).mergeSort fun left right =>
    decide (left ≤ right)

/-- Reads the values of the given fields; `kept` tells whether they had been set aside. -/
def decodeFields (kept : Bool) (fields : Json.Fields) : Except Json.Fault Attributes :=
  let read := fun field : Attribute =>
    fields.optional field.name (field.type.decode kept)
  let fault := Attribute.all.foldl
    (fun first field => Json.earlier first (Json.faultOf (read field))) fields.flaw
  match fault with
  | some fault => .error fault
  | none => .ok (ofValues fun field => ((read field).toOption).join)

/-- Reads a record of attributes. -/
def decode (kept : Bool) : Json.Decoder Attributes := fun node => do
  decodeFields kept (← node.asFields "ItemAttributes" (Attribute.all.map Attribute.name))

end Attributes

end OrderPipeline
