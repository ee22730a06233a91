import OrderPipeline.Item

/-!
# Columns of a table

The label of a column names a property of an order (`Property.ofLabel?`), and `Item.cell` is the
text that stands in the column; a dash stands for what is not there.
-/

namespace OrderPipeline

/-- What a column of a table can show of an order. -/
inductive Property where
  /-- The identifier. -/
  | id
  /-- The name of the customer. -/
  | customerName
  /-- How to reach the customer. -/
  | phone
  /-- Where the order goes. -/
  | siteLocation
  /-- What is ordered. -/
  | requirement
  /-- The amount that was quoted. -/
  | quotationAmount
  /-- What is still to be paid. -/
  | balance
  /-- An attribute. -/
  | field (field : Attribute)
  deriving DecidableEq

namespace Property

/-- The labels that are listed, with what they show. -/
def labels : List (String × Property) :=
  [("Lead ID", .id), ("Customer Name", .customerName), ("Phone", .phone),
    ("Location", .siteLocation), ("Requirement", .requirement), ("Item Required", .requirement),
    ("Item Name", .requirement), ("Material Name", .requirement),
    ("Quotation Amount", .quotationAmount), ("Total Amount", .quotationAmount),
    ("Qty", .field .quantity), ("Quantity", .field .quantity),
    ("Available Quantity", .field .quantity), ("Received Qty", .field .receivedQty),
    ("Received Quantity", .field .receivedQty), ("Work Done %", .field .workDone),
    ("Paid Amount", .field .paidAmount), ("Balance", .balance), ("Status", .field .status),
    ("Followup Status", .field .status), ("What did customer say?", .field .notes),
    ("Need Call Date", .field .callDate), ("Upload Image", .field .image),
    ("Upload Video", .field .video), ("Remark", .field .remark),
    ("Stock Available", .field .stockAvailable), ("Warehouse Location", .field .warehouse),
    ("Expected Dispatch Date", .field .dispatchDate), ("Dispatch Date", .field .dispatchDate),
    ("Vendor Name", .field .vendor), ("PO Number", .field .poNumber),
    ("PO Date", .field .poDate), ("Expected Delivery Date", .field .deliveryDate),
    ("Truck Number", .field .truckNumber), ("Driver Name", .field .driverName),
    ("Driver Contact", .field .driverContact), ("Delivery ETA", .field .deliveryEta),
    ("Damage", .field .hasDamage), ("Damage Notes", .field .damageNotes),
    ("Received Date", .field .receivedDate), ("Planned Date", .field .plannedDate),
    ("Planned Dispatch Date", .field .plannedDate), ("Time Slot", .field .timeSlot),
    ("Team Assigned", .field .teamAssigned), ("Vehicle", .field .vehicleNumber),
    ("Vehicle Number", .field .vehicleNumber), ("Delivered Date", .field .deliveredDate),
    ("Customer Confirmation", .field .confirmed), ("Any Issue", .field .issues),
    ("Installer Name", .field .installerName), ("Installer Contact", .field .installerContact),
    ("Installation Date", .field .installDate), ("Installation Status", .field .installStatus),
    ("Issue Notes", .field .issueNotes), ("Rating", .field .rating),
    ("Feedback", .field .feedback), ("Would Recommend", .field .wouldRecommend),
    ("Payment Mode", .field .paymentMode), ("Payment Date", .field .paymentDate),
    ("Transaction Reference", .field .reference)]

/-- A label in lower case with its words joined by underscores. -/
def keyOf (label : String) : String :=
  "_".intercalate (Text.words (Text.lower label))

/-- The property that a label shows: a listed one, or else the property whose name is the label in
lower case. -/
def ofLabel? (label : String) : Option Property :=
  match labels.lookup label with
  | some property => some property
  | none =>
    match keyOf label with
    | "id" => some .id
    | "phone" => some .phone
    | "requirement" => some .requirement
    | "balance" => some .balance
    | key => (Attribute.ofName? key).map .field

end Property

namespace Item

/-- An amount in a table, in lowest terms. -/
def amountCell (amount : Option Decimal) : String :=
  (amount.map fun value => value.normalize.text).getD "-"

/-- What an order shows for a property. -/
def propertyCell (item : Item) : Property → String
  | .id => ValueType.textCell item.id.text
  | .customerName => ValueType.textCell item.customerName
  | .phone => ValueType.textCell item.phone
  | .siteLocation => ValueType.textCell item.siteLocation
  | .requirement => ValueType.textCell (item.requirement.getD "")
  | .quotationAmount => amountCell item.quotationAmount
  | .balance => amountCell item.balance
  | .field field => ((item.attributes.get field).map field.type.cell).getD "-"

/-- What an order shows in a column with a label. -/
def cell (item : Item) (label : String) : String :=
  match Property.ofLabel? label with
  | some property => item.propertyCell property
  | none => "-"

end Item

end OrderPipeline
