import OrderPipeline.Form.Field

/-!
# The forms of the stages

Every working stage has a form, which also says how its tables look. The labels of the columns are
looked up by `Item.cell`.
-/

namespace OrderPipeline

namespace StageForm

/-- The remark that nearly every form ends with. -/
def remarkField : FormField :=
  { field := .remark, label := "Remark", multiline := true, placeholder := some "Add remarks..." }

/-- The form and tables of following up a quotation. -/
def followupForm : StageForm where
  stage := .followup
  title := "Followup Customer"
  subtitle := "Manage pending and completed records"
  pendingColumns :=
    ["Lead ID", "Customer Name", "Phone", "Location", "Requirement", "Quotation Amount",
      "Followup Status"]
  historyColumns :=
    ["Lead ID", "Customer Name", "Status", "What did customer say?", "Need Call Date", "Remark"]
  fields :=
    [{ field := .status, label := "Status", required := true },
      { field := .notes, label := "What did customer say?", multiline := true,
        placeholder := some "Enter customer response..." },
      { field := .callDate, label := "Need Call Date" },
      { field := .remark, label := "Remark", multiline := true,
        placeholder := some "Add any remarks..." }]

/-- The form and tables of checking the stock. -/
def stockForm : StageForm where
  stage := .stock
  title := "Check for Delivery From Stock"
  subtitle := "Verify stock availability and delivery readiness"
  pendingColumns :=
    ["Lead ID", "Customer Name", "Item Required", "Quantity", "Stock Available", "ETA"]
  historyColumns :=
    ["Lead ID", "Customer Name", "Stock Available", "Available Quantity", "Warehouse Location",
      "Expected Dispatch Date", "Remark"]
  fields :=
    [{ field := .stockAvailable, label := "Stock Available", required := true },
      { field := .quantity, label := "Available Quantity", placeholder := some "Enter quantity" },
      { field := .warehouse, label := "Warehouse Location",
        placeholder := some "Enter warehouse location" },
      { field := .dispatchDate, label := "Expected Dispatch Date" },
      remarkField]

/-- The form and tables of making a purchase order. -/
def poForm : StageForm where
  stage := .po
  title := "Make PO"
  subtitle := "Purchase Order creation and tracking"
  pendingColumns :=
    ["Lead ID", "Customer Name", "Vendor Name", "Item Name", "Qty", "PO Status"]
  historyColumns :=
    ["Lead ID", "Customer Name", "Vendor Name", "PO Number", "PO Date", "Expected Delivery Date",
      "Remark"]
  fields :=
    [{ field := .vendor, label := "Vendor Name", required := true,
        placeholder := some "Enter vendor name" },
      { field := .poNumber, label := "PO Number", required := true,
        placeholder := some "Enter PO number" },
      { field := .poDate, label := "PO Date", required := true },
      { field := .deliveryDate, label := "Expected Delivery Date" },
      remarkField]

/-- The form and tables of tracking the delivery. -/
def deliveryForm : StageForm where
  stage := .delivery
  title := "Truck Delivery"
  subtitle := "Track truck and driver information for delivery"
  pendingColumns :=
    ["Lead ID", "Customer Name", "Truck Number", "Driver Name", "Dispatch Date", "Status"]
  historyColumns :=
    ["Lead ID", "Customer Name", "Truck Number", "Driver Name", "Driver Contact", "Dispatch Date",
      "Delivery ETA", "Remark"]
  fields :=
    [{ field := .truckNumber, label := "Truck Number", required := true,
        placeholder := some "Enter truck number" },
      { field := .driverName, label := "Driver Name", required := true,
        placeholder := some "Enter driver name" },
      { field := .driverContact, label := "Driver Contact",
        placeholder := some "Enter contact number" },
      { field := .dispatchDate, label := "Dispatch Date", required := true },
      { field := .deliveryEta, label := "Delivery ETA",
        placeholder := some "Enter estimated arrival time" },
      remarkField]

/-- The form and tables of receiving the material. -/
def receivingForm : StageForm where
  stage := .receiving
  title := "Receiving Stock"
  subtitle := "Record material receipt and damage assessment"
  pendingColumns :=
    ["Lead ID", "Customer Name", "Material Name", "Received Qty", "Damage", "Status"]
  historyColumns :=
    ["Lead ID", "Customer Name", "Received Quantity", "Damage", "Damage Notes", "Received Date",
      "Remark"]
  fields :=
    [{ field := .receivedQty, label := "Received Quantity", required := true,
        placeholder := some "Enter quantity received" },
      { field := .hasDamage, label := "Damage", required := true },
      { field := .damageNotes, label := "Damage Notes", multiline := true,
        placeholder := some "Describe damage if any..." },
      { field := .receivedDate, label := "Received Date", required := true },
      remarkField]

/-- The form and tables of planning the dispatch. -/
def dispatchPlanForm : StageForm where
  stage := .dispatchPlan
  title := "Dispatch Planning for Customer"
  subtitle := "Plan dispatch schedule and team assignment"
  pendingColumns :=
    ["Lead ID", "Customer Name", "Planned Date", "Time Slot", "Team Assigned", "Status"]
  historyColumns :=
    ["Lead ID", "Customer Name", "Planned Dispatch Date", "Time Slot", "Team Assigned", "Remark"]
  fields :=
    [{ field := .plannedDate, label := "Planned Dispatch Date", required := true },
      { field := .timeSlot, label := "Time Slot", required := true },
      { field := .teamAssigned, label := "Team Assigned", required := true,
        placeholder := some "Enter team members" },
      remarkField]

/-- The form and tables of dispatching the order. -/
def dispatchForm : StageForm where
  stage := .dispatch
  title := "Dispatch"
  subtitle := "Dispatch with image and video proof"
  pendingColumns :=
    ["Lead ID", "Customer Name", "Dispatch Date", "Vehicle", "Proof Uploaded", "Status"]
  historyColumns :=
    ["Lead ID", "Customer Name", "Dispatch Date", "Vehicle Number", "Upload Image",
      "Upload Video", "Remark"]
  fields :=
    [{ field := .dispatchDate, label := "Dispatch Date", required := true },
      { field := .vehicleNumber, label := "Vehicle Number", required := true,
        placeholder := some "Enter vehicle number" },
      { field := .image, label := "Upload Image" },
      { field := .video, label := "Upload Video" },
      remarkField]

/-- The form and tables of confirming the receipt. -/
def confirmationForm : StageForm where
  stage := .confirmation
  title := "Receiving Confirmation"
  subtitle := "Confirm delivery and note any issues"
  pendingColumns :=
    ["Lead ID", "Customer Name", "Delivered Date", "Customer Confirmation", "Status"]
  historyColumns :=
    ["Lead ID", "Customer Name", "Delivered Date", "Customer Confirmation", "Any Issue", "Remark"]
  fields :=
    [{ field := .deliveredDate, label := "Delivered Date", required := true },
      { field := .confirmed, label := "Customer Confirmation", required := true },
      { field := .issues, label := "Any Issue", multiline := true,
        placeholder := some "Describe any issues..." },
      remarkField]

/-- The form and tables of sending an installer. -/
def installationForm : StageForm where
  stage := .installation
  title := "Send to Installation"
  subtitle := "Assign installer and schedule installation"
  pendingColumns :=
    ["Lead ID", "Customer Name", "Installer Name", "Installation Date", "Status"]
  historyColumns :=
    ["Lead ID", "Customer Name", "Installer Name", "Installer Contact", "Installation Date",
      "Remark"]
  fields :=
    [{ field := .installerName, label := "Installer Name", required := true,
        placeholder := some "Enter installer name" },
      { field := .installerContact, label := "Installer Contact",
        placeholder := some "Enter contact number" },
      { field := .installDate, label := "Installation Date", required := true },
      remarkField]

/-- The form and tables of installing the material. -/
def installMaterialForm : StageForm where
  stage := .installMaterial
  title := "Install to Material"
  subtitle := "Track installation progress and completion"
  pendingColumns :=
    ["Lead ID", "Customer Name", "Work Done %", "Installation Status"]
  historyColumns :=
    ["Lead ID", "Customer Name", "Work Done %", "Installation Status", "Issue Notes", "Remark"]
  fields :=
    [{ field := .workDone, label := "Work Done %" },
      { field := .installStatus, label := "Installation Status", required := true },
      { field := .issueNotes, label := "Issue Notes", multiline := true,
        placeholder := some "Note any issues..." },
      remarkField]

/-- The form and tables of the review of the customer. -/
def customerReviewForm : StageForm where
  stage := .customerReview
  title := "Customer Review"
  subtitle := "Collect customer feedback after installation"
  pendingColumns :=
    ["Lead ID", "Customer Name", "Installation Date", "Installation Status"]
  historyColumns :=
    ["Lead ID", "Customer Name", "Rating", "Feedback", "Would Recommend", "Remark"]
  fields :=
    [{ field := .rating, label := "Rating", required := true },
      { field := .feedback, label := "Feedback", multiline := true,
        placeholder := some "What did the customer say about the work?" },
      { field := .wouldRecommend, label := "Would Recommend" },
      remarkField]

/-- The form and tables of collecting the payment. -/
def paymentForm : StageForm where
  stage := .payment
  title := "Payment Collection"
  subtitle := "Track payment status and collection"
  pendingColumns :=
    ["Lead ID", "Customer Name", "Total Amount", "Paid Amount", "Balance", "Payment Status"]
  historyColumns :=
    ["Lead ID", "Customer Name", "Total Amount", "Paid Amount", "Balance", "Payment Mode",
      "Payment Date", "Transaction Reference"]
  fields :=
    [{ field := .paidAmount, label := "Paid Amount", required := true,
        placeholder := some "Enter amount paid" },
      { field := .paymentMode, label := "Payment Mode", required := true },
      { field := .paymentDate, label := "Payment Date", required := true },
      { field := .reference, label := "Transaction Reference",
        placeholder := some "Enter reference number" },
      remarkField]

/-- The forms of the working stages, in their order. -/
def all : List StageForm :=
  [followupForm, stockForm, poForm, deliveryForm,
    receivingForm, dispatchPlanForm, dispatchForm, confirmationForm,
    installationForm, installMaterialForm, customerReviewForm, paymentForm]

/-- The form of a stage; completed has none. -/
def of? (stage : Stage) : Option StageForm := all.find? fun form => form.stage == stage

/-- A stage has a form exactly when it is a working stage. -/
theorem of?_eq_none_iff (stage : Stage) : of? stage = none ↔ stage = .completed := by
  cases stage <;> decide

/-- The form found for a stage is the form of that stage. -/
theorem stage_of_of? {stage : Stage} {form : StageForm} (found : of? stage = some form) :
    form.stage = stage := by
  simpa using List.find?_some found

/-- A form that is found for a stage is one of the forms. -/
theorem mem_all_of_of? {stage : Stage} {form : StageForm}
    (formed : StageForm.of? stage = some form) : form ∈ StageForm.all :=
  List.mem_of_find?_eq_some formed

end StageForm

end OrderPipeline
