import Truckmaster.QuoteLoad.Booking

namespace Truckmaster.Billing

open Common Fallible Tables QuoteLoad

inductive InvoiceStatus
  | draft | sent | partiallyPaid | paid | void | credited
  deriving DecidableEq, Repr

inductive AdjustmentType
  | credit | debit
  deriving DecidableEq, Repr

structure Invoice where
  id : Uuid
  invoiceNumber : String
  customerId : Uuid
  status : InvoiceStatus := .draft
  sentAt : Option Instant := none
  dueDate : Option Instant := none
  total : Cents
  remainingBalance : Cents
  createdByUserId : Uuid
  deriving DecidableEq, Repr

structure InvoiceLineItem where
  description : String
  amount : Cents
  sourceLoadId : Uuid
  sourceChargeLineItemId : Option Uuid := none
  deriving DecidableEq, Repr

structure InvoiceLoad where
  loadId : Uuid
  loadTotalAtInvoice : Cents
  deriving DecidableEq, Repr

structure Payment where
  id : Uuid
  amount : Cents
  paymentDate : Instant
  method : String
  referenceNumber : Option String
  notes : Option String
  recordedByUserId : Uuid
  deriving DecidableEq, Repr

structure Adjustment where
  id : Uuid
  type : AdjustmentType
  amount : Cents
  reason : String
  adjustmentDate : Instant
  createdByUserId : Uuid
  deriving DecidableEq, Repr

structure InvoiceRows where
  invoice : Invoice
  lineItems : List InvoiceLineItem
  invoiceLoads : List InvoiceLoad
  payments : List Payment := []
  adjustments : List Adjustment := []
  documents : List AttachedDocument := []
  audit : List AuditEvent

structure BillableLoad where
  load : Load
  chargeLineItems : List ChargeLineItem

structure CreateInvoiceInput where
  customerId : Uuid
  loadIds : List Uuid
  podWarningAcknowledged : Bool := false
  nonempty : loadIds ≠ [] := by simp

structure SendInvoiceInput where
  recipientEmail : String
  subject : String
  message : String
  filled : 1 ≤ subject.length ∧ 1 ≤ message.length := by decide

structure RecordPaymentInput where
  amount : PositiveDecimalInput
  paymentDate : Instant
  method : String
  referenceNumber : Option String := none
  notes : Option String := none
  filled : 1 ≤ method.length := by decide

structure AddAdjustmentInput where
  type : AdjustmentType
  amount : PositiveDecimalInput
  reason : String
  adjustmentDate : Option Instant := none
  filled : 1 ≤ reason.length := by decide

namespace InvoiceRows

def loadIds (rows : InvoiceRows) : List Uuid := rows.invoiceLoads.map InvoiceLoad.loadId

def found (rows : Option InvoiceRows) : Except AppError InvoiceRows :=
  require rows (.notFound "Invoice not found.")

def record (rows : InvoiceRows) (q : Request) (action : String) : InvoiceRows :=
  { rows with
    audit := rows.audit ++ [⟨action, "Invoice", rows.invoice.id, some q.actingUserId, .human, none⟩] }

end InvoiceRows

namespace InvoiceService

def billableStatuses : List LoadStatus := [.delivered, .closed]

def paymentTermsDays : PaymentTerms → ℤ
  | .dueOnReceipt => 0
  | .net15 => 15
  | .net30 => 30
  | .net45 => 45
  | .net60 => 60

def assertInvoiceable (dto : CreateInvoiceInput) (loads : List BillableLoad) : Except AppError Unit := do
  ensure (loads.length = dto.loadIds.length) (.notFound "One or more Loads not found.")
  ensure (∀ l ∈ loads, l.load.customerId = dto.customerId)
    (.businessRule "All selected Loads must belong to the same Customer.")
  ensure (∀ l ∈ loads, l.load.status ∈ billableStatuses ∧ l.load.invoiced = false)
    (.businessRule "All selected Loads must be Delivered or Closed, and not already invoiced.")
  let incompletePod := loads.filter (fun l => l.load.podStatus != .complete)
  ensure (incompletePod = [] ∨ dto.podWarningAcknowledged)
    (.podIncompleteWarning "POD is incomplete for one or more selected Loads."
      (incompletePod.map (fun l => l.load.id)))

def loadTotal (l : BillableLoad) : Cents :=
  ((l.chargeLineItems.filter (fun c => c.side == .customer)).map ChargeLineItem.amount).sum

def lineItemsData (label : Uuid → String) (loads : List BillableLoad) : List InvoiceLineItem :=
  match loads with
  | [l] => (l.chargeLineItems.filter (fun c => c.side == .customer)).map (fun c =>
      ⟨c.description.getD (label c.chargeTypeId), c.amount, l.load.id, some c.id⟩)
  | _ => loads.map (fun l => ⟨"Load " ++ l.load.loadNumber, loadTotal l, l.load.id, none⟩)

def invoiceRows (label : Uuid → String) (q : Request) (dto : CreateInvoiceInput) (nextNumber : ℕ)
    (loads : List BillableLoad) : InvoiceRows :=
  let lineItems := lineItemsData label loads
  let total := (lineItems.map InvoiceLineItem.amount).sum
  let invoice : Invoice :=
    { id := q.uuid 0, invoiceNumber := OrganizationSequenceService.format "INV" nextNumber
      customerId := dto.customerId, total, remainingBalance := total, createdByUserId := q.actingUserId }
  let created : InvoiceRows :=
    { invoice, lineItems, invoiceLoads := loads.map (fun l => ⟨l.load.id, loadTotal l⟩), audit := [] }
  let recorded := created.record q
    (if loads.length > 1 then "Invoice Created — Consolidated" else "Invoice Created — Individual")
  if loads.any (fun l => l.load.podStatus != .complete) then
    recorded.record q "Invoice Created Despite Incomplete POD"
  else recorded

/-- `stored` are the organization's Loads and `lastNumber` its last invoice number. -/
def create (label : Uuid → String) (q : Request) (lastNumber : ℕ) (stored : List BillableLoad)
    (dto : CreateInvoiceInput) : Except AppError InvoiceRows := do
  let loads := findMany (q.order 0) (fun l => decide (l.load.id ∈ dto.loadIds)) stored
  assertInvoiceable dto loads
  let rows := invoiceRows label q dto (lastNumber + 1) loads
  ensure (rows.invoice.total.natAbs ≤ decimalMax) (.database "Numeric field overflow.")
  pure rows

def send (r : Reference) (q : Request) (found : Option InvoiceRows) (_dto : SendInvoiceInput) :
    Except AppError InvoiceRows := do
  let existing ← InvoiceRows.found found
  ensure (existing.invoice.status = .draft) (.invalidTransition "Only a Draft invoice can be sent.")
  ensure (existing.lineItems ≠ [] ∧ 0 < existing.invoice.total) (.businessRule
    "An invoice must have at least one line item and a total greater than zero before it can be sent.")
  let customer ← require (r.customer existing.invoice.customerId) (.notFound "Customer not found.")
  let dueDate := q.now + paymentTermsDays customer.paymentTerms * RateAgreementMatchingService.dayMillis
  let documentType ← require (r.findType (q.order 0) "INVOICE" r.documentTypes)
    (.notFound "Invoice document type is not configured.")
  let document : AttachedDocument :=
    { id := q.uuid 0, documentTypeCode := documentType.code
      fileName := "Invoice-" ++ existing.invoice.invoiceNumber ++ ".pdf" }
  let invoice : Invoice :=
    { existing.invoice with status := .sent, sentAt := some q.now, dueDate := some dueDate }
  pure ({ existing with invoice, documents := existing.documents ++ [document] }.record q "Invoice Sent")

def totalPaid (rows : InvoiceRows) : Cents := (rows.payments.map Payment.amount).sum

def totalAdjusted (type : AdjustmentType) (rows : InvoiceRows) : Cents :=
  ((rows.adjustments.filter (fun a => a.type == type)).map Adjustment.amount).sum

def remaining (rows : InvoiceRows) : Cents :=
  rows.invoice.total - totalPaid rows - totalAdjusted .credit rows + totalAdjusted .debit rows

def recalculatedStatus (rows : InvoiceRows) : InvoiceStatus :=
  if rows.invoice.status = .void then .void
  else if remaining rows ≤ 0 then if 0 < totalPaid rows then .paid else .credited
  else if 0 < totalPaid rows then .partiallyPaid
  else rows.invoice.status

def recalculateInvoiceBalance (rows : InvoiceRows) : Except AppError InvoiceRows := do
  ensure ((remaining rows).natAbs ≤ decimalMax) (.database "Numeric field overflow.")
  pure { rows with
    invoice := { rows.invoice with remainingBalance := remaining rows, status := recalculatedStatus rows } }

def recordPayment (q : Request) (found : Option InvoiceRows) (dto : RecordPaymentInput) :
    Except AppError InvoiceRows := do
  let existing ← InvoiceRows.found found
  ensure (existing.invoice.status ∈ [InvoiceStatus.sent, .partiallyPaid])
    (.invalidTransition "A payment can only be recorded against a Sent invoice.")
  ensure (dto.amount.cents ≤ decimalMax) (.database "Numeric field overflow.")
  let payment : Payment := ⟨q.uuid 0, dto.amount.cents, dto.paymentDate, dto.method, dto.referenceNumber,
    dto.notes, q.actingUserId⟩
  let updated ← recalculateInvoiceBalance { existing with payments := existing.payments ++ [payment] }
  pure (updated.record q "Payment Recorded")

def addAdjustment (q : Request) (found : Option InvoiceRows) (dto : AddAdjustmentInput) :
    Except AppError InvoiceRows := do
  let existing ← InvoiceRows.found found
  ensure (existing.invoice.status ≠ .draft ∧ existing.invoice.status ≠ .void)
    (.invalidTransition "Adjustments require a Sent (or later-status) invoice.")
  ensure (dto.amount.cents ≤ decimalMax) (.database "Numeric field overflow.")
  let adjustment : Adjustment :=
    ⟨q.uuid 0, dto.type, dto.amount.cents, dto.reason, dto.adjustmentDate.getD q.now, q.actingUserId⟩
  let updated ← recalculateInvoiceBalance { existing with adjustments := existing.adjustments ++ [adjustment] }
  pure (updated.record q "Invoice Adjustment Created")

def voided (q : Request) (existing : InvoiceRows) : InvoiceRows :=
  { existing with invoice := { existing.invoice with status := .void } }.record q "Invoice Voided"

def void (q : Request) (found : Option InvoiceRows) : Except AppError (InvoiceRows × List Uuid) := do
  let existing ← InvoiceRows.found found
  ensure (existing.invoice.status ≠ .void) (.invalidTransition "This Invoice is already Void.")
  pure (voided q existing, existing.loadIds)

end InvoiceService

end Truckmaster.Billing
