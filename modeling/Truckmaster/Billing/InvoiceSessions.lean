import Truckmaster.Billing.Invoices
import Truckmaster.Library.ReadCommitted

/-! The create and void requests on the invoices of one organization, statement by statement. -/

namespace Truckmaster.Billing

open Common QuoteLoad ReadCommitted Tables InvoiceService

inductive BillingRow
  | sequence
  | load (id : Uuid)
  | invoice (id : Uuid)
  deriving DecidableEq

structure BillingDb where
  invoiceSequence : Option ℕ
  loads : Table (fun l : BillableLoad => l.load.id)
  invoices : Table (fun rows : InvoiceRows => rows.invoice.id)

inductive BillingWrite
  | setSequence (value : ℕ)
  | insertInvoice (rows : InvoiceRows)
  | setInvoiced (invoiced : Bool) (id : Uuid)
  | setVoid (q : Request) (id : Uuid)

inductive InvoiceRequest
  | create (q : Request) (dto : CreateInvoiceInput)
  | void (q : Request) (id : Uuid)

namespace InvoiceRequest

def invoiced : InvoiceRequest → Bool
  | .create .. => true
  | .void .. => false

end InvoiceRequest

inductive InvoiceFrame
  | findLoads (q : Request) (dto : CreateInvoiceInput)
  | upsertSequence (q : Request) (dto : CreateInvoiceInput) (loads : List BillableLoad)
  | lockSequence (q : Request) (dto : CreateInvoiceInput) (loads : List BillableLoad)
  | updateSequence (q : Request) (dto : CreateInvoiceInput) (loads : List BillableLoad) (next : ℕ)
  | insertInvoice (q : Request) (dto : CreateInvoiceInput) (loads : List BillableLoad) (next : ℕ)
  | findInvoice (q : Request) (id : Uuid)
  | findInvoiceLoads (q : Request) (id : Uuid)
  | updateInvoice (q : Request) (id : Uuid) (loadIds : List Uuid)
  | updateLoads (r : InvoiceRequest) (pending : List Uuid)
  | rollback (e : AppError)
  | done (failure : Option AppError)

def InvoiceRequest.start : InvoiceRequest → InvoiceFrame
  | .create q dto => .findLoads q dto
  | .void q id => .findInvoice q id

def BillableLoad.withInvoiced (invoiced : Bool) (l : BillableLoad) : BillableLoad :=
  { l with load := { l.load with invoiced } }

lemma withInvoiced_id (invoiced : Bool) (l : BillableLoad) : (l.withInvoiced invoiced).load.id = l.load.id := rfl

lemma voided_id (q : Request) (rows : InvoiceRows) : (voided q rows).invoice.id = rows.invoice.id := rfl

namespace BillingDb

def findLoads (d : BillingDb) (q : Request) (dto : CreateInvoiceInput) : List BillableLoad :=
  findMany (q.order 0) (fun l => decide (l.load.id ∈ dto.loadIds)) d.loads.rows

def findInvoice (d : BillingDb) (o : RowOrder) (id : Uuid) : Option InvoiceRows :=
  findFirst o (fun rows => rows.invoice.id == id) d.invoices.rows

def setInvoiced (d : BillingDb) (invoiced : Bool) (id : Uuid) : BillingDb :=
  { d with loads := d.loads.update id (.withInvoiced invoiced) (withInvoiced_id invoiced) }

def write : BillingWrite → BillingDb → BillingDb
  | .setSequence value, d => { d with invoiceSequence := some value }
  | .insertInvoice rows, d => { d with invoices := (d.invoices.insert rows).getD d.invoices }
  | .setInvoiced invoiced id, d => d.setInvoiced invoiced id
  | .setVoid q id, d => { d with invoices := d.invoices.update id (voided q) (voided_id q) }

end BillingDb

def invoiceStatement (label : Uuid → String) :
    InvoiceFrame → Action BillingDb BillingRow InvoiceFrame BillingWrite
  | .findLoads q dto => .run fun d =>
    match assertInvoiceable dto (d.findLoads q dto) with
    | .ok _ => (.upsertSequence q dto (d.findLoads q dto), [])
    | .error e => (.rollback e, [])
  | .upsertSequence q dto loads => .lock .sequence fun d =>
    (.lockSequence q dto loads, if d.invoiceSequence = none then [.setSequence 0] else [])
  | .lockSequence q dto loads => .lock .sequence fun d =>
    (.updateSequence q dto loads (d.invoiceSequence.getD 0 + 1), [])
  | .updateSequence q dto loads next => .lock .sequence fun _ =>
    (.insertInvoice q dto loads next, [.setSequence next])
  | .insertInvoice q dto loads next => .lock (.invoice (q.uuid 0)) fun d =>
    let rows := invoiceRows label q dto next loads
    if rows.invoice.total.natAbs ≤ decimalMax then
      -- the primary key and the unique key of the table
      if rows.invoice.id ∉ d.invoices.rows.map (fun a => a.invoice.id) ∧
          rows.invoice.invoiceNumber ∉ d.invoices.rows.map (fun a => a.invoice.invoiceNumber) then
        (.updateLoads (.create q dto) ((q.order 1).arrange dto.loadIds), [.insertInvoice rows])
      else (.rollback (.database "Unique constraint failed."), [])
    else (.rollback (.database "Numeric field overflow."), [])
  | .findInvoice q id => .run fun d =>
    match InvoiceService.void q (d.findInvoice (q.order 0) id) with
    | .ok _ => (.findInvoiceLoads q id, [])
    | .error e => (.rollback e, [])
  | .findInvoiceLoads q id => .run fun d =>
    (.updateInvoice q id (((d.findInvoice (q.order 1) id).map InvoiceRows.loadIds).getD []), [])
  | .updateInvoice q id loadIds => .lock (.invoice id) fun _ =>
    (.updateLoads (.void q id) ((q.order 2).arrange loadIds), [.setVoid q id])
  | .updateLoads r (id :: pending) => .lock (.load id) fun _ =>
    (.updateLoads r pending, [.setInvoiced r.invoiced id])
  | .updateLoads _ [] => .commit (.done none)
  | .rollback e => .rollback (.done (some e))
  | .done _ => .stop

/-- Both requests run in one `withTenantTransaction` each. -/
def invoiceCode (label : Uuid → String) : Code BillingDb BillingRow InvoiceFrame BillingWrite where
  action := invoiceStatement label
  apply := BillingDb.write
  fail _ := .done (some (.database "Transaction aborted."))

variable (label : Uuid → String) {d : BillingDb}

lemma BillingDb.setInvoiced_rows (b : Bool) (id : Uuid) : (d.setInvoiced b id).loads.rows =
    d.loads.rows.map (fun l => if l.load.id = id then l.withInvoiced b else l) :=
  Table.update_rows d.loads id _ (withInvoiced_id b)

lemma flags_frame (b : Bool) (flags : List Uuid) (d : BillingDb) :
    ((invoiceCode label).applyAll (flags.map (.setInvoiced b)) d).invoices = d.invoices ∧
      ((invoiceCode label).applyAll (flags.map (.setInvoiced b)) d).invoiceSequence = d.invoiceSequence := by
  induction flags generalizing d with
  | nil => exact ⟨rfl, rfl⟩
  | cons x flags ih => exact ih (d.setInvoiced b x)

lemma flags_invoices (b : Bool) (flags : List Uuid) (d : BillingDb) :
    ((invoiceCode label).applyAll (flags.map (.setInvoiced b)) d).invoices = d.invoices :=
  (flags_frame label b flags d).1

lemma flags_loads (b : Bool) (flags : List Uuid) (d : BillingDb) :
    ((invoiceCode label).applyAll (flags.map (.setInvoiced b)) d).loads.rows =
      d.loads.rows.map (fun l => if l.load.id ∈ flags then l.withInvoiced b else l) := by
  induction flags generalizing d with
  | nil => simp
  | cons x flags ih =>
    refine (ih (d.setInvoiced b x)).trans ?_
    rw [BillingDb.setInvoiced_rows, List.map_map]
    apply List.map_congr_left
    intro l _
    by_cases hx : l.load.id = x
    · simp [hx, BillableLoad.withInvoiced]
    · simp [hx]

end Truckmaster.Billing
