import Truckmaster.Billing.InvoicesPerLoad

namespace Truckmaster.Billing

open Common Fallible QuoteLoad Runs Tables InvoiceService

/-- What another service writes to a Load: only the invoice service writes `invoiced`. -/
structure LoadRevision where
  apply : BillableLoad → BillableLoad
  keeps_id : ∀ l, (apply l).load.id = l.load.id
  keeps_invoiced : ∀ l, (apply l).load.invoiced = l.load.invoiced

inductive LedgerOp
  | create (dto : CreateInvoiceInput)
  | send (id : Uuid) (dto : SendInvoiceInput)
  | recordPayment (id : Uuid) (dto : RecordPaymentInput)
  | addAdjustment (id : Uuid) (dto : AddAdjustmentInput)
  | void (id : Uuid)
  | reviseLoad (id : Uuid) (revision : LoadRevision)

structure LedgerCall where
  label : Uuid → String
  reference : Reference
  request : Request
  op : LedgerOp

namespace BillingDb

def setInvoicedMany (d : BillingDb) (invoiced : Bool) (ids : List Uuid) : BillingDb :=
  { d with
    loads := d.loads.edit (fun id => decide (id ∈ ids)) (.withInvoiced invoiced) (withInvoiced_id invoiced) }

def replaceInvoice (d : BillingDb) (rows : InvoiceRows) : BillingDb := { d with invoices := d.invoices.replace rows }

def reviseLoad (d : BillingDb) (id : Uuid) (revision : LoadRevision) : BillingDb :=
  { d with loads := d.loads.update id revision.apply revision.keeps_id }

end BillingDb

namespace LedgerCall

def create (c : LedgerCall) (d : BillingDb) (dto : CreateInvoiceInput) : Except AppError BillingDb := do
  let nextNumber := d.invoiceSequence.getD 0 + 1
  let rows ← InvoiceService.create c.label c.request (d.invoiceSequence.getD 0) d.loads.rows dto
  ensure (rows.invoice.invoiceNumber ∉ d.invoices.rows.map (fun a => a.invoice.invoiceNumber))
    (.database "Unique constraint failed.")
  let invoices ← require (d.invoices.insert rows) (.database "Unique constraint failed.")
  pure ({ d with invoiceSequence := some nextNumber, invoices }.setInvoicedMany true dto.loadIds)

def void (c : LedgerCall) (d : BillingDb) (id : Uuid) : Except AppError BillingDb := do
  let (rows, loadIds) ← InvoiceService.void c.request (d.findInvoice (c.request.order 1) id)
  pure ((d.replaceInvoice rows).setInvoicedMany false loadIds)

def exec (c : LedgerCall) (d : BillingDb) : Except AppError BillingDb :=
  let find := d.findInvoice (c.request.order 1)
  match c.op with
  | .create dto => c.create d dto
  | .send id dto => d.replaceInvoice <$> InvoiceService.send c.reference c.request (find id) dto
  | .recordPayment id dto => d.replaceInvoice <$> InvoiceService.recordPayment c.request (find id) dto
  | .addAdjustment id dto => d.replaceInvoice <$> InvoiceService.addAdjustment c.request (find id) dto
  | .void id => c.void d id
  | .reviseLoad id revision => .ok (d.reviseLoad id revision)

end LedgerCall

variable {d t : BillingDb} {rows rows' : InvoiceRows} {q : Request} {id : Uuid} {c : LedgerCall}
  {calls : List LedgerCall}

def InvoiceRows.billsLoad (id : Uuid) (rows : InvoiceRows) : Bool :=
  decide (rows.invoice.status ≠ .void ∧ id ∈ rows.loadIds)

def InvoiceRows.Totalled (rows : InvoiceRows) : Prop :=
  rows.invoice.total = (rows.lineItems.map InvoiceLineItem.amount).sum ∧
    rows.invoice.total = (rows.invoiceLoads.map InvoiceLoad.loadTotalAtInvoice).sum

namespace BillingDb

def billings (d : BillingDb) (id : Uuid) : ℕ := d.invoices.rows.countP (InvoiceRows.billsLoad id)

structure Ledger (d : BillingDb) : Prop where
  flags : ∀ l ∈ d.loads.rows, d.billings l.load.id = if l.load.invoiced then 1 else 0
  totals : ∀ rows ∈ d.invoices.rows, rows.Totalled

structure Unbilled (d : BillingDb) : Prop where
  invoices : d.invoices.rows = []
  flags : ∀ l ∈ d.loads.rows, l.load.invoiced = false

lemma Unbilled.ledger (h : d.Unbilled) : d.Ledger := by
  refine ⟨fun l hl => ?_, fun rows hrows => ?_⟩
  · rw [billings, h.invoices, h.flags l hl]
    rfl
  · rw [h.invoices] at hrows
    cases hrows

lemma setInvoicedMany_loads (b : Bool) (ids : List Uuid) : (d.setInvoicedMany b ids).loads.rows =
    d.loads.rows.map (fun l => if l.load.id ∈ ids then l.withInvoiced b else l) := by
  simp [setInvoicedMany, Table.edit]

lemma Ledger.setInvoicedMany (hloads : t.loads = d.loads) (htotals : ∀ rows ∈ t.invoices.rows, rows.Totalled)
    {b : Bool} {ids : List Uuid}
    (hin : ∀ l ∈ d.loads.rows, l.load.id ∈ ids → t.billings l.load.id = if b then 1 else 0)
    (hout : ∀ l ∈ d.loads.rows, l.load.id ∉ ids → t.billings l.load.id = if l.load.invoiced then 1 else 0) :
    (t.setInvoicedMany b ids).Ledger := by
  refine ⟨fun l' hl' => ?_, htotals⟩
  rw [setInvoicedMany_loads, hloads] at hl'
  obtain ⟨l, hl, rfl⟩ := List.mem_map.mp hl'
  by_cases hid : l.load.id ∈ ids
  · rw [if_pos hid]
    exact hin l hl hid
  · rw [if_neg hid]
    exact hout l hl hid

end BillingDb

open BillingDb

structure Revised (rows rows' : InvoiceRows) : Prop where
  id : rows'.invoice.id = rows.invoice.id
  total : rows'.invoice.total = rows.invoice.total
  lineItems : rows'.lineItems = rows.lineItems
  invoiceLoads : rows'.invoiceLoads = rows.invoiceLoads

lemma Revised.loadIds (h : Revised rows rows') : rows'.loadIds = rows.loadIds := by
  rw [InvoiceRows.loadIds, InvoiceRows.loadIds, h.invoiceLoads]

lemma Revised.totalled (h : Revised rows rows') (hrows : rows.Totalled) : rows'.Totalled := by
  rw [InvoiceRows.Totalled, h.total, h.lineItems, h.invoiceLoads]
  exact hrows

lemma found_eq_ok {found : Option InvoiceRows} : InvoiceRows.found found = .ok rows ↔ found = some rows := require_eq_ok

lemma recalculate_revised (h : recalculateInvoiceBalance rows = .ok rows') (hlive : rows.invoice.status ≠ .void) :
    Revised rows rows' ∧ rows'.invoice.status ≠ .void := by
  have hstatus := (recalculate_ok h).status
  simp only [recalculateInvoiceBalance, bind_eq_ok, ensure_eq_ok, pure_eq_ok] at h
  obtain ⟨_, _, rfl⟩ := h
  refine ⟨⟨rfl, rfl, rfl, rfl⟩, ?_⟩
  rw [hstatus, recalculatedStatus, if_neg hlive]
  split_ifs
  all_goals first | exact hlive | rintro ⟨⟩

lemma send_revises {r : Reference} {found : Option InvoiceRows} {dto : SendInvoiceInput}
    (h : InvoiceService.send r q found dto = .ok rows') :
    ∃ rows, found = some rows ∧ Revised rows rows' ∧ rows.invoice.status ≠ .void ∧ rows'.invoice.status ≠ .void := by
  simp only [InvoiceService.send, bind_eq_ok, ensure_eq_ok, pure_eq_ok, found_eq_ok, require_eq_ok] at h
  obtain ⟨rows, hfound, _, hdraft, _, _, _, _, _, _, rfl⟩ := h
  exact ⟨rows, hfound, ⟨rfl, rfl, rfl, rfl⟩, by simp [hdraft], by simp [InvoiceRows.record]⟩

lemma recordPayment_revises {found : Option InvoiceRows} {dto : RecordPaymentInput}
    (h : recordPayment q found dto = .ok rows') :
    ∃ rows, found = some rows ∧ Revised rows rows' ∧ rows.invoice.status ≠ .void ∧ rows'.invoice.status ≠ .void := by
  simp only [recordPayment, bind_eq_ok, ensure_eq_ok, pure_eq_ok, found_eq_ok] at h
  obtain ⟨rows, hfound, _, hstatus, _, _, updated, hupdated, rfl⟩ := h
  have hlive : rows.invoice.status ≠ .void := by
    intro hvoid
    simp [hvoid] at hstatus
  obtain ⟨hrevised, hlive'⟩ := recalculate_revised hupdated hlive
  exact ⟨rows, hfound, ⟨hrevised.id, hrevised.total, hrevised.lineItems, hrevised.invoiceLoads⟩, hlive, hlive'⟩

lemma addAdjustment_revises {found : Option InvoiceRows} {dto : AddAdjustmentInput}
    (h : addAdjustment q found dto = .ok rows') :
    ∃ rows, found = some rows ∧ Revised rows rows' ∧ rows.invoice.status ≠ .void ∧ rows'.invoice.status ≠ .void := by
  simp only [addAdjustment, bind_eq_ok, ensure_eq_ok, pure_eq_ok, found_eq_ok] at h
  obtain ⟨rows, hfound, _, ⟨_, hlive⟩, _, _, updated, hupdated, rfl⟩ := h
  obtain ⟨hrevised, hlive'⟩ := recalculate_revised hupdated hlive
  exact ⟨rows, hfound, ⟨hrevised.id, hrevised.total, hrevised.lineItems, hrevised.invoiceLoads⟩, hlive, hlive'⟩

lemma found_row {o : RowOrder} (h : d.findInvoice o id = some rows) : rows ∈ d.invoices.rows := (findFirst_some h).1

lemma replace_billings (hrows : rows ∈ d.invoices.rows) (hrevised : Revised rows rows') (load : Uuid) :
    (d.replaceInvoice rows').billings load + (if rows.billsLoad load then 1 else 0) =
      d.billings load + (if rows'.billsLoad load then 1 else 0) := by
  obtain ⟨front, back, hold, hnew⟩ := d.invoices.replace_split hrows hrevised.id
  rw [billings, billings, replaceInvoice, hnew, hold]
  simp only [List.countP_append, List.countP_cons]
  omega

lemma replace_totalled (hd : d.Ledger) (hrows : rows ∈ d.invoices.rows) (hrevised : Revised rows rows') :
    ∀ a ∈ (d.replaceInvoice rows').invoices.rows, a.Totalled := by
  intro a ha
  rw [replaceInvoice, Table.replace_rows] at ha
  obtain ⟨b, hb, rfl⟩ := List.mem_map.mp ha
  split_ifs
  · exact hrevised.totalled (hd.totals rows hrows)
  · exact hd.totals b hb

lemma ledger_revised (hd : d.Ledger) (hrows : rows ∈ d.invoices.rows) (hrevised : Revised rows rows')
    (hlive : rows.invoice.status ≠ .void) (hlive' : rows'.invoice.status ≠ .void) :
    (d.replaceInvoice rows').Ledger := by
  refine ⟨fun l hl => ?_, replace_totalled hd hrows hrevised⟩
  have hcount := replace_billings hrows hrevised l.load.id
  have hsame : rows'.billsLoad l.load.id = rows.billsLoad l.load.id := by
    rw [InvoiceRows.billsLoad, InvoiceRows.billsLoad, hrevised.loadIds]
    simp [hlive, hlive']
  rw [hsame] at hcount
  rw [Nat.add_right_cancel hcount]
  exact hd.flags l hl

lemma ledger_void (hd : d.Ledger) (h : c.void d id = .ok t) : t.Ledger := by
  simp only [LedgerCall.void, InvoiceService.void, bind_eq_ok, ensure_eq_ok, pure_eq_ok, found_eq_ok] at h
  obtain ⟨_, ⟨rows, hfound, _, hlive, rfl⟩, rfl⟩ := h
  have hrows := found_row hfound
  have hrevised : Revised rows (voided c.request rows) := ⟨rfl, rfl, rfl, rfl⟩
  have hnone (load : Uuid) : (voided c.request rows).billsLoad load = false := by
    simp [InvoiceRows.billsLoad, voided, InvoiceRows.record]
  have hloads : (d.replaceInvoice (voided c.request rows)).loads = d.loads := rfl
  refine Ledger.setInvoicedMany hloads (replace_totalled hd hrows hrevised) (fun l hl hid => ?_) (fun l hl hid => ?_)
  -- an invoice that bills the Load accounts for its whole count
  · have hcount := replace_billings hrows hrevised l.load.id
    have hbilled : rows.billsLoad l.load.id = true := decide_eq_true ⟨hlive, hid⟩
    have hflag := hd.flags l hl
    rw [hnone, hbilled, hflag] at hcount
    simp only [Bool.false_eq_true, if_false, if_true, add_zero] at hcount ⊢
    split_ifs at hcount
    omega
  · have hcount := replace_billings hrows hrevised l.load.id
    have hfree : rows.billsLoad l.load.id = false := decide_eq_false (fun h => hid h.2)
    rw [hnone, hfree] at hcount
    rw [Nat.add_right_cancel hcount]
    exact hd.flags l hl

lemma lineItems_total (label : Uuid → String) (loads : List BillableLoad) :
    ((lineItemsData label loads).map InvoiceLineItem.amount).sum = (loads.map loadTotal).sum := by
  match loads with
  | [] => rfl
  | [l] => simp [lineItemsData, loadTotal, Function.comp_def]
  | a :: b :: rest => simp [lineItemsData, Function.comp_def]

lemma invoiceRows_bill (label : Uuid → String) (q : Request) (dto : CreateInvoiceInput) (n : ℕ)
    (loads : List BillableLoad) :
    (invoiceRows label q dto n loads).Totalled ∧ (invoiceRows label q dto n loads).invoice.status = .draft ∧
      (invoiceRows label q dto n loads).loadIds = loads.map (fun l => l.load.id) := by
  have htotal := lineItems_total label loads
  simp only [invoiceRows, InvoiceRows.record, InvoiceRows.Totalled, InvoiceRows.loadIds]
  split_ifs <;> simp [htotal, Function.comp_def]

lemma ledger_create {dto : CreateInvoiceInput} (hd : d.Ledger) (h : c.create d dto = .ok t) : t.Ledger := by
  simp only [LedgerCall.create, InvoiceService.create, assertInvoiceable, bind_eq_ok, ensure_eq_ok, pure_eq_ok,
    require_eq_ok] at h
  obtain ⟨_, ⟨_, ⟨_, _, _, _, _, hfree, _⟩, _, _, rfl⟩, _, _, invoices, hinsert, rfl⟩ := h
  set loads := findMany (c.request.order 0) (fun l => decide (l.load.id ∈ dto.loadIds)) d.loads.rows
  obtain ⟨htotalled, hdraft, hids⟩ :=
    invoiceRows_bill c.label c.request dto (d.invoiceSequence.getD 0 + 1) loads
  set rows := invoiceRows c.label c.request dto (d.invoiceSequence.getD 0 + 1) loads
  have happended := Table.insert_rows hinsert
  let inserted : BillingDb := { d with invoiceSequence := some (d.invoiceSequence.getD 0 + 1), invoices }
  have hloads : inserted.loads = d.loads := rfl
  have hcount (load : Uuid) : inserted.billings load = d.billings load + if rows.billsLoad load then 1 else 0 := by
    rw [billings, billings, happended, List.countP_append, List.countP_singleton]
  refine Ledger.setInvoicedMany hloads (fun a ha => ?_) (fun l hl hid => ?_) (fun l hl hid => ?_)
  · rw [happended] at ha
    rcases List.mem_append.mp ha with hold | hnew
    · exact hd.totals a hold
    · rw [List.mem_singleton.mp hnew]
      exact htotalled
  · have hread : l ∈ loads := mem_findMany.mpr ⟨hl, decide_eq_true hid⟩
    have hbilled : rows.billsLoad l.load.id = true :=
      decide_eq_true ⟨by simp [hdraft], hids ▸ List.mem_map_of_mem hread⟩
    rw [hcount, hbilled, hd.flags l hl, (hfree l hread).2]
    rfl
  · have hunbilled : rows.billsLoad l.load.id = false := by
      refine decide_eq_false (fun hbills => hid ?_)
      obtain ⟨l', hl', hsame⟩ := List.mem_map.mp (hids ▸ hbills.2)
      rw [← hsame]
      exact of_decide_eq_true (mem_findMany.mp hl').2
    rw [hcount, hunbilled, hd.flags l hl]
    rfl

lemma ledger_reviseLoad (hd : d.Ledger) (revision : LoadRevision) : (d.reviseLoad id revision).Ledger := by
  refine ⟨fun l' hl' => ?_, hd.totals⟩
  rw [reviseLoad, Table.update_rows] at hl'
  obtain ⟨l, hl, rfl⟩ := List.mem_map.mp hl'
  by_cases hid : l.load.id = id
  · rw [if_pos hid, revision.keeps_id, revision.keeps_invoiced]
    exact hd.flags l hl
  · rw [if_neg hid]
    exact hd.flags l hl

lemma ledger_exec (d : BillingDb) (c : LedgerCall) (t : BillingDb) (hd : d.Ledger) (h : c.exec d = .ok t) :
    t.Ledger := by
  obtain ⟨label, reference, request, op⟩ := c
  cases op with
  | create dto => exact ledger_create hd h
  | send id dto =>
    obtain ⟨rows', hsend, rfl⟩ := map_eq_ok.mp h
    obtain ⟨rows, hfound, hrevised, hlive, hlive'⟩ := send_revises hsend
    exact ledger_revised hd (found_row hfound) hrevised hlive hlive'
  | recordPayment id dto =>
    obtain ⟨rows', hpay, rfl⟩ := map_eq_ok.mp h
    obtain ⟨rows, hfound, hrevised, hlive, hlive'⟩ := recordPayment_revises hpay
    exact ledger_revised hd (found_row hfound) hrevised hlive hlive'
  | addAdjustment id dto =>
    obtain ⟨rows', hadjust, rfl⟩ := map_eq_ok.mp h
    obtain ⟨rows, hfound, hrevised, hlive, hlive'⟩ := addAdjustment_revises hadjust
    exact ledger_revised hd (found_row hfound) hrevised hlive hlive'
  | void id => exact ledger_void hd h
  | reviseLoad id revision =>
    obtain rfl := Except.ok.inj h
    exact ledger_reviseLoad hd revision

theorem invoiced_iff_billed_once (hd : d.Unbilled) (h : Run (Serving LedgerCall.exec) d calls t) :
    (∀ l ∈ t.loads.rows, l.load.invoiced = true ↔ t.billings l.load.id = 1) ∧
    ∀ rows ∈ t.invoices.rows,
      rows.invoice.total = (rows.lineItems.map InvoiceLineItem.amount).sum ∧
      rows.invoice.total = (rows.invoiceLoads.map InvoiceLoad.loadTotalAtInvoice).sum := by
  have hledger : t.Ledger := serving_invariant ledger_exec h hd.ledger
  refine ⟨fun l hl => ?_, hledger.totals⟩
  rw [hledger.flags l hl]
  cases l.load.invoiced <;> simp

namespace Sample

open QuoteLoad.Sample

def ledgerCalls (ops : List LedgerOp) : List LedgerCall :=
  ops.mapIdx (fun i op => ⟨label, invoiceReference, request (20 + i), op⟩)

def ledgerAfter (ops : List LedgerOp) : BillingDb := (ledgerCalls ops).foldl (attempt LedgerCall.exec) unbilled

def invoiceId : Uuid := (request 20).uuid 0

def paidInFull : List LedgerOp :=
  [.create createInput, .send invoiceId ⟨"ap@customer", "Invoice", "Attached", invoice_filled⟩,
    .recordPayment invoiceId { amount := ⟨245000, by decide⟩, paymentDate := 30, method := "ACH", filled := ach_filled }]

end Sample

open Sample

theorem invoiced_iff_billed_once_sample :
    (ledgerAfter paidInFull).loads.rows.map (fun l => l.load.invoiced) = [true] ∧
    ∀ l ∈ (ledgerAfter paidInFull).loads.rows,
      l.load.invoiced = true ↔ (ledgerAfter paidInFull).billings l.load.id = 1 :=
  ⟨by decide, (invoiced_iff_billed_once (d := unbilled) ⟨rfl, by decide⟩ (run_total _ _ _)).1⟩

example : (ledgerAfter (paidInFull ++ [.void invoiceId])).loads.rows.map (fun l => l.load.invoiced) = [false] := by
  decide

end Truckmaster.Billing
