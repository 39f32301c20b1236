import Truckmaster.Billing.InvoiceLedger
import Truckmaster.QuoteLoad.LoadClosing

/-! The item Customer Invoice of the closing checklist beside the `invoiced` flag, over any run of invoice operations. -/

namespace Truckmaster.Billing

open Common Fallible QuoteLoad Runs Tables LoadService

variable {d t : BillingDb} {l : BillableLoad} {calls : List LedgerCall}

namespace BillingDb

/-- The InvoiceLoad rows of the Load, each by its invoice: voiding an invoice leaves them in place. -/
def invoiceIds (d : BillingDb) (loadId : Uuid) : List Uuid :=
  (d.invoices.rows.filter (fun rows => decide (loadId ∈ rows.loadIds))).map (fun rows => rows.invoice.id)

/-- What the checklist reads of a Load; `rows` are the records that billing does not write. -/
def closingRows (d : BillingDb) (l : BillableLoad) (rows : LoadRows) : LoadRows :=
  { rows with load := l.load, chargeLineItems := l.chargeLineItems, invoiceIds := d.invoiceIds l.load.id }

lemma invoiceIds_isEmpty {loadId : Uuid} :
    (d.invoiceIds loadId).isEmpty = false ↔ ∃ a ∈ d.invoices.rows, loadId ∈ a.loadIds := by
  rw [List.isEmpty_eq_false_iff_exists_mem]
  simp [invoiceIds]

lemma Ledger.invoiced_iff (h : d.Ledger) (hl : l ∈ d.loads.rows) :
    l.load.invoiced = true ↔ ∃ a ∈ d.invoices.rows, a.invoice.status ≠ .void ∧ l.load.id ∈ a.loadIds := by
  have hflag := h.flags l hl
  constructor
  · intro hinvoiced
    rw [hinvoiced, if_pos rfl] at hflag
    have hsome : 0 < d.billings l.load.id := by omega
    obtain ⟨a, ha, hbills⟩ := List.countP_pos_iff.mp hsome
    exact ⟨a, ha, of_decide_eq_true hbills⟩
  · rintro ⟨a, ha, hbills⟩
    have hsome : 0 < d.billings l.load.id := List.countP_pos_iff.mpr ⟨a, ha, decide_eq_true hbills⟩
    by_contra hunset
    rw [if_neg hunset] at hflag
    omega

end BillingDb

def customerInvoice (checklist : List ChecklistItem) : Option ChecklistStatus :=
  (checklist.find? (fun entry => entry.item == "Customer Invoice")).map ChecklistItem.status

lemma customerInvoice_clean {rows : LoadRows} :
    customerInvoice (evaluateClosingChecklist rows) = some .clean ↔ rows.invoiceIds.isEmpty = false := by
  have hfound : customerInvoice (evaluateClosingChecklist rows) =
      some (if rows.invoiceIds.isEmpty = false then .clean else .warning) := by
    rw [evaluateClosingChecklist, customerInvoice]
    cases hids : rows.invoiceIds.isEmpty <;> rfl
  rw [hfound]
  split_ifs with hempty
  · exact iff_of_true rfl hempty
  · exact iff_of_false (by decide) hempty

theorem checklist_of_billing (hd : d.Unbilled) (h : Run (Serving LedgerCall.exec) d calls t) (hl : l ∈ t.loads.rows)
    (rows : LoadRows) :
    let item := customerInvoice (evaluateClosingChecklist (t.closingRows l rows))
    (item = some .clean ↔ ∃ a ∈ t.invoices.rows, l.load.id ∈ a.loadIds) ∧
    (l.load.invoiced = true ↔ ∃ a ∈ t.invoices.rows, a.invoice.status ≠ .void ∧ l.load.id ∈ a.loadIds) ∧
    ((item = some .clean ↔ l.load.invoiced = true) ↔
      ((∃ a ∈ t.invoices.rows, l.load.id ∈ a.loadIds) →
        ∃ a ∈ t.invoices.rows, a.invoice.status ≠ .void ∧ l.load.id ∈ a.loadIds)) := by
  have hledger : t.Ledger := serving_invariant ledger_exec h hd.ledger
  have hclean : customerInvoice (evaluateClosingChecklist (t.closingRows l rows)) = some .clean ↔
      ∃ a ∈ t.invoices.rows, l.load.id ∈ a.loadIds := customerInvoice_clean.trans BillingDb.invoiceIds_isEmpty
  have hflag := hledger.invoiced_iff hl
  refine ⟨hclean, hflag, ?_⟩
  rw [hclean, hflag]
  refine ⟨fun hagree => hagree.mp, fun hlive => ⟨hlive, ?_⟩⟩
  rintro ⟨a, ha, _, hbilled⟩
  exact ⟨a, ha, hbilled⟩

namespace Sample

open QuoteLoad.Sample

def voidedLedger : BillingDb := ledgerAfter [.create createInput, .void invoiceId]

def closingItems (d : BillingDb) : List (Bool × Option ChecklistStatus) :=
  d.loads.rows.map (fun l => (l.load.invoiced, customerInvoice (evaluateClosingChecklist
    (d.closingRows l { load := l.load, stops := .empty }))))

end Sample

open Sample

theorem checklist_of_billing_sample : (ledgerAfter paidInFull).loads.rows.Forall (fun l =>
    customerInvoice (evaluateClosingChecklist ((ledgerAfter paidInFull).closingRows l
      { load := l.load, stops := .empty })) = some .clean ↔ l.load.invoiced = true) := by
  refine List.forall_iff_forall_mem.mpr (fun l hl => ?_)
  refine ((checklist_of_billing (d := unbilled) ⟨rfl, by decide⟩ (run_total _ _ _) hl _).2.2).mpr ?_
  revert l
  decide

theorem void_keeps_item_clean : Run (Serving LedgerCall.exec) unbilled
      (ledgerCalls [.create createInput, .void invoiceId]) voidedLedger ∧
    voidedLedger.invoices.rows.map (fun rows => rows.invoice.status) = [.void] ∧
    closingItems voidedLedger = [(false, some .clean)] :=
  ⟨run_total _ _ _, by decide, by decide⟩

end Truckmaster.Billing
