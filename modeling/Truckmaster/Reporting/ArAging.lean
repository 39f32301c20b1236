import Truckmaster.Billing.InvoiceLedger
import Truckmaster.Reporting.ApAging

namespace Truckmaster.Reporting

open Billing Billing.InvoiceService Common Fallible QuoteLoad Runs Tables

namespace ReportingService

/-- The `where` of the report's query. -/
def isOutstanding (invoice : Invoice) : Bool :=
  (invoice.status == .sent || invoice.status == .partiallyPaid) && decide (0 < invoice.remainingBalance)

/-- The due date comes back from a column of dates. -/
def invoiceBucket (today : Instant) (invoice : Invoice) : AgingBucketKey :=
  bucketForDaysPastDue (invoice.dueDate.elim 0 (fun due => daysPastDue (dateOf due) today))

def ageInvoice (today : Instant) (report : AgingReport) (invoice : Invoice) : AgingReport :=
  ⟨addToBucket report.buckets (invoiceBucket today invoice) invoice.remainingBalance,
    report.grandTotal + invoice.remainingBalance⟩

def computeArAging (today : Instant) (invoices : List Invoice) : AgingReport :=
  (invoices.filter isOutstanding).foldl (ageInvoice today) ⟨emptyBuckets, 0⟩

structure AccountingBlock where
  arOutstanding : Cents
  arOverdue : Cents

def accountingBlock (today : Instant) (invoices : List Invoice) : AccountingBlock :=
  let arAging := computeArAging today invoices
  { arOutstanding := arAging.grandTotal
    arOverdue := (arAging.buckets .days1to30).total + (arAging.buckets .days31to60).total +
      (arAging.buckets .days61to90).total + (arAging.buckets .days90plus).total }

end ReportingService

open ReportingService

section Report

variable {today : Instant} {report : AgingReport}

lemma foldl_ageInvoice (invoices : List Invoice) (report : AgingReport) :
    (invoices.foldl (ageInvoice today) report).grandTotal =
        report.grandTotal + (invoices.map Invoice.remainingBalance).sum ∧
      ∀ key, (invoices.foldl (ageInvoice today) report).buckets key =
        ⟨(report.buckets key).count + invoices.countP (fun i => invoiceBucket today i == key),
          (report.buckets key).total +
            ((invoices.filter (fun i => invoiceBucket today i == key)).map Invoice.remainingBalance).sum⟩ := by
  induction invoices generalizing report with
  | nil => simp
  | cons i invoices ih =>
    obtain ⟨htotal, hbuckets⟩ := ih (ageInvoice today report i)
    refine ⟨?_, fun key => ?_⟩
    · rw [List.foldl_cons, htotal, List.map_cons, List.sum_cons, ageInvoice, add_assoc]
    · rw [List.foldl_cons, hbuckets key]
      by_cases hkey : invoiceBucket today i = key
      · simp [ageInvoice, hkey, addToBucket, add_assoc, add_comm 1]
      · simp [ageInvoice, hkey, addToBucket, Function.update_of_ne (Ne.symm hkey)]

lemma computeArAging_total (today : Instant) (invoices : List Invoice) :
    (computeArAging today invoices).grandTotal =
      ((invoices.filter isOutstanding).map Invoice.remainingBalance).sum := by
  rw [computeArAging, (foldl_ageInvoice _ _).1, zero_add]

lemma computeArAging_bucket (today : Instant) (invoices : List Invoice) (key : AgingBucketKey) :
    (computeArAging today invoices).buckets key =
      ⟨invoices.countP (fun i => isOutstanding i && invoiceBucket today i == key),
        ((invoices.filter (fun i => isOutstanding i && invoiceBucket today i == key)).map
          Invoice.remainingBalance).sum⟩ := by
  rw [computeArAging, (foldl_ageInvoice _ _).2 key, List.countP_filter, List.filter_filter]
  simp only [emptyBuckets, zero_add, Bool.and_comm]

lemma sum_invoiceBuckets (invoices : List Invoice) (today : Instant) :
    (agingBucketKeys.map (fun key =>
      ((invoices.filter (fun i => invoiceBucket today i == key)).map Invoice.remainingBalance).sum)).sum =
        (invoices.map Invoice.remainingBalance).sum := by
  induction invoices with
  | nil => rfl
  | cons i invoices ih =>
    simp only [agingBucketKeys, List.map_cons, List.map_nil, List.sum_cons, List.sum_nil, List.filter_cons, ← ih]
    cases hkey : invoiceBucket today i <;> simp <;> ring

lemma bucketForDaysPastDue_current {days : ℤ} : bucketForDaysPastDue days = .current ↔ days ≤ 0 := by
  rw [bucketForDaysPastDue]
  split_ifs with hcurrent <;> simp [hcurrent]

lemma invoiceBucket_current {i : Invoice} : invoiceBucket today i = .current ↔
    i.dueDate.any (fun due => decide (dateOf due < dateOf today)) = false := by
  rw [invoiceBucket, bucketForDaysPastDue_current]
  cases i.dueDate with
  | none => simp
  | some due =>
    have hday : msPerDay = 86400000 := by decide
    rw [Option.elim_some, Option.any_some, decide_eq_false_iff_not, daysPastDue, dateOf, dateOf, hday]
    simp only [Instant]
    omega

lemma arOverdue_eq (today : Instant) (invoices : List Invoice) : (accountingBlock today invoices).arOverdue =
    ((invoices.filter (fun i => isOutstanding i &&
      i.dueDate.any (fun due => decide (dateOf due < dateOf today)))).map Invoice.remainingBalance).sum := by
  have hparts := sum_invoiceBuckets (invoices.filter isOutstanding) today
  have hsplit := ((List.filter_append_perm (fun i => invoiceBucket today i == .current)
    (invoices.filter isOutstanding)).map Invoice.remainingBalance).sum_eq
  have hlate : (invoices.filter isOutstanding).filter (fun i => !(invoiceBucket today i == .current)) =
      invoices.filter (fun i => isOutstanding i &&
        i.dueDate.any (fun due => decide (dateOf due < dateOf today))) := by
    rw [List.filter_filter]
    refine List.filter_congr (fun i _ => ?_)
    rw [Bool.and_comm]
    congr 1
    rw [Bool.eq_iff_iff, Bool.not_eq_true', beq_eq_false_iff_ne, Ne, invoiceBucket_current, Bool.not_eq_false]
  rw [List.map_append, List.sum_append, hlate] at hsplit
  simp only [agingBucketKeys, List.map_cons, List.map_nil, List.sum_cons, List.sum_nil, List.filter_filter]
    at hparts hsplit
  simp only [accountingBlock, computeArAging_bucket, Bool.and_comm] at hparts hsplit ⊢
  linarith

end Report

section Ledger

variable {d t : BillingDb} {rows rows' : InvoiceRows} {calls : List LedgerCall}

def owed (rows : InvoiceRows) : Cents :=
  if rows.invoice.status = .draft ∨ rows.invoice.status = .void then 0 else max 0 (remaining rows)

def reopened (rows : InvoiceRows) : Bool := rows.invoice.status == .credited && decide (0 < remaining rows)

def overdue (today : Instant) (rows : InvoiceRows) : Bool :=
  isOutstanding rows.invoice && rows.invoice.dueDate.any (fun due => decide (dateOf due < dateOf today))

structure Receivable (rows : InvoiceRows) : Prop where
  coherent : Coherent rows
  settled : rows.invoice.status = .paid → remaining rows ≤ 0

lemma recalculated_settled {mid : InvoiceRows} (h : Recalculated mid rows')
    (hpaid : mid.invoice.status = .paid → 0 < totalPaid mid) : rows'.invoice.status = .paid → remaining rows' ≤ 0 := by
  rw [h.remaining_eq, h.status, recalculatedStatus]
  split_ifs with hvoid hsettled hsome hsome
  · rintro ⟨⟩
  · exact fun _ => hsettled
  · rintro ⟨⟩
  · rintro ⟨⟩
  · exact fun hstatus => absurd (hpaid hstatus) hsome

lemma receivable_exec (c : InvoiceCall) (hrows : Receivable rows) (h : c.exec rows = .ok rows') : Receivable rows' := by
  refine ⟨exec_coherent rows c rows' hrows.coherent h, ?_⟩
  obtain ⟨reference, q, op⟩ := c
  cases op with
  | send dto =>
    rw [(send_ok dto h).2.2.1]
    rintro ⟨⟩
  | recordPayment dto =>
    obtain ⟨p, hpos, _, hrec⟩ := recordPayment_ok h
    refine recalculated_settled hrec (fun _ => ?_)
    rw [totalPaid_payment]
    exact Int.add_pos_of_nonneg_of_pos hrows.coherent.paid_nonneg hpos
  | addAdjustment dto =>
    obtain ⟨a, _, _, _, _, _, hrec⟩ := addAdjustment_ok h
    exact recalculated_settled hrec (fun hstatus => hrows.coherent.paid (Or.inl hstatus))
  | void =>
    obtain ⟨⟨_, released⟩, hvoid, rfl⟩ := map_eq_ok.mp h
    rw [(void_ok hvoid).1]
    rintro ⟨⟩

lemma replaceInvoice_all {P : InvoiceRows → Prop} (hd : ∀ rows ∈ d.invoices.rows, P rows) (hrows : P rows) :
    ∀ a ∈ (d.replaceInvoice rows).invoices.rows, P a := by
  intro a ha
  rw [BillingDb.replaceInvoice, Table.replace_rows] at ha
  obtain ⟨b, hb, rfl⟩ := List.mem_map.mp ha
  split_ifs
  · exact hrows
  · exact hd b hb

lemma ledger_invoices {P : InvoiceRows → Prop}
    (hcreate : ∀ label q n stored dto rows, InvoiceService.create label q n stored dto = .ok rows → P rows)
    (hexec : ∀ (c : InvoiceCall) rows rows', P rows → c.exec rows = .ok rows' → P rows') (d : BillingDb)
    (c : LedgerCall) (t : BillingDb) (hd : ∀ rows ∈ d.invoices.rows, P rows) (h : c.exec d = .ok t) :
    ∀ rows ∈ t.invoices.rows, P rows := by
  obtain ⟨label, reference, q, op⟩ := c
  cases op with
  | create dto =>
    simp only [LedgerCall.exec, LedgerCall.create, bind_eq_ok, ensure_eq_ok, pure_eq_ok, require_eq_ok] at h
    obtain ⟨created, hcreated, _, _, invoices, hinsert, rfl⟩ := h
    intro a ha
    have ha : a ∈ invoices.rows := ha
    rw [Table.insert_rows hinsert] at ha
    rcases List.mem_append.mp ha with hold | hnew
    · exact hd a hold
    · rw [List.mem_singleton.mp hnew]
      exact hcreate _ _ _ _ _ _ hcreated
  | send id dto =>
    obtain ⟨sent, hsend, rfl⟩ := map_eq_ok.mp h
    obtain ⟨rows, hfound, _⟩ := send_revises hsend
    rw [hfound] at hsend
    exact replaceInvoice_all hd (hexec ⟨reference, q, .send dto⟩ rows sent (hd rows (found_row hfound)) hsend)
  | recordPayment id dto =>
    obtain ⟨paid, hpay, rfl⟩ := map_eq_ok.mp h
    obtain ⟨rows, hfound, _⟩ := recordPayment_revises hpay
    rw [hfound] at hpay
    exact replaceInvoice_all hd (hexec ⟨reference, q, .recordPayment dto⟩ rows paid (hd rows (found_row hfound)) hpay)
  | addAdjustment id dto =>
    obtain ⟨adjusted, hadjust, rfl⟩ := map_eq_ok.mp h
    obtain ⟨rows, hfound, _⟩ := addAdjustment_revises hadjust
    rw [hfound] at hadjust
    exact replaceInvoice_all hd
      (hexec ⟨reference, q, .addAdjustment dto⟩ rows adjusted (hd rows (found_row hfound)) hadjust)
  | void id =>
    simp only [LedgerCall.exec, LedgerCall.void, bind_eq_ok, pure_eq_ok] at h
    obtain ⟨⟨voided, loadIds⟩, hvoid, rfl⟩ := h
    have hvoided := hvoid
    simp only [InvoiceService.void, bind_eq_ok, found_eq_ok] at hvoided
    obtain ⟨rows, hfound, _⟩ := hvoided
    rw [hfound] at hvoid
    have hone : (InvoiceCall.mk reference q .void).exec rows = .ok voided := map_eq_ok.mpr ⟨_, hvoid, rfl⟩
    exact replaceInvoice_all hd (hexec ⟨reference, q, .void⟩ rows voided (hd rows (found_row hfound)) hone)
  | reviseLoad id revision =>
    obtain rfl := Except.ok.inj h
    exact hd

lemma receivable_of_run (hd : d.Unbilled) (h : Run (Serving LedgerCall.exec) d calls t) :
    ∀ rows ∈ t.invoices.rows, Receivable rows := by
  refine serving_invariant (P := fun d : BillingDb => ∀ rows ∈ d.invoices.rows, Receivable rows)
    (ledger_invoices (fun label q n stored dto rows hcreate => ?_) (fun c rows rows' => receivable_exec c)) h ?_
  · refine ⟨coherent_create hcreate, ?_⟩
    rw [(create_ok hcreate).1]
    rintro ⟨⟩
  · rw [hd.invoices]
    exact fun _ hnone => absurd hnone List.not_mem_nil

/-- The amount of an invoice is in the report, or lost with its reopening. -/
lemma receivable_parts (h : Receivable rows) :
    (if isOutstanding rows.invoice then rows.invoice.remainingBalance else 0) +
      (if reopened rows then remaining rows else 0) = owed rows := by
  have hbalance := h.coherent.balance
  cases hstatus : rows.invoice.status with
  | draft => simp [isOutstanding, reopened, owed, hstatus]
  | void => simp [isOutstanding, reopened, owed, hstatus]
  | paid =>
    have hsettled := max_eq_left (h.settled hstatus)
    simp [isOutstanding, reopened, owed, hstatus, hsettled]
  | sent => simp [isOutstanding, reopened, owed, hstatus, hbalance, max_def_lt]
  | partiallyPaid => simp [isOutstanding, reopened, owed, hstatus, hbalance, max_def_lt]
  | credited => simp [isOutstanding, reopened, owed, hstatus, max_def_lt]

lemma receivable_sum {invoices : List InvoiceRows} (h : ∀ rows ∈ invoices, Receivable rows) :
    (((invoices.map InvoiceRows.invoice).filter isOutstanding).map Invoice.remainingBalance).sum +
      ((invoices.filter reopened).map remaining).sum = (invoices.map owed).sum := by
  induction invoices with
  | nil => rfl
  | cons rows invoices ih =>
    obtain ⟨hfirst, hrest⟩ := List.forall_mem_cons.mp h
    have hparts := receivable_parts hfirst
    rw [List.map_cons (f := owed), List.sum_cons, ← ih hrest, ← hparts]
    cases hout : isOutstanding rows.invoice <;> cases hopen : reopened rows <;>
      simp [hout, hopen] <;> ring

theorem ar_aging_of_run (hd : d.Unbilled) (h : Run (Serving LedgerCall.exec) d calls t) (today : Instant) :
    (computeArAging today (t.invoices.rows.map InvoiceRows.invoice)).grandTotal +
        ((t.invoices.rows.filter reopened).map remaining).sum = (t.invoices.rows.map owed).sum ∧
      (agingBucketKeys.map (fun key =>
        ((computeArAging today (t.invoices.rows.map InvoiceRows.invoice)).buckets key).total)).sum =
          (computeArAging today (t.invoices.rows.map InvoiceRows.invoice)).grandTotal ∧
      (accountingBlock today (t.invoices.rows.map InvoiceRows.invoice)).arOverdue =
        ((t.invoices.rows.filter (overdue today)).map remaining).sum := by
  have hrows := receivable_of_run hd h
  refine ⟨?_, ?_, ?_⟩
  · rw [computeArAging_total]
    exact receivable_sum hrows
  · rw [computeArAging_total, ← sum_invoiceBuckets _ today]
    simp only [computeArAging_bucket, List.filter_filter, Bool.and_comm]
  · rw [arOverdue_eq, List.filter_map, List.map_map]
    refine congrArg List.sum (List.map_congr_left (fun rows hmem => ?_))
    exact (hrows rows (List.mem_filter.mp hmem).1).coherent.balance

end Ledger

namespace ArSample

open Billing.Sample

lemma agreed_filled : 1 ≤ "Agreed".length := by decide

lemma full_amount : 0 < 245000 := by decide

lemma part_amount : 0 < 10000 := by decide

def invoicesAfter (ops : List LedgerOp) : List InvoiceRows := (ledgerAfter ops).invoices.rows

def reportAfter (ops : List LedgerOp) (today : Instant) : AgingReport :=
  computeArAging today ((invoicesAfter ops).map InvoiceRows.invoice)

def agreed (type : AdjustmentType) (amount : PositiveDecimalInput) : LedgerOp :=
  .addAdjustment invoiceId ⟨type, amount, "Agreed", none, agreed_filled⟩

def billed : List LedgerOp :=
  [.create createInput, .send invoiceId ⟨"ap@customer", "Invoice", "Attached", invoice_filled⟩]

def claimedAgain : List LedgerOp := billed ++ [agreed .credit ⟨245000, full_amount⟩, agreed .debit ⟨10000, part_amount⟩]

end ArSample

open ArSample

theorem ar_aging_of_run_sample :
    (reportAfter claimedAgain 100).grandTotal = 0 ∧ ((invoicesAfter claimedAgain).map owed).sum = 10000 ∧
    (reportAfter claimedAgain 100).grandTotal + (((invoicesAfter claimedAgain).filter reopened).map remaining).sum =
      ((invoicesAfter claimedAgain).map owed).sum :=
  ⟨by decide, by decide,
    (ar_aging_of_run (d := Billing.Sample.unbilled) ⟨rfl, by decide⟩ (run_total _ _ _) 100).1⟩

end Truckmaster.Reporting
