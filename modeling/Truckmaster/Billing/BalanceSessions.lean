import Truckmaster.Billing.InvoiceBalance
import Truckmaster.Library.ReadCommitted

namespace Truckmaster.Billing

open Common Fallible QuoteLoad ReadCommitted Runs InvoiceService

inductive BalanceRequest
  | recordPayment (q : Request) (dto : RecordPaymentInput)
  | addAdjustment (q : Request) (dto : AddAdjustmentInput)

inductive BalanceWrite
  | insertPayment (payment : Payment)
  | insertAdjustment (adjustment : Adjustment)
  | updateInvoice (remainingBalance : Cents) (status : InvoiceStatus)
  | recordAudit (q : Request) (action : String)

namespace BalanceRequest

def request : BalanceRequest → Request
  | recordPayment q _ => q
  | addAdjustment q _ => q

def action : BalanceRequest → String
  | recordPayment _ _ => "Payment Recorded"
  | addAdjustment _ _ => "Invoice Adjustment Created"

def cents : BalanceRequest → ℕ
  | recordPayment _ dto => dto.amount.cents
  | addAdjustment _ dto => dto.amount.cents

def assertStatus (existing : InvoiceRows) : BalanceRequest → Except AppError Unit
  | recordPayment _ _ => ensure (existing.invoice.status ∈ [InvoiceStatus.sent, .partiallyPaid])
      (.invalidTransition "A payment can only be recorded against a Sent invoice.")
  | addAdjustment _ _ => ensure (existing.invoice.status ≠ .draft ∧ existing.invoice.status ≠ .void)
      (.invalidTransition "Adjustments require a Sent (or later-status) invoice.")

def payments : BalanceRequest → List Payment
  | recordPayment q dto => [⟨q.uuid 0, dto.amount.cents, dto.paymentDate, dto.method, dto.referenceNumber, dto.notes,
      q.actingUserId⟩]
  | addAdjustment _ _ => []

def adjustments : BalanceRequest → List Adjustment
  | recordPayment _ _ => []
  | addAdjustment q dto => [⟨q.uuid 0, dto.type, dto.amount.cents, dto.reason, dto.adjustmentDate.getD q.now,
      q.actingUserId⟩]

def inserts (r : BalanceRequest) : List BalanceWrite :=
  r.payments.map .insertPayment ++ r.adjustments.map .insertAdjustment

def serve (rows : InvoiceRows) : BalanceRequest → Except AppError InvoiceRows
  | recordPayment q dto => InvoiceService.recordPayment q (some rows) dto
  | addAdjustment q dto => InvoiceService.addAdjustment q (some rows) dto

end BalanceRequest

/-- `read` are the rows that `recalculateInvoiceBalance` has read so far, each list by its own statement. -/
inductive BalanceFrame
  | findInvoice (r : BalanceRequest)
  | insertRow (r : BalanceRequest)
  | readInvoice (r : BalanceRequest)
  | readPayments (r : BalanceRequest) (read : InvoiceRows)
  | readAdjustments (r : BalanceRequest) (read : InvoiceRows)
  | updateInvoice (r : BalanceRequest) (read : InvoiceRows)
  | recordAudit (r : BalanceRequest) (read : InvoiceRows)
  | commit (r : BalanceRequest) (read : InvoiceRows)
  | rollback (e : AppError)
  | done (failure : Option AppError)

namespace InvoiceRows

def write : BalanceWrite → InvoiceRows → InvoiceRows
  | .insertPayment payment, rows => { rows with payments := rows.payments ++ [payment] }
  | .insertAdjustment adjustment, rows => { rows with adjustments := rows.adjustments ++ [adjustment] }
  | .updateInvoice remainingBalance status, rows =>
    { rows with invoice := { rows.invoice with remainingBalance, status } }
  | .recordAudit q action, rows => rows.record q action

end InvoiceRows

/-- The inserted row's foreign key leaves the Invoice free for an update by another transaction. -/
def balanceStatement : BalanceFrame → Action InvoiceRows Unit BalanceFrame BalanceWrite
  | .findInvoice r => .run fun rows =>
    match r.assertStatus rows with
    | .ok _ => (.insertRow r, [])
    | .error e => (.rollback e, [])
  | .insertRow r => .run fun _ =>
    if r.cents ≤ decimalMax then (.readInvoice r, r.inserts)
    else (.rollback (.database "Numeric field overflow."), [])
  | .readInvoice r => .run fun rows => (.readPayments r rows, [])
  | .readPayments r read => .run fun rows => (.readAdjustments r { read with payments := rows.payments }, [])
  | .readAdjustments r read => .run fun rows => (.updateInvoice r { read with adjustments := rows.adjustments }, [])
  | .updateInvoice r read => .lock () fun _ =>
    if (remaining read).natAbs ≤ decimalMax then
      (.recordAudit r read, [.updateInvoice (remaining read) (recalculatedStatus read)])
    else (.rollback (.database "Numeric field overflow."), [])
  | .recordAudit r read => .run fun _ => (.commit r read, [.recordAudit r.request r.action])
  | .commit _ _ => .commit (.done none)
  | .rollback e => .rollback (.done (some e))
  | .done _ => .stop

def balanceCode : Code InvoiceRows Unit BalanceFrame BalanceWrite where
  action := balanceStatement
  apply := InvoiceRows.write
  fail _ := .done (some (.database "Transaction aborted."))

variable {rows rows' read : InvoiceRows} {r : BalanceRequest} {ws : List BalanceWrite}

def InvoiceRows.Balanced (rows : InvoiceRows) : Prop := rows.invoice.remainingBalance = remaining rows

instance (rows : InvoiceRows) : Decidable rows.Balanced :=
  inferInstanceAs (Decidable (rows.invoice.remainingBalance = remaining rows))

def Computed (rows : InvoiceRows) (x : Session BalanceFrame BalanceWrite) : Prop :=
  match x.frame with
  | .findInvoice _ => x.writes = []
  | .insertRow _ => x.writes = []
  | .readInvoice r => x.writes = r.inserts
  | .readPayments r read => x.writes = r.inserts ∧ read.invoice.total = rows.invoice.total
  | .readAdjustments r read => x.writes = r.inserts ∧ read.invoice.total = rows.invoice.total
  | .updateInvoice r read => x.writes = r.inserts ∧ read.invoice.total = rows.invoice.total
  | .recordAudit r read =>
    x.writes = r.inserts ++ [.updateInvoice (remaining read) (recalculatedStatus read)] ∧
      read.invoice.total = rows.invoice.total
  | .commit r read =>
    x.writes = r.inserts ++ [.updateInvoice (remaining read) (recalculatedStatus read)] ++
      [.recordAudit r.request r.action] ∧ read.invoice.total = rows.invoice.total
  | .rollback _ => True
  | .done _ => True

@[simp] lemma write_total (w : BalanceWrite) (rows : InvoiceRows) :
    (InvoiceRows.write w rows).invoice.total = rows.invoice.total := by
  cases w <;> rfl

lemma applyAll_total (ws : List BalanceWrite) (rows : InvoiceRows) :
    (balanceCode.applyAll ws rows).invoice.total = rows.invoice.total :=
  balanceCode.applyAll_preserves (P := fun a => a.invoice.total = rows.invoice.total)
    (fun w a ha => (write_total w a).trans ha) ws rows rfl

lemma applyAll_inserts (r : BalanceRequest) (rows : InvoiceRows) : balanceCode.applyAll r.inserts rows =
    { rows with payments := rows.payments ++ r.payments, adjustments := rows.adjustments ++ r.adjustments } := by
  cases r <;> simp [BalanceRequest.inserts, BalanceRequest.payments, BalanceRequest.adjustments, balanceCode,
    InvoiceRows.write]

lemma computed_write (x : Session BalanceFrame BalanceWrite) (w : BalanceWrite) (h : Computed rows x) :
    Computed (InvoiceRows.write w rows) x := by
  obtain ⟨frame, ws⟩ := x
  cases frame with
  | readPayments | readAdjustments | updateInvoice | recordAudit | commit =>
    exact ⟨h.1, h.2.trans (write_total w rows).symm⟩
  | _ => exact h

lemma computed_statement {frame : BalanceFrame} {next : BalanceFrame × List BalanceWrite}
    (h : Computed rows ⟨frame, ws⟩) (hr : (balanceStatement frame).moves (balanceCode.applyAll ws rows) = some next) :
    Computed rows ⟨next.1, ws ++ next.2⟩ := by
  cases frame with
  | findInvoice r =>
    obtain rfl := Option.some.inj hr
    obtain rfl : ws = [] := h
    cases hstatus : r.assertStatus (balanceCode.applyAll [] rows) with
    | ok _ => simp only [hstatus, Computed, List.append_nil]
    | error e => simp only [hstatus, Computed]
  | insertRow r =>
    obtain rfl := Option.some.inj hr
    obtain rfl : ws = [] := h
    dsimp only
    split_ifs
    · exact List.nil_append _
    · trivial
  | readInvoice r =>
    obtain rfl := Option.some.inj hr
    exact ⟨(List.append_nil ws).trans h, applyAll_total ws rows⟩
  | readPayments r read =>
    obtain rfl := Option.some.inj hr
    exact ⟨(List.append_nil ws).trans h.1, h.2⟩
  | readAdjustments r read =>
    obtain rfl := Option.some.inj hr
    exact ⟨(List.append_nil ws).trans h.1, h.2⟩
  | updateInvoice r read =>
    obtain rfl := Option.some.inj hr
    obtain ⟨rfl, htotal⟩ := h
    dsimp only
    split_ifs
    · exact ⟨rfl, htotal⟩
    · trivial
  | recordAudit r read =>
    obtain rfl := Option.some.inj hr
    obtain ⟨rfl, htotal⟩ := h
    exact ⟨rfl, htotal⟩
  | commit r read => cases hr
  | rollback e => cases hr
  | done failure => cases hr

lemma balance_knows {I : Type*} : Knows balanceCode (fun (_ : I) => Computed) where
  stable _ _ x w h := computed_write x w h
  statement _ _ _ _ _ h hr := computed_statement h hr
  ending := by
    rintro i rows f ws next h (hend | rfl)
    · cases f with
      | commit r read =>
        obtain rfl := Option.some.inj hend
        trivial
      | rollback e =>
        obtain rfl := Option.some.inj hend
        trivial
      | _ => cases hend
    · trivial

variable {I : Type*} [DecidableEq I]

/-- No other payment or adjustment was committed between a request's reading of the rows and its commit. -/
def ReadsCurrent (s : State InvoiceRows Unit I BalanceFrame BalanceWrite) : Event I → Prop
  | .advance i =>
    match (s.session i).frame with
    | .commit r read =>
      read.payments = s.committed.payments ++ r.payments ∧ read.adjustments = s.committed.adjustments ++ r.adjustments
    | _ => True
  | .fail _ => True

lemma balanced_commit (h : Computed rows ⟨.commit r read, ws⟩) (hpayments : read.payments = rows.payments ++ r.payments)
    (hadjustments : read.adjustments = rows.adjustments ++ r.adjustments) :
    (balanceCode.applyAll ws rows).Balanced := by
  obtain ⟨hws, htotal⟩ := h
  obtain rfl : ws = _ := hws
  rw [Code.applyAll_append, Code.applyAll_append, applyAll_inserts]
  exact remaining_congr htotal hpayments hadjustments

theorem balance_counts_every_row {requests : I → BalanceRequest} {es : List (Event I)}
    {s : State InvoiceRows Unit I BalanceFrame BalanceWrite} (hrows : rows.Balanced)
    (h : Run (Guarded (Enabled (step balanceCode)) ReadsCurrent) (begin rows (fun i => .findInvoice (requests i))) es s) :
    s.committed.invoice.remainingBalance = s.committed.invoice.total - (s.committed.payments.map Payment.amount).sum -
      ((s.committed.adjustments.filter (fun a => a.type == .credit)).map Adjustment.amount).sum +
      ((s.committed.adjustments.filter (fun a => a.type == .debit)).map Adjustment.amount).sum := by
  have hbalanced : s.committed.Balanced := by
    refine balance_knows.committed (P := InvoiceRows.Balanced) ?_ (fun i => ?_) hrows h
    · intro s i next hact hguard hcomputed _
      cases hframe : (s.session i).frame with
      | commit r read =>
        simp only [ReadsCurrent, hframe] at hguard
        have hcommit : Computed s.committed ⟨.commit r read, (s.session i).writes⟩ := by rwa [← hframe]
        exact balanced_commit hcommit hguard.1 hguard.2
      | _ =>
        rw [hframe] at hact
        cases hact
    · rfl
  exact hbalanced

instance (s : State InvoiceRows Unit I BalanceFrame BalanceWrite) (e : Event I) : Decidable (ReadsCurrent s e) := by
  unfold ReadsCurrent
  split
  · split <;> infer_instance
  · infer_instance

namespace Sample

open QuoteLoad.Sample

def sent : InvoiceRows := invoiceAfter [bill]

def payments (i : Bool) : BalanceRequest :=
  .recordPayment (request (if i then 50 else 40))
    { amount := ⟨if i then 50000 else 100000, by split <;> decide⟩, paymentDate := 30, method := "ACH", filled := ach_filled }

def beginPayments : State InvoiceRows Unit Bool BalanceFrame BalanceWrite :=
  begin sent (fun i => .findInvoice (payments i))

def paidInTurn : List (Event Bool) := List.replicate 8 (.advance false) ++ List.replicate 8 (.advance true)

def paidTogether : List (Event Bool) :=
  List.replicate 5 (.advance false) ++ List.replicate 5 (.advance true) ++
    List.replicate 3 (.advance false) ++ List.replicate 3 (.advance true)

def bothPaid : State InvoiceRows Unit Bool BalanceFrame BalanceWrite :=
  (paidTogether.foldlM (step balanceCode) beginPayments).get (by decide)

end Sample

open Sample

theorem balance_counts_every_row_sample : ∃ s : State InvoiceRows Unit Bool BalanceFrame BalanceWrite,
    Run (Enabled (step balanceCode)) beginPayments paidInTurn s ∧ s.committed.Balanced := by
  have hsome : (paidInTurn.foldlM (checked (step balanceCode) ReadsCurrent) beginPayments).isSome := by decide
  obtain ⟨s, hs⟩ := Option.isSome_iff_exists.mp hsome
  have hrun := run_checked hs
  exact ⟨s, hrun.unguarded, balance_counts_every_row (by decide) hrun⟩

theorem payment_lost_from_balance :
    sent.Balanced ∧ Run (Enabled (step balanceCode)) beginPayments paidTogether bothPaid ∧
      (∀ i, (bothPaid.session i).frame = .done none) ∧
      bothPaid.committed.payments.map Payment.amount = [100000, 50000] ∧
      bothPaid.committed.invoice.total = 245000 ∧ bothPaid.committed.invoice.remainingBalance = 195000 ∧
      ¬ bothPaid.committed.Balanced := by
  refine ⟨by decide, (run_enabled_iff _ _ _ _).mpr (Option.some_get _).symm, ?_, by decide, by decide, by decide,
    by decide⟩
  rintro (_ | _) <;> rfl

section Alone

variable {e : AppError}

lemma findInvoice_alone {last : BalanceFrame} (hstatus : r.assertStatus rows = .ok ()) (hcents : r.cents ≤ decimalMax)
    (h : Alone balanceCode rows ⟨.updateInvoice r (balanceCode.applyAll r.inserts rows), r.inserts⟩ rows' last) :
    Alone balanceCode rows ⟨.findInvoice r, []⟩ rows' last := by
  have hadjustments : Alone balanceCode rows ⟨.readAdjustments r (balanceCode.applyAll r.inserts rows), r.inserts⟩
      rows' last := .reads rfl h
  have hpayments : Alone balanceCode rows ⟨.readPayments r (balanceCode.applyAll r.inserts rows), r.inserts⟩
      rows' last := .reads rfl hadjustments
  have hinvoice : Alone balanceCode rows ⟨.readInvoice r, r.inserts⟩ rows' last := .reads rfl hpayments
  have hinsert : Alone balanceCode rows ⟨.insertRow r, []⟩ rows' last :=
    .writes (congrArg some (if_pos hcents)) hinvoice
  refine .reads ?_ hinsert
  simp only [balanceCode, balanceStatement, Action.moves, Code.applyAll_nil, hstatus]

lemma serve_eq (r : BalanceRequest) (rows : InvoiceRows) : r.serve rows = (do
    r.assertStatus rows
    ensure (r.cents ≤ decimalMax) (.database "Numeric field overflow.")
    let updated ← recalculateInvoiceBalance (balanceCode.applyAll r.inserts rows)
    pure (updated.record r.request r.action)) := by
  cases r <;> rfl

theorem uninterrupted_balance_request (h : r.serve rows = .ok rows') :
    Alone balanceCode rows ⟨.findInvoice r, []⟩ rows' (.done none) := by
  simp only [serve_eq, recalculateInvoiceBalance, bind_eq_ok, ensure_eq_ok, pure_eq_ok] at h
  obtain ⟨_, hstatus, _, hcents, _, ⟨_, hfits, rfl⟩, rfl⟩ := h
  refine findInvoice_alone hstatus hcents ?_
  set read := balanceCode.applyAll r.inserts rows
  have hend : balanceCode.applyAll (r.inserts ++ [.updateInvoice (remaining read) (recalculatedStatus read)] ++
      [.recordAudit r.request r.action]) rows = InvoiceRows.record { read with
        invoice := { read.invoice with remainingBalance := remaining read, status := recalculatedStatus read } }
        r.request r.action := by
    rw [Code.applyAll_append, Code.applyAll_append]
    rfl
  have hcommit := Alone.commit (c := balanceCode) (d := rows) (x := ⟨.commit r read, r.inserts ++
    [.updateInvoice (remaining read) (recalculatedStatus read)] ++ [.recordAudit r.request r.action]⟩) rfl
  rw [hend] at hcommit
  have haudit : Alone balanceCode rows ⟨.recordAudit r read, r.inserts ++
    [.updateInvoice (remaining read) (recalculatedStatus read)]⟩ _ _ := .writes rfl hcommit
  exact .writes (congrArg some (if_pos hfits)) haudit

theorem uninterrupted_balance_refusal (h : r.serve rows = .error e) :
    Alone balanceCode rows ⟨.findInvoice r, []⟩ rows (.done (some e)) := by
  have hback (ws : List BalanceWrite) (e : AppError) : Alone balanceCode rows ⟨.rollback e, ws⟩ rows (.done (some e)) :=
    .rollback rfl
  simp only [serve_eq, recalculateInvoiceBalance, bind_eq_error, ensure_eq_error, ensure_eq_ok, pure_ne_error,
    and_false, exists_false, or_false] at h
  rcases h with hrefused | ⟨_, hstatus, ⟨hcents, rfl⟩ | ⟨_, hcents, hfits, rfl⟩⟩
  · refine .reads ?_ (hback [] e)
    simp only [balanceCode, balanceStatement, Action.moves, Code.applyAll_nil, hrefused]
  · have hinsert : Alone balanceCode rows ⟨.insertRow r, []⟩ rows _ :=
      .reads (congrArg some (if_neg hcents)) (hback [] _)
    refine .reads ?_ hinsert
    simp only [balanceCode, balanceStatement, Action.moves, Code.applyAll_nil, hstatus]
  · exact findInvoice_alone hstatus hcents (.reads (congrArg some (if_neg hfits)) (hback r.inserts _))

end Alone

end Truckmaster.Billing
