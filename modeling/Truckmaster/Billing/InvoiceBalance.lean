import Truckmaster.Billing.Invoices
import Truckmaster.QuoteLoad.Lifecycle

namespace Truckmaster.Billing

open Common Fallible QuoteLoad Runs InvoiceService

inductive InvoiceOp
  | send (dto : SendInvoiceInput)
  | recordPayment (dto : RecordPaymentInput)
  | addAdjustment (dto : AddAdjustmentInput)
  | void

structure InvoiceCall where
  reference : Reference
  request : Request
  op : InvoiceOp

def InvoiceCall.exec (c : InvoiceCall) (rows : InvoiceRows) : Except AppError InvoiceRows :=
  match c.op with
  | .send dto => InvoiceService.send c.reference c.request (some rows) dto
  | .recordPayment dto => InvoiceService.recordPayment c.request (some rows) dto
  | .addAdjustment dto => InvoiceService.addAdjustment c.request (some rows) dto
  | .void => Prod.fst <$> InvoiceService.void c.request (some rows)

variable {c : InvoiceCall} {q : Request} {rows rows' : InvoiceRows} {calls : List InvoiceCall}

def Payable (rows : InvoiceRows) : Prop :=
  rows.invoice.status ∈ [InvoiceStatus.sent, .partiallyPaid] ∧
    ∀ q dto, dto.amount.cents ≤ decimalMax → ∃ rows', recordPayment q (some rows) dto = .ok rows'

def BalanceLaw (rows : InvoiceRows) : Prop :=
  rows.invoice.status ≠ .draft → rows.invoice.status ≠ .void →
    rows.invoice.remainingBalance = remaining rows ∧
    (rows.invoice.status = .paid ∨ rows.invoice.status = .credited ↔ rows.invoice.remainingBalance ≤ 0) ∧
    (0 < rows.invoice.remainingBalance → Payable rows)

structure Coherent (rows : InvoiceRows) : Prop where
  paid_nonneg : 0 ≤ totalPaid rows
  draft : rows.invoice.status = .draft → rows.payments = [] ∧ rows.adjustments = []
  balance : rows.invoice.remainingBalance = remaining rows
  fits : (remaining rows).natAbs ≤ decimalMax
  paid : rows.invoice.status = .paid ∨ rows.invoice.status = .partiallyPaid → 0 < totalPaid rows
  credited : rows.invoice.status = .credited → totalPaid rows = 0

/-- A debit on a CREDITED Invoice that opens it again, by an amount the columns can hold. -/
def Reopens (rows : InvoiceRows) (c : InvoiceCall) : Prop :=
  ∃ dto, c.op = .addAdjustment dto ∧ dto.type = .debit ∧ rows.invoice.status = .credited ∧
    0 < rows.invoice.remainingBalance + dto.amount.cents ∧ dto.amount.cents ≤ decimalMax ∧
    rows.invoice.remainingBalance + dto.amount.cents ≤ decimalMax

lemma totalPaid_congr (h : rows'.payments = rows.payments) : totalPaid rows' = totalPaid rows := by
  rw [totalPaid, totalPaid, h]

lemma remaining_congr (ht : rows'.invoice.total = rows.invoice.total) (hp : rows'.payments = rows.payments)
    (ha : rows'.adjustments = rows.adjustments) : remaining rows' = remaining rows := by
  simp only [remaining, totalPaid, totalAdjusted, ht, hp, ha]

lemma totalPaid_payment (p : Payment) :
    totalPaid { rows with payments := rows.payments ++ [p] } = totalPaid rows + p.amount := by
  simp [totalPaid]

lemma remaining_payment (p : Payment) :
    remaining { rows with payments := rows.payments ++ [p] } = remaining rows - p.amount := by
  simp only [remaining, totalPaid_payment]
  unfold totalAdjusted
  ring

def Adjustment.signed (a : Adjustment) : Cents :=
  match a.type with
  | .credit => -a.amount
  | .debit => a.amount

lemma remaining_adjustment (rows : InvoiceRows) (a : Adjustment) :
    remaining { rows with adjustments := rows.adjustments ++ [a] } = remaining rows + a.signed := by
  obtain ⟨id, type, amount, reason, date, user⟩ := a
  cases type <;> simp [remaining, totalAdjusted, totalPaid, List.filter_append, Adjustment.signed] <;> ring

structure Recalculated (mid rows' : InvoiceRows) : Prop where
  payments : rows'.payments = mid.payments
  adjustments : rows'.adjustments = mid.adjustments
  total : rows'.invoice.total = mid.invoice.total
  balance : rows'.invoice.remainingBalance = remaining mid
  fits : (remaining mid).natAbs ≤ decimalMax
  status : rows'.invoice.status = recalculatedStatus mid

lemma recalculate_ok (h : recalculateInvoiceBalance rows = .ok rows') : Recalculated rows rows' := by
  simp only [recalculateInvoiceBalance, bind_eq_ok, ensure_eq_ok, pure_eq_ok] at h
  obtain ⟨_, hfits, rfl⟩ := h
  exact ⟨rfl, rfl, rfl, rfl, hfits, rfl⟩

lemma recalculate_accepts (h : (remaining rows).natAbs ≤ decimalMax) :
    ∃ rows', recalculateInvoiceBalance rows = .ok rows' := by
  simp only [recalculateInvoiceBalance, bind_eq_ok, ensure_eq_ok, pure_eq_ok]
  exact ⟨_, (), h, rfl⟩

lemma Recalculated.remaining_eq {mid : InvoiceRows} (h : Recalculated mid rows') : remaining rows' = remaining mid :=
  remaining_congr h.total h.payments h.adjustments

lemma Recalculated.totalPaid_eq {mid : InvoiceRows} (h : Recalculated mid rows') :
    totalPaid rows' = totalPaid mid := totalPaid_congr h.payments

lemma Recalculated.coherent {mid : InvoiceRows} (h : Recalculated mid rows') (hnonneg : 0 ≤ totalPaid mid)
    (hdraft : mid.invoice.status ≠ .draft)
    (hpaid : mid.invoice.status = .paid ∨ mid.invoice.status = .partiallyPaid → 0 < totalPaid mid) :
    Coherent rows' := by
  have hstatus := h.status
  have hnone (hsome : ¬ 0 < totalPaid mid) : totalPaid mid = 0 := le_antisymm (not_lt.mp hsome) hnonneg
  rw [recalculatedStatus] at hstatus
  refine ⟨h.totalPaid_eq ▸ hnonneg, ?_, h.balance.trans h.remaining_eq.symm, h.remaining_eq ▸ h.fits, ?_, ?_⟩ <;>
    rw [hstatus] <;> try rw [h.totalPaid_eq]
  · split_ifs
    all_goals first | exact fun hsame => absurd hsame hdraft | exact nofun
  · split_ifs with hvoid hsettled hsome hsome
    · simp
    · exact fun _ => hsome
    · simp
    · exact fun _ => hsome
    · exact hpaid
  · split_ifs with hvoid hsettled hsome hsome
    · simp
    · simp
    · exact fun _ => hnone hsome
    · simp
    · exact fun _ => hnone hsome

lemma payable_iff (rows : InvoiceRows) (hfits : (remaining rows).natAbs ≤ decimalMax) (hopen : 0 < remaining rows) :
    Payable rows ↔ rows.invoice.status ∈ [InvoiceStatus.sent, .partiallyPaid] := by
  refine ⟨And.left, fun hstatus => ⟨hstatus, fun q dto hamount => ?_⟩⟩
  have hpos : 0 < (dto.amount.cents : ℤ) := Int.natCast_pos.mpr dto.amount.pos
  let p : Payment := ⟨q.uuid 0, dto.amount.cents, dto.paymentDate, dto.method, dto.referenceNumber, dto.notes,
    q.actingUserId⟩
  have hrest : (remaining { rows with payments := rows.payments ++ [p] }).natAbs ≤ decimalMax := by
    rw [remaining_payment]
    simp only [p, Cents] at *
    omega
  obtain ⟨updated, hupdated⟩ := recalculate_accepts hrest
  simp only [recordPayment, InvoiceRows.found, bind_eq_ok, require_eq_ok, ensure_eq_ok, pure_eq_ok]
  exact ⟨_, rows, rfl, (), hstatus, (), hamount, updated, hupdated, rfl⟩

/-- The cascade has no branch for an open amount that no payment has reduced: the status stays. -/
lemma Recalculated.law_iff {mid : InvoiceRows} (h : Recalculated mid rows') (hdraft : mid.invoice.status ≠ .draft)
    (hvoid : mid.invoice.status ≠ .void) :
    BalanceLaw rows' ↔
      ¬ (0 < remaining mid ∧ totalPaid mid ≤ 0 ∧ (mid.invoice.status = .paid ∨ mid.invoice.status = .credited)) := by
  have hstatus := h.status
  have hpayable := payable_iff rows' (h.remaining_eq ▸ h.fits)
  rw [h.remaining_eq, hstatus] at hpayable
  rw [recalculatedStatus, if_neg hvoid] at hstatus hpayable
  rw [BalanceLaw, h.balance, h.remaining_eq, hstatus]
  split_ifs at hpayable ⊢ with hsettled hsome hsome
  · simp [hsettled, not_lt.mpr hsettled]
  · simp [hsettled, not_lt.mpr hsettled]
  · simp [hsettled, not_le.mpr hsome, not_le.mp hsettled, hpayable]
  · have hopen : 0 < remaining mid := not_le.mp hsettled
    cases hs : mid.invoice.status <;> simp_all

lemma recordPayment_ok {dto : RecordPaymentInput} (h : recordPayment q (some rows) dto = .ok rows') :
    ∃ p : Payment, 0 < p.amount ∧ rows.invoice.status ∈ [InvoiceStatus.sent, .partiallyPaid] ∧
      Recalculated { rows with payments := rows.payments ++ [p] } rows' := by
  simp only [recordPayment, InvoiceRows.found, bind_eq_ok, require_eq_ok, Option.some.injEq, exists_eq_left',
    ensure_eq_ok, pure_eq_ok] at h
  obtain ⟨_, hstatus, _, _, updated, hupdated, rfl⟩ := h
  obtain ⟨h1, h2, h3, h4, h5, h6⟩ := recalculate_ok hupdated
  exact ⟨_, Int.natCast_pos.mpr dto.amount.pos, hstatus, h1, h2, h3, h4, h5, h6⟩

lemma addAdjustment_ok {dto : AddAdjustmentInput} (h : addAdjustment q (some rows) dto = .ok rows') :
    ∃ a : Adjustment, a.type = dto.type ∧ a.amount = dto.amount.cents ∧ rows.invoice.status ≠ .draft ∧
      rows.invoice.status ≠ .void ∧ dto.amount.cents ≤ decimalMax ∧
      Recalculated { rows with adjustments := rows.adjustments ++ [a] } rows' := by
  simp only [addAdjustment, InvoiceRows.found, bind_eq_ok, require_eq_ok, Option.some.injEq, exists_eq_left',
    ensure_eq_ok, pure_eq_ok] at h
  obtain ⟨_, ⟨hdraft, hvoid⟩, _, hamount, updated, hupdated, rfl⟩ := h
  obtain ⟨h1, h2, h3, h4, h5, h6⟩ := recalculate_ok hupdated
  exact ⟨_, rfl, rfl, hdraft, hvoid, hamount, h1, h2, h3, h4, h5, h6⟩

lemma addAdjustment_accepts {dto : AddAdjustmentInput} (hdraft : rows.invoice.status ≠ .draft)
    (hvoid : rows.invoice.status ≠ .void) (hamount : dto.amount.cents ≤ decimalMax)
    (hfits : ∀ a : Adjustment, a.type = dto.type → a.amount = dto.amount.cents →
      (remaining rows + a.signed).natAbs ≤ decimalMax) :
    ∃ rows', addAdjustment q (some rows) dto = .ok rows' := by
  let a : Adjustment := ⟨q.uuid 0, dto.type, dto.amount.cents, dto.reason, dto.adjustmentDate.getD q.now,
    q.actingUserId⟩
  obtain ⟨updated, hupdated⟩ := recalculate_accepts ((remaining_adjustment rows a).symm ▸ hfits a rfl rfl)
  simp only [addAdjustment, InvoiceRows.found, bind_eq_ok, require_eq_ok, ensure_eq_ok, pure_eq_ok]
  exact ⟨_, rows, rfl, (), ⟨hdraft, hvoid⟩, (), hamount, updated, hupdated, rfl⟩

lemma send_ok {r : Reference} (dto : SendInvoiceInput) (h : InvoiceService.send r q (some rows) dto = .ok rows') :
    rows.invoice.status = .draft ∧ 0 < rows.invoice.total ∧ rows'.invoice.status = .sent ∧
      rows'.invoice.total = rows.invoice.total ∧ rows'.invoice.remainingBalance = rows.invoice.remainingBalance ∧
      rows'.payments = rows.payments ∧ rows'.adjustments = rows.adjustments := by
  simp only [InvoiceService.send, InvoiceRows.found, bind_eq_ok, require_eq_ok, Option.some.injEq, exists_eq_left',
    ensure_eq_ok, pure_eq_ok] at h
  obtain ⟨_, hdraft, _, ⟨_, htotal⟩, _, _, _, _, rfl⟩ := h
  exact ⟨hdraft, htotal, rfl, rfl, rfl, rfl, rfl⟩

lemma void_ok {released : List Uuid} (h : InvoiceService.void q (some rows) = .ok (rows', released)) :
    rows'.invoice.status = .void ∧ rows'.invoice.total = rows.invoice.total ∧
      rows'.invoice.remainingBalance = rows.invoice.remainingBalance ∧ rows'.payments = rows.payments ∧
      rows'.adjustments = rows.adjustments := by
  simp only [InvoiceService.void, InvoiceRows.found, bind_eq_ok, require_eq_ok, Option.some.injEq, exists_eq_left',
    ensure_eq_ok, pure_eq_ok, Prod.mk.injEq] at h
  obtain ⟨_, _, rfl, _⟩ := h
  exact ⟨rfl, rfl, rfl, rfl, rfl⟩

lemma exec_coherent (rows : InvoiceRows) (c : InvoiceCall) (rows' : InvoiceRows) (hrows : Coherent rows)
    (h : c.exec rows = .ok rows') : Coherent rows' := by
  obtain ⟨reference, q, op⟩ := c
  cases op with
  | send dto =>
    obtain ⟨hdraft, _, hstatus, htotal, hbalance, hpayments, hadjustments⟩ := send_ok dto h
    have hpaid : totalPaid rows' = totalPaid rows := totalPaid_congr hpayments
    have hremaining : remaining rows' = remaining rows := remaining_congr htotal hpayments hadjustments
    refine ⟨hpaid ▸ hrows.paid_nonneg, ?_, ?_, hremaining ▸ hrows.fits, ?_, ?_⟩
    · simp [hstatus]
    · rw [hbalance, hremaining, hrows.balance]
    · simp [hstatus]
    · simp [hstatus]
  | recordPayment dto =>
    obtain ⟨p, hpos, hstatus, hrec⟩ := recordPayment_ok h
    have hpaid : 0 < totalPaid { rows with payments := rows.payments ++ [p] } := by
      rw [totalPaid_payment]
      exact Int.add_pos_of_nonneg_of_pos hrows.paid_nonneg hpos
    refine hrec.coherent hpaid.le ?_ (fun _ => hpaid)
    intro hdraft
    rw [show rows.invoice.status = .draft from hdraft] at hstatus
    simp at hstatus
  | addAdjustment dto =>
    obtain ⟨a, _, _, hdraft, _, _, hrec⟩ := addAdjustment_ok h
    exact hrec.coherent hrows.paid_nonneg hdraft hrows.paid
  | void =>
    obtain ⟨⟨_, released⟩, hvoid, rfl⟩ := map_eq_ok.mp h
    obtain ⟨hstatus, htotal, hbalance, hpayments, hadjustments⟩ := void_ok hvoid
    have hpaid : totalPaid _ = totalPaid rows := totalPaid_congr hpayments
    have hremaining : remaining _ = remaining rows := remaining_congr htotal hpayments hadjustments
    refine ⟨hpaid ▸ hrows.paid_nonneg, ?_, ?_, hremaining ▸ hrows.fits, ?_, ?_⟩
    · simp [hstatus]
    · exact hbalance.trans (hrows.balance.trans hremaining.symm)
    · simp [hstatus]
    · simp [hstatus]

lemma create_ok {label : Uuid → String} {n : ℕ} {stored : List BillableLoad} {dto : CreateInvoiceInput}
    (h : create label q n stored dto = .ok rows) :
    rows.invoice.status = .draft ∧ rows.payments = [] ∧ rows.adjustments = [] ∧
      rows.invoice.remainingBalance = rows.invoice.total ∧ rows.invoice.total.natAbs ≤ decimalMax := by
  simp only [create, bind_eq_ok, ensure_eq_ok, pure_eq_ok] at h
  obtain ⟨_, _, _, hfits, rfl⟩ := h
  refine ⟨?_, ?_, ?_, ?_, hfits⟩ <;>
    simp only [invoiceRows, InvoiceRows.record] <;> split <;> rfl

lemma remaining_untouched (hp : rows.payments = []) (ha : rows.adjustments = []) :
    remaining rows = rows.invoice.total := by
  simp [remaining, totalPaid, totalAdjusted, hp, ha]

lemma coherent_create {label : Uuid → String} {n : ℕ} {stored : List BillableLoad} {dto : CreateInvoiceInput}
    (h : create label q n stored dto = .ok rows) : Coherent rows := by
  obtain ⟨hstatus, hpayments, hadjustments, hbalance, hfits⟩ := create_ok h
  have hremaining := remaining_untouched hpayments hadjustments
  refine ⟨by simp [totalPaid, hpayments], fun _ => ⟨hpayments, hadjustments⟩, hbalance.trans hremaining.symm,
    hremaining ▸ hfits, ?_, ?_⟩
  · simp [hstatus]
  · simp [hstatus]

lemma law_of_exec (hrows : Coherent rows) (hlaw : BalanceLaw rows) (hopen : ¬ Reopens rows c)
    (h : c.exec rows = .ok rows') : BalanceLaw rows' := by
  obtain ⟨reference, q, op⟩ := c
  cases op with
  | send dto =>
    obtain ⟨hdraft, hpos, hstatus, htotal, hbalance, hpayments, hadjustments⟩ := send_ok dto h
    obtain ⟨hnopay, hnoadjust⟩ := hrows.draft hdraft
    have hremaining : remaining rows' = remaining rows := remaining_congr htotal hpayments hadjustments
    have htotal' : remaining rows = rows.invoice.total := remaining_untouched hnopay hnoadjust
    have hrest : 0 < remaining rows' := by rwa [hremaining, htotal']
    intro _ _
    rw [hbalance, hrows.balance, ← hremaining]
    refine ⟨rfl, ?_, fun _ => (payable_iff rows' (hremaining ▸ hrows.fits) hrest).mpr ?_⟩
    · simp [hstatus, not_le.mpr hrest]
    · simp [hstatus]
  | recordPayment dto =>
    obtain ⟨p, hpos, hstatus, hrec⟩ := recordPayment_ok h
    have hpaid : 0 < totalPaid { rows with payments := rows.payments ++ [p] } := by
      rw [totalPaid_payment]
      exact Int.add_pos_of_nonneg_of_pos hrows.paid_nonneg hpos
    refine (hrec.law_iff ?_ ?_).mpr (fun hgap => absurd hpaid (not_lt.mpr hgap.2.1))
    · rintro hdraft
      simp [show rows.invoice.status = .draft from hdraft] at hstatus
    · rintro hvoid
      simp [show rows.invoice.status = .void from hvoid] at hstatus
  | addAdjustment dto =>
    obtain ⟨a, htype, hamount, hdraft, hvoid, hmax, hrec⟩ := addAdjustment_ok h
    refine (hrec.law_iff hdraft hvoid).mpr ?_
    rintro ⟨hgap, hnopay, hsettled⟩
    have hcredited : rows.invoice.status = .credited :=
      hsettled.resolve_left (fun hpaid => absurd (hrows.paid (Or.inl hpaid)) (not_lt.mpr hnopay))
    have hclosed : rows.invoice.remainingBalance ≤ 0 := (hlaw hdraft hvoid).2.1.mp (Or.inr hcredited)
    have hfits := hrec.fits
    rw [remaining_adjustment, ← hrows.balance] at hgap hfits
    cases htype' : dto.type with
    | credit =>
      have hsigned : a.signed = -dto.amount.cents := by rw [Adjustment.signed, htype, htype', hamount]
      have hpos := dto.amount.pos
      simp only [hsigned, Cents] at *
      omega
    | debit =>
      have hsigned : a.signed = dto.amount.cents := by rw [Adjustment.signed, htype, htype', hamount]
      refine hopen ⟨dto, rfl, htype', hcredited, ?_, hmax, ?_⟩
      · rwa [← hsigned]
      · simp only [hsigned, Cents] at *
        omega
  | void =>
    obtain ⟨⟨_, released⟩, hvoided, rfl⟩ := map_eq_ok.mp h
    exact fun _ hvoid => absurd (void_ok hvoided).1 hvoid

lemma reopens_breaks (hrows : Coherent rows) (h : Reopens rows c) :
    ∃ rows', c.exec rows = .ok rows' ∧ ¬ BalanceLaw rows' := by
  obtain ⟨reference, q, op⟩ := c
  obtain ⟨dto, rfl, htype, hcredited, hgap, hmax, hfits⟩ := h
  have hdraft : rows.invoice.status ≠ .draft := by simp [hcredited]
  have hvoid : rows.invoice.status ≠ .void := by simp [hcredited]
  have hsigned (a : Adjustment) (ht : a.type = dto.type) (ha : a.amount = dto.amount.cents) :
      remaining rows + a.signed = rows.invoice.remainingBalance + dto.amount.cents := by
    rw [Adjustment.signed, ht, htype, ha, hrows.balance]
  obtain ⟨rows', hexec⟩ := addAdjustment_accepts (q := q) hdraft hvoid hmax (fun a ht ha => by
    rw [hsigned a ht ha]
    simp only [Cents] at *
    omega)
  refine ⟨rows', hexec, fun hlaw => ?_⟩
  obtain ⟨a, ht, ha, _, _, _, hrec⟩ := addAdjustment_ok hexec
  apply (hrec.law_iff hdraft hvoid).mp hlaw
  rw [remaining_adjustment, hsigned a ht ha]
  exact ⟨hgap, (hrows.credited hcredited).le, Or.inr hcredited⟩

lemma law_attempt (rows : InvoiceRows) (c : InvoiceCall) (hrows : Coherent rows) (hlaw : BalanceLaw rows)
    (hopen : ¬ Reopens rows c) : BalanceLaw (attempt InvoiceCall.exec rows c) := by
  rcases attempt_cases InvoiceCall.exec rows c with hrefused | hok
  · rw [hrefused]
    exact hlaw
  · exact law_of_exec hrows hlaw hopen hok

lemma reopens_attempt (rows : InvoiceRows) (c : InvoiceCall) (hrows : Coherent rows) (hreopens : Reopens rows c) :
    ¬ BalanceLaw (attempt InvoiceCall.exec rows c) := by
  obtain ⟨rows', hexec, hbroken⟩ := reopens_breaks hrows hreopens
  rwa [attempt_of_ok hexec]

theorem balance_law_iff {label : Uuid → String} {n : ℕ} {stored : List BillableLoad} {dto : CreateInvoiceInput}
    (h : create label q n stored dto = .ok rows) (calls : List InvoiceCall) :
    (∀ ds, ds <+: calls → BalanceLaw (ds.foldl (attempt InvoiceCall.exec) rows)) ↔
      Run (Guarded (Serving InvoiceCall.exec) (fun rows c => ¬ Reopens rows c)) rows calls
        (calls.foldl (attempt InvoiceCall.exec) rows) := by
  refine lawful_iff_guarded (J := Coherent) (fun s c hs => ?_) law_attempt (fun s c hs _ hopen => ?_)
    (coherent_create h) (fun hdraft => absurd (create_ok h).1 hdraft) calls
  · exact serving_invariant exec_coherent (Run.single rfl) hs
  · exact reopens_attempt s c hs (not_not.mp hopen)

namespace Sample

open QuoteLoad.Sample

def linehaul : ChargeLineItem where
  id := 3
  side := .customer
  chargeTypeId := 4
  unitRate := 245000
  amount := 245000
  source := .original
  createdByUserId := 1

def delivered : BillableLoad where
  load := { booked.load with status := .delivered, podStatus := .complete }
  chargeLineItems := [linehaul]

def label (_ : Uuid) : String := "Linehaul"

def createInput : CreateInvoiceInput where
  customerId := 7
  loadIds := [booked.load.id]

def created : InvoiceRows := accepted (create label (request 20) 0 [delivered] createInput) (by decide)

lemma created_eq : create label (request 20) 0 [delivered] createInput = .ok created := eq_accepted _

def adjust (type : AdjustmentType) (cents : ℕ) (h : 0 < cents := by decide) : InvoiceOp :=
  .addAdjustment { type, amount := ⟨cents, h⟩, reason := "Agreed" }

lemma ach_filled : 1 ≤ "ACH".length := by decide

lemma invoice_filled : 1 ≤ "Invoice".length ∧ 1 ≤ "Attached".length := by decide

def pay (cents : ℕ) (h : 0 < cents := by decide) : InvoiceOp :=
  .recordPayment { amount := ⟨cents, h⟩, paymentDate := 30, method := "ACH" }

def bill : InvoiceOp := .send ⟨"ap@customer", "Invoice", "Attached", by decide⟩

def invoiceReference : Reference := { reference with documentTypes := [⟨2, none, "INVOICE"⟩] }

def invoiceCalls (ops : List InvoiceOp) : List InvoiceCall :=
  ops.mapIdx (fun i op => ⟨invoiceReference, request (21 + i), op⟩)

def invoiceAfter (ops : List InvoiceOp) : InvoiceRows :=
  (invoiceCalls ops).foldl (attempt InvoiceCall.exec) created

end Sample

open Sample

theorem balance_law_sample : BalanceLaw (invoiceAfter [bill, adjust .credit 45000, pay 200000]) := by
  refine (balance_law_iff created_eq (invoiceCalls [bill, adjust .credit 45000, pay 200000])).mpr ?_ _
    List.prefix_rfl
  refine Run.guarded (run_total _ _ _) (fun c hc rows => ?_)
  rintro ⟨dto, hop, htype, _⟩
  simp only [invoiceCalls, List.mapIdx_cons, List.mapIdx_nil, List.mem_cons, List.not_mem_nil, or_false] at hc
  rcases hc with rfl | rfl | rfl
  · cases hop
  · cases hop
    cases htype
  · cases hop

theorem reopened_stays_credited :
    (invoiceAfter [bill, adjust .credit 245000, adjust .debit 10000]).invoice.status = .credited ∧
    (invoiceAfter [bill, adjust .credit 245000, adjust .debit 10000]).invoice.remainingBalance = 10000 ∧
    ¬ Payable (invoiceAfter [bill, adjust .credit 245000, adjust .debit 10000]) ∧
    ¬ BalanceLaw (invoiceAfter [bill, adjust .credit 245000, adjust .debit 10000]) := by
  refine ⟨by decide, by decide, fun h => absurd h.1 (by decide), fun hlaw => ?_⟩
  have hsettled := (hlaw (by decide) (by decide)).2.1.mp (by decide)
  exact absurd hsettled (by decide)

end Truckmaster.Billing
