import Truckmaster.QuoteLoad.Inputs

namespace Truckmaster.CarrierPay

open Common Fallible QuoteLoad

structure CreateCarrierPaymentInput where
  paymentType : CarrierPaymentType
  amount : PositiveDecimalInput
  method : Option String := none
  referenceNumber : Option String := none
  notes : Option String := none

namespace CarrierPaymentService

def payableStatuses : List LoadStatus := [.delivered, .closed]

def computeCarrierBalance (rows : LoadRows) : Option Cents :=
  let accessorials := rows.chargeLineItems.filter (fun c => c.side == .carrier && c.source == .adjustment)
  let paid := rows.carrierPayments.filter (fun p => p.status == .paid)
  rows.load.carrierRate.map (fun rate =>
    rate + (accessorials.map ChargeLineItem.amount).sum - (paid.map CarrierPayment.amount).sum)

def create (q : Request) (found : Option LoadRows) (dto : CreateCarrierPaymentInput) :
    Except AppError (LoadRows × Option Cents) := do
  let rows ← LoadRows.found found
  ensure (rows.load.status ∈ payableStatuses)
    (.businessRule "The Load must be Delivered or later to create a Carrier Payment.")
  let carrierId ← require rows.load.assignedCarrierId (.businessRule "The Load has no assigned Carrier.")
  ensure (dto.amount.cents ≤ decimalMax) (.database "Numeric field overflow.")
  let payment : CarrierPayment :=
    { id := q.uuid 0, carrierId, amount := dto.amount.cents, paymentType := dto.paymentType
      method := dto.method, referenceNumber := dto.referenceNumber, notes := dto.notes
      preparedByUserId := q.actingUserId }
  let created := { rows with carrierPayments := rows.carrierPayments ++ [payment] }.record
    ⟨"Carrier Payment Created — Draft", "CarrierPayment", payment.id, some q.actingUserId, .human, none⟩
  pure (created, computeCarrierBalance created)

lemma create_ok {q : Request} {rows : LoadRows} {dto : CreateCarrierPaymentInput}
    {created : LoadRows × Option Cents} (h : create q (some rows) dto = .ok created) :
    rows.load.status ∈ payableStatuses := by
  simp only [create, LoadRows.found_some, bind_eq_ok, Except.ok.injEq, exists_eq_left', ensure_eq_ok] at h
  exact h.choose_spec.1

end CarrierPaymentService

end Truckmaster.CarrierPay
