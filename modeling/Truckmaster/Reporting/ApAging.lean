import Truckmaster.CarrierPay.PaymentApproval
import Truckmaster.QuoteLoad.Lifecycle

namespace Truckmaster.Reporting

open CarrierPay CarrierPay.CarrierPaymentService Common Fallible QuoteLoad Runs Transactions

inductive AgingBucketKey
  | current | days1to30 | days31to60 | days61to90 | days90plus
  deriving DecidableEq, Repr

structure AgingBucket where
  count : ℕ := 0
  total : Cents := 0
  deriving DecidableEq, Repr

abbrev AgingBuckets := AgingBucketKey → AgingBucket

structure AgingReport where
  buckets : AgingBuckets
  grandTotal : Cents

end Truckmaster.Reporting

namespace Truckmaster.CarrierPay

namespace CarrierPaymentRow

/-- A payment has a submission date if it is no DRAFT, or is one again after a rejection. -/
def Dated (p : CarrierPaymentRow) : Prop :=
  p.submittedAt.isSome ↔ p.status ≠ .draft ∨ p.lastRejectedAt.isSome

def Returned (p : CarrierPaymentRow) : Prop := p.status = .draft ∧ p.lastRejectedAt.isSome

def AwaitsSettlement (p : CarrierPaymentRow) : Prop := p.status = .pendingApproval ∨ p.status = .approved

instance (p : CarrierPaymentRow) : Decidable p.Dated := inferInstanceAs (Decidable (_ ↔ _))
instance (p : CarrierPaymentRow) : Decidable p.Returned := inferInstanceAs (Decidable (_ ∧ _))
instance (p : CarrierPaymentRow) : Decidable p.AwaitsSettlement := inferInstanceAs (Decidable (_ ∨ _))

end CarrierPaymentRow

end Truckmaster.CarrierPay

namespace Truckmaster.Reporting

open CarrierPay CarrierPay.CarrierPaymentService Common Fallible QuoteLoad Runs Transactions

structure AgedLoad where
  rows : LoadRows
  payments : List CarrierPaymentRow
  stored : rows.carrierPayments = payments.map CarrierPaymentRow.toCarrierPayment
  dated : ∀ p ∈ payments, p.Dated

namespace ReportingService

def agingBucketKeys : List AgingBucketKey := [.current, .days1to30, .days31to60, .days61to90, .days90plus]

def emptyBuckets : AgingBuckets := fun _ => {}

def bucketForDaysPastDue (daysPastDue : ℤ) : AgingBucketKey :=
  if daysPastDue ≤ 0 then .current
  else if daysPastDue ≤ 30 then .days1to30
  else if daysPastDue ≤ 60 then .days31to60
  else if daysPastDue ≤ 90 then .days61to90
  else .days90plus

def msPerDay : ℤ := 24 * 60 * 60 * 1000

def daysPastDue (anchorDate today : Instant) : ℤ := (today - anchorDate) / msPerDay

def addToBucket (buckets : AgingBuckets) (key : AgingBucketKey) (amount : Cents) : AgingBuckets :=
  Function.update buckets key ⟨(buckets key).count + 1, (buckets key).total + amount⟩

/-- The `where` of the report's query. -/
def isPayable (load : AgedLoad) : Bool := load.rows.load.assignedCarrierId.isSome && load.rows.load.carrierRate.isSome

/-- The anchor date and the amount with which a round of the loop counts its Load, if it does not `continue`. -/
def agedAmount (load : AgedLoad) : Option (Instant × Cents) :=
  let totalPaid := ((load.payments.filter (fun p => p.status == .paid)).map (fun p => p.amount)).sum
  let outstanding := load.rows.load.carrierRate.getD 0 - totalPaid
  if outstanding ≤ 0 then none
  else
    let unresolvedSubmittedDates :=
      (load.payments.filter (fun p => p.status != .paid && p.submittedAt.isSome)).filterMap (fun p => p.submittedAt)
    unresolvedSubmittedDates.min?.map (fun anchor => (anchor, outstanding))

def ageLoad (today : Instant) (report : AgingReport) (load : AgedLoad) : AgingReport :=
  match agedAmount load with
  | none => report
  | some (anchor, outstanding) =>
    ⟨addToBucket report.buckets (bucketForDaysPastDue (daysPastDue anchor today)) outstanding,
      report.grandTotal + outstanding⟩

def computeApAging (today : Instant) (loads : List AgedLoad) : AgingReport :=
  (loads.filter isPayable).foldl (ageLoad today) ⟨emptyBuckets, 0⟩

end ReportingService

section Payments

variable {p : CarrierPaymentRow} {change : PaymentChange} {d d' : PaymentDb}

lemma changed_dated (h : p.submittedAt.isSome ∨ ∃ now, change = .submitted now) : (p.changed change).Dated := by
  have hkept (change : PaymentChange) (hsome : p.submittedAt.isSome) : (p.changed change).submittedAt.isSome := by
    cases change with
    | submitted now => rfl
    | _ => exact hsome
  rcases h with hsome | ⟨now, rfl⟩
  · refine iff_of_true (hkept change hsome) ?_
    cases change with
    | rejected actingUserId now reason => exact Or.inr rfl
    | _ => exact Or.inl nofun
  · exact iff_of_true rfl (Or.inl nofun)

lemma next_of_draft {status : CarrierPaymentStatus} (h : next .draft change = some status) :
    ∃ now, change = .submitted now := by
  cases change with
  | submitted now => exact ⟨now, rfl⟩
  | _ => cases h

theorem payment_dated {rs : List PaymentRequest} (hd : d.payment.Dated)
    (h : Run (Serving (fun r d => r.transaction.exec PaymentDb.write d)) d rs d') : d'.payment.Dated := by
  refine serving_invariant (P := fun d => d.payment.Dated) (fun d r d' hd hexec => ?_) h hd
  obtain ⟨change, hchange⟩ := transaction_changes hexec
  obtain ⟨status, hnext⟩ := hchange.allowed
  rw [hchange.payment]
  refine changed_dated ?_
  by_cases hdraft : d.payment.status = .draft
  · rw [hdraft] at hnext
    exact Or.inr (next_of_draft hnext)
  · exact Or.inl (hd.mpr (Or.inl hdraft))

end Payments

open ReportingService

namespace AgedLoad

variable {load : AgedLoad} {today : Instant}

def accessorials (load : AgedLoad) : Cents :=
  ((load.rows.chargeLineItems.filter (fun c => c.side == .carrier && c.source == .adjustment)).map
    ChargeLineItem.amount).sum

def counted (load : AgedLoad) : Option (Instant × Cents) := if isPayable load then agedAmount load else none

lemma paid_sum (load : AgedLoad) :
    ((load.rows.carrierPayments.filter (fun p => p.status == .paid)).map CarrierPayment.amount).sum =
      ((load.payments.filter (fun p => p.status == .paid)).map (fun p => p.amount)).sum := by
  rw [load.stored, List.filter_map, List.map_map]
  rfl

lemma outstanding_eq {balance : Cents} (h : computeCarrierBalance load.rows = some balance) :
    load.rows.load.carrierRate.getD 0 - ((load.payments.filter (fun p => p.status == .paid)).map (fun p => p.amount)).sum =
      balance - load.accessorials := by
  obtain ⟨rate, hrate, hbalance⟩ := Option.map_eq_some_iff.mp h
  rw [← load.paid_sum, ← hbalance, hrate, Option.getD_some, accessorials]
  ring

lemma submitted_of_awaits (h : ∃ p ∈ load.payments, p.AwaitsSettlement) :
    ∃ p ∈ load.payments, p.status ≠ .paid ∧ p.submittedAt.isSome := by
  obtain ⟨p, hp, hawaits⟩ := h
  have hdated := load.dated p hp
  refine ⟨p, hp, ?_⟩
  unfold CarrierPaymentRow.Dated CarrierPaymentRow.AwaitsSettlement at *
  cases hstatus : p.status <;> simp_all

lemma submitted_iff (h : ∀ p ∈ load.payments, ¬ p.Returned) :
    (∃ p ∈ load.payments, p.status ≠ .paid ∧ p.submittedAt.isSome) ↔ ∃ p ∈ load.payments, p.AwaitsSettlement := by
  refine ⟨?_, load.submitted_of_awaits⟩
  rintro ⟨p, hp, hpaid, hsubmitted⟩
  have hdated := load.dated p hp
  have hreturned := h p hp
  refine ⟨p, hp, ?_⟩
  unfold CarrierPaymentRow.Dated CarrierPaymentRow.Returned CarrierPaymentRow.AwaitsSettlement at *
  cases hstatus : p.status <;> simp_all

lemma isPayable_iff {balance : Cents} (h : computeCarrierBalance load.rows = some balance) :
    isPayable load = true ↔ load.rows.load.assignedCarrierId.isSome := by
  obtain ⟨rate, hrate, _⟩ := Option.map_eq_some_iff.mp h
  rw [isPayable, hrate, Option.isSome_some, Bool.and_true]

lemma counted_amount {balance : Cents} {anchor : Instant} {amount : Cents}
    (h : computeCarrierBalance load.rows = some balance) (hcounted : load.counted = some (anchor, amount)) :
    0 < amount ∧ amount = balance - load.accessorials := by
  rw [counted, Option.ite_none_right_eq_some, agedAmount, Option.ite_none_left_eq_some, Option.map_eq_some_iff] at hcounted
  obtain ⟨_, hpositive, _, _, hpair⟩ := hcounted
  obtain ⟨_, rfl⟩ := Prod.mk.inj hpair
  exact ⟨not_le.mp hpositive, outstanding_eq h⟩

lemma counted_isSome {balance : Cents} (hassigned : load.rows.load.assignedCarrierId.isSome)
    (h : computeCarrierBalance load.rows = some balance) :
    load.counted.isSome ↔ 0 < balance - load.accessorials ∧
      ∃ p ∈ load.payments, p.status ≠ .paid ∧ p.submittedAt.isSome := by
  rw [counted, if_pos ((isPayable_iff h).mpr hassigned), agedAmount, outstanding_eq h]
  by_cases hpositive : balance - load.accessorials ≤ 0
  · rw [if_pos hpositive]
    exact iff_of_false nofun (fun hright => absurd hright.1 (not_lt.mpr hpositive))
  · rw [if_neg hpositive, Option.isSome_map]
    simp only [not_le.mp hpositive, true_and]
    rw [List.isSome_min?_iff]
    constructor
    · intro hdates
      obtain ⟨date, hdate⟩ := List.exists_mem_of_ne_nil _ hdates
      simp only [List.mem_filterMap, List.mem_filter, Bool.and_eq_true, bne_iff_ne] at hdate
      obtain ⟨p, ⟨hp, hpaid, hsome⟩, _⟩ := hdate
      exact ⟨p, hp, hpaid, hsome⟩
    · rintro ⟨p, hp, hpaid, hsome⟩
      obtain ⟨date, hdate⟩ := Option.isSome_iff_exists.mp hsome
      refine List.ne_nil_of_mem (a := date) ?_
      simp only [List.mem_filterMap, List.mem_filter, Bool.and_eq_true, bne_iff_ne]
      exact ⟨p, ⟨hp, hpaid, hsome⟩, hdate⟩

end AgedLoad

section Report

variable {today : Instant} {loads : List AgedLoad} {report : AgingReport}

lemma foldl_grandTotal (loads : List AgedLoad) (report : AgingReport) :
    (loads.foldl (ageLoad today) report).grandTotal =
      report.grandTotal + ((loads.filterMap agedAmount).map Prod.snd).sum := by
  induction loads generalizing report with
  | nil => simp
  | cons load loads ih =>
    rw [List.foldl_cons, ih, ageLoad]
    cases haged : agedAmount load with
    | none => simp [haged]
    | some aged => simp [haged, add_assoc]

def inBucket (today : Instant) (key : AgingBucketKey) (aged : Instant × Cents) : Bool :=
  bucketForDaysPastDue (daysPastDue aged.1 today) == key

lemma foldl_bucket (key : AgingBucketKey) (loads : List AgedLoad) (report : AgingReport) :
    (loads.foldl (ageLoad today) report).buckets key =
      ⟨(report.buckets key).count + ((loads.filterMap agedAmount).filter (inBucket today key)).length,
        (report.buckets key).total + (((loads.filterMap agedAmount).filter (inBucket today key)).map Prod.snd).sum⟩ := by
  induction loads generalizing report with
  | nil => simp
  | cons load loads ih =>
    rw [List.foldl_cons, ih, ageLoad]
    cases haged : agedAmount load with
    | none => simp [haged]
    | some aged =>
      by_cases hkey : bucketForDaysPastDue (daysPastDue aged.1 today) = key
      · simp [haged, inBucket, hkey, addToBucket, add_assoc, add_comm 1]
      · simp [haged, inBucket, hkey, addToBucket, Function.update_of_ne (Ne.symm hkey)]

lemma payable_counted (loads : List AgedLoad) :
    (loads.filter isPayable).filterMap agedAmount = loads.filterMap AgedLoad.counted := by
  induction loads with
  | nil => rfl
  | cons load loads ih =>
    by_cases hpayable : isPayable load = true <;>
      simp [List.filterMap_cons, AgedLoad.counted, hpayable, ih]

lemma sum_buckets (aged : List (Instant × Cents)) :
    (agingBucketKeys.map (fun key => ((aged.filter (inBucket today key)).map Prod.snd).sum)).sum =
      (aged.map Prod.snd).sum := by
  induction aged with
  | nil => rfl
  | cons a aged ih =>
    simp only [agingBucketKeys, List.map_cons, List.map_nil, List.sum_cons, List.sum_nil, List.filter_cons, ← ih]
    cases hkey : bucketForDaysPastDue (daysPastDue a.1 today) <;> simp [inBucket, hkey] <;> ring

end Report

theorem carrier_balances_agree (today : Instant) (loads : List AgedLoad) :
    (∀ rows, LoadService.remainingCarrierBalance rows = computeCarrierBalance rows) ∧
    (∀ (load : AgedLoad) (balance : Cents), load.rows.load.assignedCarrierId.isSome →
      computeCarrierBalance load.rows = some balance →
      (∀ anchor amount, load.counted = some (anchor, amount) → 0 < amount ∧ amount = balance - load.accessorials) ∧
      (0 < balance - load.accessorials → (∃ p ∈ load.payments, p.AwaitsSettlement) → load.counted.isSome) ∧
      ((∀ p ∈ load.payments, ¬ p.Returned) →
        (load.counted.isSome ↔ 0 < balance - load.accessorials ∧ ∃ p ∈ load.payments, p.AwaitsSettlement))) ∧
    (computeApAging today loads).grandTotal = ((loads.filterMap AgedLoad.counted).map Prod.snd).sum ∧
    (computeApAging today loads).grandTotal = (agingBucketKeys.map
      (fun key => ((computeApAging today loads).buckets key).total)).sum ∧
    ∀ key, ((computeApAging today loads).buckets key).count =
      ((loads.filterMap AgedLoad.counted).filter (inBucket today key)).length := by
  have htotal : (computeApAging today loads).grandTotal = ((loads.filterMap AgedLoad.counted).map Prod.snd).sum := by
    rw [computeApAging, foldl_grandTotal, payable_counted, zero_add]
  have hbucket (key : AgingBucketKey) : (computeApAging today loads).buckets key =
      ⟨((loads.filterMap AgedLoad.counted).filter (inBucket today key)).length,
        (((loads.filterMap AgedLoad.counted).filter (inBucket today key)).map Prod.snd).sum⟩ := by
    rw [computeApAging, foldl_bucket, payable_counted]
    simp only [emptyBuckets, zero_add]
  refine ⟨fun _ => rfl, fun load balance hassigned hbalance => ⟨fun _ _ => AgedLoad.counted_amount hbalance,
    fun hpositive hawaits => ?_, fun hreturned => ?_⟩, htotal, ?_, fun key => congrArg AgingBucket.count (hbucket key)⟩
  · exact (AgedLoad.counted_isSome hassigned hbalance).mpr ⟨hpositive, load.submitted_of_awaits hawaits⟩
  · rw [AgedLoad.counted_isSome hassigned hbalance, AgedLoad.submitted_iff hreturned]
  · simp only [hbucket]
    exact htotal.trans (sum_buckets _).symm

namespace Sample

def assignedRows : LoadRows := QuoteLoad.Sample.serve QuoteLoad.Sample.booked 2 QuoteLoad.Sample.toRateConfirmation

def detention : ChargeLineItem :=
  { id := 60, side := .carrier, chargeTypeId := 6, unitRate := 5000, amount := 5000, source := .adjustment
    createdByUserId := 1 }

def payment : CarrierPaymentRow :=
  { id := 70, carrierId := 5, amount := 100000, paymentType := .deposit, preparedByUserId := 8 }

def submitted : CarrierPaymentRow := payment.changed (.submitted 10)

def owed (chargeLineItems : List ChargeLineItem) (payments : List CarrierPaymentRow)
    (dated : ∀ p ∈ payments, p.Dated) : AgedLoad where
  rows := { assignedRows with
    chargeLineItems, carrierPayments := payments.map CarrierPaymentRow.toCarrierPayment }
  payments
  stored := rfl
  dated

def withDetention : AgedLoad := owed [detention] [submitted] (by decide)

def afterRejection : AgedLoad := owed [] [submitted.changed (.rejected 9 20 "Amount")] (by decide)

end Sample

open Sample

/-- The report leaves the extra charge out, and counts a Load none of whose payments awaits settlement. -/
theorem aging_differs :
    computeCarrierBalance withDetention.rows = some 250000 ∧
    (computeApAging 20 [withDetention]).grandTotal = 245000 ∧
    (¬ ∃ p ∈ afterRejection.payments, p.AwaitsSettlement) ∧
    ((computeApAging 30 [afterRejection]).buckets .current).count = 1 := by
  refine ⟨by decide, by decide, by decide, by decide⟩

end Truckmaster.Reporting
