import Truckmaster.CarrierPay.CarrierPayments
import Truckmaster.Library.SerialRuns

namespace Truckmaster.CarrierPay

open Common Fallible QuoteLoad ReadCommitted Runs Transactions

structure CarrierPaymentRow extends CarrierPayment where
  submittedAt : Option Instant := none
  approvedByUserId : Option Uuid := none
  approvedAt : Option Instant := none
  lastRejectedByUserId : Option Uuid := none
  lastRejectedAt : Option Instant := none
  lastRejectionReason : Option String := none
  paidAt : Option Instant := none
  deriving DecidableEq, Repr

inductive PaymentChange
  | submitted (now : Instant)
  | approved (actingUserId : Uuid) (now : Instant)
  | rejected (actingUserId : Uuid) (now : Instant) (reason : String)
  | paid (paidAt : Instant)
  deriving DecidableEq, Repr

structure SettlementDocument where
  id : Uuid
  documentTypeId : Uuid
  fileStorageKey : Option Uuid := none
  fileName : String
  uploadedByUserId : Uuid
  deriving DecidableEq, Repr

/-- A payment with the history of its changes, its Load's number and its settlement documents. -/
structure PaymentDb where
  payment : CarrierPaymentRow
  changes : List PaymentChange := []
  loadNumber : String
  settlementTypeId : Option Uuid
  documents : List SettlementDocument := []
  audit : List AuditEvent := []

inductive PaymentRowKey
  | payment | document (id : Uuid)
  deriving DecidableEq

inductive PaymentWrite
  | update (change : PaymentChange)
  | createDocument (document : SettlementDocument)
  | setStorageKey (id : Uuid)
  | record (event : AuditEvent)

inductive PaymentOp
  | submit
  | approve
  | reject (reason : String) (filled : 1 ≤ reason.length)
  | markPaid (paymentDate : Option Instant)

structure PaymentRequest where
  q : Request
  id : Uuid
  op : PaymentOp

namespace CarrierPaymentRow

def changed (p : CarrierPaymentRow) : PaymentChange → CarrierPaymentRow
  | .submitted now => { p with status := .pendingApproval, submittedAt := some now }
  | .approved actingUserId now =>
    { p with status := .approved, approvedByUserId := some actingUserId, approvedAt := some now }
  | .rejected actingUserId now reason =>
    { p with
      status := .draft
      lastRejectedByUserId := some actingUserId
      lastRejectedAt := some now
      lastRejectionReason := some reason }
  | .paid paidAt => { p with status := .paid, paidAt := some paidAt }

end CarrierPaymentRow

namespace PaymentDb

def write : PaymentWrite → PaymentDb → PaymentDb
  | .update change, d => { d with payment := d.payment.changed change, changes := d.changes ++ [change] }
  | .createDocument document, d => { d with documents := d.documents ++ [document] }
  | .setStorageKey id, d =>
    { d with documents := d.documents.map (fun a => if a.id = id then { a with fileStorageKey := some id } else a) }
  | .record event, d => { d with audit := d.audit ++ [event] }

end PaymentDb

abbrev PaymentTx := Txn PaymentDb PaymentRowKey PaymentWrite AppError

namespace CarrierPaymentService

variable (q : Request) (id : Uuid)

def findPayment : PaymentTx CarrierPaymentRow := do
  let found ← Txn.read (fun d => if d.payment.id = id then some d.payment else none)
  Txn.require found (.notFound "Carrier Payment not found.")

def filled (s : Option String) : Bool := s.any (fun s => s != "")

def recordPayment (action : String) : PaymentTx Unit :=
  Txn.write (.record ⟨action, "CarrierPayment", id, some q.actingUserId, .human, none⟩)

def submit : PaymentTx Unit := do
  let existing ← findPayment id
  Txn.ensure (existing.status = .draft)
    (.invalidTransition "Only a Draft Carrier Payment can be submitted for approval.")
  Txn.ensure (filled existing.method && filled existing.referenceNumber)
    (.businessRule "Method and reference number are required before submission.")
  Txn.update .payment (.update (.submitted q.now))
  recordPayment q id "Carrier Payment Submitted for Approval"

def assertReviewable (existing : CarrierPaymentRow) (invalid selfReview : String) : PaymentTx Unit := do
  Txn.ensure (existing.status = .pendingApproval) (.invalidTransition invalid)
  Txn.ensure (existing.preparedByUserId ≠ q.actingUserId) ⟨.selfReviewForbidden, selfReview, []⟩

def approve : PaymentTx Unit := do
  let existing ← findPayment id
  assertReviewable q existing "Only a Pending Approval Carrier Payment can be approved."
    "You cannot approve a Carrier Payment you prepared."
  Txn.update .payment (.update (.approved q.actingUserId q.now))
  recordPayment q id "Carrier Payment Approved"

def reject (reason : String) : PaymentTx Unit := do
  let existing ← findPayment id
  assertReviewable q existing "Only a Pending Approval Carrier Payment can be rejected."
    "You cannot reject a Carrier Payment you prepared."
  Txn.update .payment (.update (.rejected q.actingUserId q.now reason))
  recordPayment q id "Carrier Payment Rejected"

def createSettlement (documentTypeId : Uuid) (loadNumber : String) : PaymentTx Unit := do
  Txn.update (.document (q.uuid 0)) (.createDocument
    { id := q.uuid 0
      documentTypeId
      fileName := "Settlement-" ++ loadNumber ++ "-" ++ toString id ++ ".pdf"
      uploadedByUserId := q.actingUserId })
  Txn.update (.document (q.uuid 0)) (.setStorageKey (q.uuid 0))

def markPaid (paymentDate : Option Instant) : PaymentTx Unit := do
  let existing ← findPayment id
  let loadNumber ← Txn.read (fun d => d.loadNumber)
  Txn.ensure (existing.status = .approved)
    (.invalidTransition "Only an Approved Carrier Payment can be marked Paid.")
  Txn.update .payment (.update (.paid (paymentDate.getD q.now)))
  let found ← Txn.read (fun d => d.settlementTypeId)
  let documentTypeId ← Txn.require found (.notFound "Settlement document type is not configured.")
  createSettlement q id documentTypeId loadNumber
  recordPayment q id "Carrier Payment Paid"
  Txn.write (.record ⟨"Settlement Document Generated", "CarrierPayment", id, none, .system, none⟩)

end CarrierPaymentService

def PaymentRequest.transaction (r : PaymentRequest) : PaymentTx Unit :=
  match r.op with
  | .submit => CarrierPaymentService.submit r.q r.id
  | .approve => CarrierPaymentService.approve r.q r.id
  | .reject reason _ => CarrierPaymentService.reject r.q r.id reason
  | .markPaid paymentDate => CarrierPaymentService.markPaid r.q r.id paymentDate

def next : CarrierPaymentStatus → PaymentChange → Option CarrierPaymentStatus
  | .draft, .submitted _ => some .pendingApproval
  | .pendingApproval, .approved _ _ => some .approved
  | .pendingApproval, .rejected _ _ _ => some .draft
  | .approved, .paid _ => some .paid
  | _, _ => none

namespace PaymentDb

structure Created (d : PaymentDb) : Prop where
  status : d.payment.status = .draft
  changes : d.changes = []
  documents : d.documents = []

/-- The payment was approved after its latest submission, and not by the one who prepared it. -/
def Approved (d : PaymentDb) (since : List PaymentChange) : Prop :=
  ∃ before user now, d.changes = before ++ .approved user now :: since ∧ user ≠ d.payment.preparedByUserId ∧
    d.payment.approvedByUserId = some user

/-- The changes take the payment from DRAFT to its status, and each has left the status that it needs. -/
structure Segregated (d₀ d : PaymentDb) : Prop where
  lifecycle : d.changes.foldlM next .draft = some d.payment.status
  approved : d.payment.status = .approved → d.Approved []
  paid : d.payment.status = .paid → ∃ paidAt, d.Approved [.paid paidAt]
  fixed : d.payment.amount = d₀.payment.amount ∧ d.payment.preparedByUserId = d₀.payment.preparedByUserId
  documents : d.documents.length = if d.payment.status = .paid then 1 else 0

end PaymentDb

open PaymentDb

variable {d₀ d d' : PaymentDb} {r : PaymentRequest}

structure Changes (d : PaymentDb) (change : PaymentChange) (d' : PaymentDb) : Prop where
  allowed : ∃ status, next d.payment.status change = some status
  reviewed : ∀ user now, change = .approved user now → user ≠ d.payment.preparedByUserId
  payment : d'.payment = d.payment.changed change
  changes : d'.changes = d.changes ++ [change]
  documents : d'.documents.length = d.documents.length + if d'.payment.status = .paid then 1 else 0

section Requests

open CarrierPaymentService

variable {q : Request} {id : Uuid}

lemma run_findPayment {existing : CarrierPaymentRow} (h : (findPayment id).run write d = (.ok existing, d')) :
    existing = d.payment ∧ d' = d := by
  simp only [findPayment, Txn.run_bind, Txn.run_read, Txn.run_require, Prod.mk.injEq] at h
  obtain ⟨hfound, rfl⟩ := h
  refine ⟨?_, rfl⟩
  split at hfound
  · exact (Except.ok.inj hfound).symm
  · cases hfound

lemma changes_of_update {change : PaymentChange} {event : AuditEvent}
    (hallowed : ∃ status, next d.payment.status change = some status)
    (hunpaid : (d.payment.changed change).status ≠ .paid)
    (hreviewed : ∀ user now, change = .approved user now → user ≠ d.payment.preparedByUserId) :
    Changes d change (write (.record event) (write (.update change) d)) where
  allowed := hallowed
  reviewed := hreviewed
  payment := rfl
  changes := rfl
  documents := by
    have hsame : (write (.record event) (write (.update change) d)).payment = d.payment.changed change := rfl
    rw [hsame, if_neg hunpaid]
    rfl

lemma submit_changes (h : (submit q id).exec write d = .ok d') : ∃ change, Changes d change d' := by
  obtain ⟨_, hrun⟩ := Txn.exec_eq_ok.mp h
  obtain ⟨existing, u, hfound, hrest⟩ := Txn.run_bind_ok.mp hrun
  obtain ⟨rfl, rfl⟩ := run_findPayment hfound
  simp only [recordPayment, Txn.run_bind_ok, Txn.run_ensure, Txn.run_update, Txn.run_write, Prod.mk.injEq,
    ensure_eq_ok, true_and, and_assoc, exists_and_left, exists_eq_left', exists_const] at hrest
  obtain ⟨hstatus, _, rfl⟩ := hrest
  exact ⟨_, changes_of_update ⟨.pendingApproval, hstatus ▸ rfl⟩ (by simp [CarrierPaymentRow.changed]) (by rintro _ _ ⟨⟩)⟩

lemma run_assertReviewable {existing : CarrierPaymentRow} {invalid selfReview : String} {a : Unit}
    (h : (assertReviewable q existing invalid selfReview).run write d = (.ok a, d')) :
    existing.status = .pendingApproval ∧ existing.preparedByUserId ≠ q.actingUserId ∧ d' = d := by
  simp only [assertReviewable, Txn.run_bind_ok, Txn.run_ensure, Prod.mk.injEq, ensure_eq_ok, and_assoc, exists_and_left,
    exists_eq_left', exists_const] at h
  exact ⟨h.1, h.2.1, h.2.2.symm⟩

lemma approve_changes (h : (approve q id).exec write d = .ok d') : ∃ change, Changes d change d' := by
  obtain ⟨_, hrun⟩ := Txn.exec_eq_ok.mp h
  obtain ⟨existing, u, hfound, hrest⟩ := Txn.run_bind_ok.mp hrun
  obtain ⟨rfl, rfl⟩ := run_findPayment hfound
  obtain ⟨_, v, hreviewable, hlast⟩ := Txn.run_bind_ok.mp hrest
  obtain ⟨hstatus, hother, rfl⟩ := run_assertReviewable hreviewable
  simp only [recordPayment, Txn.run_bind_ok, Txn.run_update, Txn.run_write, Prod.mk.injEq, true_and, exists_eq_left',
    exists_const] at hlast
  subst hlast
  refine ⟨_, changes_of_update ⟨.approved, hstatus ▸ rfl⟩ (by simp [CarrierPaymentRow.changed]) (fun user now heq => ?_)⟩
  obtain ⟨rfl, _⟩ := PaymentChange.approved.inj heq
  exact hother.symm

lemma reject_changes {reason : String} (h : (reject q id reason).exec write d = .ok d') :
    ∃ change, Changes d change d' := by
  obtain ⟨_, hrun⟩ := Txn.exec_eq_ok.mp h
  obtain ⟨existing, u, hfound, hrest⟩ := Txn.run_bind_ok.mp hrun
  obtain ⟨rfl, rfl⟩ := run_findPayment hfound
  obtain ⟨_, v, hreviewable, hlast⟩ := Txn.run_bind_ok.mp hrest
  obtain ⟨hstatus, _, rfl⟩ := run_assertReviewable hreviewable
  simp only [recordPayment, Txn.run_bind_ok, Txn.run_update, Txn.run_write, Prod.mk.injEq, true_and, exists_eq_left',
    exists_const] at hlast
  subst hlast
  exact ⟨_, changes_of_update ⟨.draft, hstatus ▸ rfl⟩ (by simp [CarrierPaymentRow.changed]) (by rintro _ _ ⟨⟩)⟩

lemma markPaid_changes {paymentDate : Option Instant} (h : (markPaid q id paymentDate).exec write d = .ok d') :
    ∃ change, Changes d change d' := by
  obtain ⟨_, hrun⟩ := Txn.exec_eq_ok.mp h
  obtain ⟨existing, u, hfound, hrest⟩ := Txn.run_bind_ok.mp hrun
  obtain ⟨rfl, rfl⟩ := run_findPayment hfound
  simp only [recordPayment, createSettlement, Txn.run_bind_ok, Txn.run_read, Txn.run_ensure, Txn.run_require,
    Txn.run_update, Txn.run_write, Prod.mk.injEq, ensure_eq_ok, require_eq_ok, true_and, and_assoc, exists_and_left,
    exists_eq_left', exists_const, Except.ok.injEq] at hrest
  obtain ⟨hstatus, documentTypeId, _, rfl⟩ := hrest
  refine ⟨.paid (paymentDate.getD q.now), ⟨.paid, hstatus ▸ rfl⟩, (by rintro _ _ ⟨⟩), rfl, rfl, ?_⟩
  simp [write, CarrierPaymentRow.changed]

end Requests

lemma transaction_changes (h : r.transaction.exec write d = .ok d') : ∃ change, Changes d change d' := by
  unfold PaymentRequest.transaction at h
  split at h
  · exact submit_changes h
  · exact approve_changes h
  · exact reject_changes h
  · exact markPaid_changes h

lemma next_changed {payment : CarrierPaymentRow} {change : PaymentChange} {status : CarrierPaymentStatus}
    (h : next payment.status change = some status) : (payment.changed change).status = status := by
  cases change <;> cases hstatus : payment.status <;> rw [hstatus] at h <;> cases h <;> rfl

lemma changed_fixed (payment : CarrierPaymentRow) (change : PaymentChange) :
    (payment.changed change).amount = payment.amount ∧
      (payment.changed change).preparedByUserId = payment.preparedByUserId := by
  cases change <;> exact ⟨rfl, rfl⟩

lemma next_approved {status : CarrierPaymentStatus} {change : PaymentChange} (h : next status change = some .approved) :
    ∃ user now, change = .approved user now := by
  cases change with
  | approved user now => exact ⟨user, now, rfl⟩
  | _ => cases status <;> cases h

lemma next_paid {status : CarrierPaymentStatus} {change : PaymentChange} (h : next status change = some .paid) :
    status = .approved ∧ ∃ paidAt, change = .paid paidAt := by
  cases change with
  | paid paidAt =>
    cases status with
    | approved => exact ⟨rfl, paidAt, rfl⟩
    | _ => cases h
  | _ => cases status <;> cases h

lemma next_not_paid {status : CarrierPaymentStatus} {change : PaymentChange} (h : (next status change).isSome) :
    status ≠ .paid := by
  rintro rfl
  cases change <;> cases h

lemma PaymentDb.Segregated.changed {change : PaymentChange} (h : Segregated d₀ d) (hchange : Changes d change d') :
    Segregated d₀ d' := by
  obtain ⟨status, hnext⟩ := hchange.allowed
  have hstatus : d'.payment.status = status := hchange.payment ▸ next_changed hnext
  obtain ⟨hamount, hprepared⟩ := changed_fixed d.payment change
  rw [← hchange.payment] at hamount hprepared
  refine ⟨?_, fun happroved => ?_, fun hpaid => ?_, ⟨hamount.trans h.fixed.1, hprepared.trans h.fixed.2⟩, ?_⟩
  · rw [hchange.changes, List.foldlM_append, h.lifecycle, hstatus]
    change next d.payment.status change >>= pure = _
    rw [hnext]
    rfl
  · obtain rfl := hstatus.symm.trans happroved
    obtain ⟨user, now, rfl⟩ := next_approved hnext
    refine ⟨d.changes, user, now, hchange.changes, ?_, ?_⟩
    · rw [hprepared]
      exact hchange.reviewed user now rfl
    · rw [hchange.payment]
      rfl
  · obtain rfl := hstatus.symm.trans hpaid
    obtain ⟨hbefore, paidAt, rfl⟩ := next_paid hnext
    obtain ⟨before, user, now, hchanges, hother, hby⟩ := h.approved hbefore
    refine ⟨paidAt, before, user, now, ?_, hprepared ▸ hother, ?_⟩
    · rw [hchange.changes, hchanges, List.append_assoc]
      rfl
    · rw [hchange.payment]
      exact hby
  · have hunpaid : d.payment.status ≠ .paid := next_not_paid (Option.isSome_iff_exists.mpr ⟨status, hnext⟩)
    rw [hchange.documents, h.documents, if_neg hunpaid, Nat.zero_add]

lemma PaymentDb.Created.segregated (h : d.Created) : Segregated d d where
  lifecycle := by
    rw [h.changes, h.status]
    rfl
  approved happroved := absurd (h.status.symm.trans happroved) nofun
  paid hpaid := absurd (h.status.symm.trans hpaid) nofun
  fixed := ⟨rfl, rfl⟩
  documents := by
    rw [h.documents, h.status]
    rfl

abbrev PaymentFrame := Frame PaymentDb PaymentRowKey PaymentWrite AppError Unit

abbrev paymentCode : Code PaymentDb PaymentRowKey PaymentFrame PaymentWrite :=
  code write (.database "Transaction aborted.")

variable {I : Type} [DecidableEq I]

theorem duties_segregated {requests : I → PaymentRequest} {s : State PaymentDb PaymentRowKey I PaymentFrame PaymentWrite}
    {es : List (Event I)} (hd : d.Created) (h : Run (Guarded (Enabled (ReadCommitted.step paymentCode))
      (CommitsAlone (fun i => (requests i).transaction)))
      (begin d (fun i => .running (requests i).transaction)) es s) : Segregated d s.committed := by
  refine serial_invariant (P := Segregated d) (fun i a b ha hab => ?_) hd.segregated h
  obtain ⟨change, hchange⟩ := transaction_changes hab
  exact ha.changed hchange

namespace Sample

def draftPayment : PaymentDb where
  payment :=
    { id := 1, carrierId := 5, amount := 10000, paymentType := .balance, method := some "ACH"
      referenceNumber := some "77", preparedByUserId := 8 }
  loadNumber := "LOAD-000001"
  settlementTypeId := some 3

def actor (user : Uuid) : Request := ⟨0, fun _ => user, fun _ => .stored, user⟩

def paymentRequests : Fin 7 → PaymentRequest
  | 0 => ⟨actor 8, 1, .submit⟩
  | 1 => ⟨actor 9, 1, .approve⟩
  | 2 => ⟨actor 10, 1, .reject "Amount" (by decide)⟩
  | 3 => ⟨actor 11, 1, .markPaid none⟩
  | 4 => ⟨actor 8, 1, .submit⟩
  | 5 => ⟨actor 9, 1, .approve⟩
  | 6 => ⟨actor 12, 1, .markPaid none⟩

def paying : State PaymentDb PaymentRowKey (Fin 7) PaymentFrame PaymentWrite :=
  begin draftPayment (fun i => .running (paymentRequests i).transaction)

def pays (n : ℕ) (i : Fin 7) : List (Event (Fin 7)) := List.replicate n (.advance i)

def lateRejection : List (Event (Fin 7)) :=
  pays 4 0 ++ pays 1 2 ++ pays 4 1 ++ pays 9 3 ++ pays 3 2 ++ pays 4 4 ++ pays 4 5 ++ pays 9 6

end Sample

open Sample

theorem duties_segregated_sample : ∃ es s, Run (Guarded (Enabled (ReadCommitted.step paymentCode))
    (CommitsAlone (fun i => (paymentRequests i).transaction))) paying es s ∧
    s.committed.payment.status = .paid ∧ Segregated draftPayment s.committed := by
  have hnodup : ([0, 1, 3] : List (Fin 7)).Nodup := by decide
  obtain ⟨es, s, hrun, hcommitted⟩ := run_serially (s := paying) hnodup (fun _ => Or.inl rfl) (fun _ => rfl)
  refine ⟨es, s, hrun, ?_, duties_segregated ⟨rfl, rfl, rfl⟩ hrun⟩
  rw [hcommitted]
  rfl

theorem paid_twice : ∃ s, draftPayment.Created ∧ Run (Enabled (ReadCommitted.step paymentCode)) paying lateRejection s ∧
    s.committed.changes.foldlM next .draft = none ∧ s.committed.documents.length = 2 := by
  have hend : (lateRejection.foldlM (ReadCommitted.step paymentCode) paying).any (fun s =>
      s.committed.changes.foldlM next .draft = none ∧ s.committed.documents.length = 2) = true := by decide +kernel
  obtain ⟨s, hs, hall⟩ := (Option.any_eq_true _ _).mp hend
  exact ⟨s, ⟨rfl, rfl, rfl⟩, (run_enabled_iff _ _ _ _).mpr hs, of_decide_eq_true hall⟩

end Truckmaster.CarrierPay
