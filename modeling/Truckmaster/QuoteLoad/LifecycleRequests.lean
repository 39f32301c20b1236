import Truckmaster.QuoteLoad.CarrierAssignment
import Truckmaster.QuoteLoad.Lifecycle

namespace Truckmaster.QuoteLoad

open Common Fallible Tables Transactions

inductive LifecycleRow
  | sourcing (row : SourcingRow)
  | attempt (id : Uuid)
  | dispatchRecord
  deriving DecidableEq

inductive LifecycleWrite
  | sourcing (w : SourcingWrite)
  | setStatus (status : LoadStatus)
  | unassign
  | rejectAttempt (id : Uuid) (reason : String)
  | deleteCharges (found : List ChargeLineItem)
  | createDocument (document : AttachedDocument)
  | createDispatchRecord (dispatchRecord : DispatchRecord)
  | close (q : Request)
  | cancel (q : Request)

abbrev LifecycleTx := Txn SourcingDb LifecycleRow LifecycleWrite AppError

inductive LifecycleOp
  | beginSourcing
  | assignCarrier (dto : AssignCarrierInput)
  | carrierRejected (dto : CarrierRejectedInput)
  | generateRateConfirmation
  | dispatch (dto : DispatchLoadInput)
  | cancelLoad (dto : CancelLoadInput)
  | closeLoad

def LifecycleOp.accepts : LifecycleOp → LoadStatus → Bool
  | .beginSourcing, status => status == .booked
  | .assignCarrier _, status => status == .carrierSourcing
  | .carrierRejected _, status => status == .carrierAssigned
  | .generateRateConfirmation, status => status == .carrierAssigned
  | .dispatch _, status => status == .rateConfirmation
  | .cancelLoad _, status => status ∈ LoadService.cancellableStatuses
  | .closeLoad, status => status != .closed

structure LifecycleRequest where
  reference : Reference
  q : Request
  op : LifecycleOp

namespace LoadRows

def unassign (rows : LoadRows) : LoadRows :=
  { rows with load := { rows.load with status := .carrierSourcing, assignedCarrierId := none, carrierRate := none } }

def rejectAttempt (rows : LoadRows) (id : Uuid) (reason : String) : LoadRows :=
  { rows with
    sourcingAttempts := rows.sourcingAttempts.map (fun a =>
      if a.id = id then { a with outcome := .rejectedAfterAssignment, rejectionReason := some reason } else a) }

def close (rows : LoadRows) (q : Request) : LoadRows :=
  { rows with
    load := { rows.load with status := .closed, closedAt := some q.now, closedByUserId := some q.actingUserId } }

def cancel (rows : LoadRows) (q : Request) : LoadRows :=
  { rows with
    load := { rows.load with
      status := .cancelled
      cancelledAt := some q.now
      cancelledByUserId := some q.actingUserId } }

def writeLifecycle : LifecycleWrite → LoadRows → LoadRows
  | .sourcing _, rows => rows
  | .setStatus status, rows => rows.withStatus status
  | .unassign, rows => rows.unassign
  | .rejectAttempt id reason, rows => rows.rejectAttempt id reason
  | .deleteCharges found, rows => { rows with chargeLineItems := rows.chargeLineItems.filter (fun c => c ∉ found) }
  | .createDocument document, rows => { rows with documents := rows.documents ++ [document] }
  | .createDispatchRecord dispatchRecord, rows => { rows with dispatchRecord := some dispatchRecord }
  | .close q, rows => rows.close q
  | .cancel q, rows => rows.cancel q

end LoadRows

def SourcingDb.writeLifecycle : LifecycleWrite → SourcingDb → SourcingDb
  | .sourcing w, d => d.write w
  | w, d => { d with load := d.load.map (LoadRows.writeLifecycle w) }

def SourcingDb.whole : Part SourcingDb SourcingDb where
  get := id
  put d _ := d
  get_put _ _ := rfl
  put_put _ _ _ := rfl
  put_get _ := rfl

namespace LifecycleTx

variable (r : Reference) (q : Request)

def ofSourcing {α : Type} (p : SourcingTx α) : LifecycleTx α := p.embed SourcingDb.whole .sourcing .sourcing

def findLoad (accepts : LoadStatus → Bool) (refusal : LoadStatus → AppError) : LifecycleTx LoadRows := do
  let found ← Txn.read SourcingDb.load
  let rows ← LoadRows.found found
  Txn.ensure (accepts rows.load.status = true) (refusal rows.load.status)
  pure rows

def updateLoad (w : LifecycleWrite) : LifecycleTx Unit := Txn.update (.sourcing .load) w

def record (loadId : Uuid) (action : String) (reason : Option String) : LifecycleTx Unit :=
  Txn.write (.sourcing (.record ⟨action, "Load", loadId, some q.actingUserId, .human, reason⟩))

def rowsOf {α : Type} (f : LoadRows → List α) (d : SourcingDb) : List α := d.load.elim [] f

def deleteCharges (p : ChargeLineItem → Bool) : LifecycleTx Unit :=
  .statement none (fun d => [.deleteCharges ((rowsOf LoadRows.chargeLineItems d).filter p)]) (fun _ => pure ())

def beginSourcing : LifecycleTx Unit := do
  let rows ← findLoad (fun status => status == .booked)
    (fun _ => .invalidTransition "Only a BOOKED load can enter Carrier Sourcing.")
  updateLoad (.setStatus .carrierSourcing)
  record q rows.load.id "Load Entered Carrier Sourcing" none

def assignCarrier (dto : AssignCarrierInput) : LifecycleTx Unit := ofSourcing (CarrierSourcingTx.assignCarrier r q dto)

def rejectAttempt (attempt : Option CarrierSourcingAttempt) (reason : String) : LifecycleTx Unit :=
  match attempt with
  | none => pure ()
  | some attempt => Txn.update (.attempt attempt.id) (.rejectAttempt attempt.id reason)

def removeOriginalCarrierLinehaulCharge : LifecycleTx Unit :=
  match r.findType (q.order 1) "LINEHAUL" r.chargeTypes with
  | none => pure ()
  | some linehaulType =>
    deleteCharges (fun c => c.side == .carrier && c.source == .original && c.chargeTypeId == linehaulType.id)

def carrierRejected (dto : CarrierRejectedInput) : LifecycleTx Unit := do
  let rows ← findLoad (fun status => status == .carrierAssigned) (fun _ => .invalidTransition
    "Only a load with an active Carrier Assignment can record a Carrier Rejection.")
  let attempt ← Txn.read fun d => findFirstBy (q.order 0)
    (fun a => rows.load.assignedCarrierId.all (fun c => a.carrierId == c) && a.outcome == .assigned)
    CarrierSourcingService.byLoggedAtDesc (rowsOf LoadRows.sourcingAttempts d)
  rejectAttempt attempt dto.reason
  updateLoad .unassign
  removeOriginalCarrierLinehaulCharge r q
  record q rows.load.id "Carrier Rejected — Returned to Sourcing" dto.reason

/-- The email, and the audit entry that it was sent, come after the transaction. -/
def generateRateConfirmation : LifecycleTx Unit := do
  let existing ← findLoad (fun status => status == .carrierAssigned) (fun _ => .invalidTransition
    "A Rate Confirmation can only be generated for a load with an active Carrier Assignment.")
  Txn.ensure existing.load.carrierRate.isSome (.businessRule "Carrier and carrier rate must be on record.")
  let _ ← Txn.require existing.load.assignedCarrierId (.businessRule "Carrier and carrier rate must be on record.")
  let documentType ← Txn.require (r.findType (q.order 0) "RATE_CONFIRMATION" r.documentTypes)
    (.notFound "Rate Confirmation document type is not configured.")
  Txn.write (.createDocument
    { id := q.uuid 0, documentTypeCode := documentType.code
      fileName := "RateConfirmation-" ++ existing.load.loadNumber ++ ".pdf" })
  updateLoad (.setStatus .rateConfirmation)
  record q existing.load.id "Rate Confirmation Generated" none

def dispatch (dto : DispatchLoadInput) : LifecycleTx Unit := do
  let rows ← findLoad (fun status => status == .rateConfirmation) (fun _ => .invalidTransition
    "A Load can only be Dispatched once it has reached Rate Confirmation.")
  Txn.ensure rows.load.carrierRate.isSome (.businessRule "Carrier and carrier rate must be on record.")
  let carrierId ← Txn.require rows.load.assignedCarrierId (.businessRule "Carrier and carrier rate must be on record.")
  let result ← ofSourcing (CarrierSourcingTx.recalculate q carrierId)
  Txn.ensure result.eligible
    (.eligibility "The assigned carrier is no longer eligible for assignment." result.reasons)
  let rateConfirmationDoc ← Txn.read fun d => findFirst (q.order 0)
    (fun doc => doc.isCurrentVersion && doc.documentTypeCode == "RATE_CONFIRMATION") (rowsOf LoadRows.documents d)
  let _ ← Txn.require rateConfirmationDoc (.invalidTransition "No Rate Confirmation is on file for this Load.")
  let _ ← DispatchTrackingService.validateSourceResources r carrierId dto
  Txn.insert .dispatchRecord (fun d => d.load.any (fun rows => rows.dispatchRecord.isSome))
    (.createDispatchRecord ⟨dto.driverName, dto.driverPhone, dto.truckNumber, dto.trailerNumber, dto.sourceDriverId,
      dto.sourceTruckId, dto.sourceTrailerId, q.actingUserId, q.now⟩)
    (.database "Unique constraint failed on the fields: (load_id)")
  updateLoad (.setStatus .dispatched)
  record q rows.load.id "Load Dispatched" none

/-- The four reads of the checklist, which only the answer shows. -/
def evaluateClosingChecklist : LifecycleTx Unit := do
  let _ ← Txn.read (rowsOf LoadRows.documents)
  let _ ← Txn.read (rowsOf LoadRows.invoiceIds)
  let _ ← Txn.read (rowsOf LoadRows.carrierPayments)
  let _ ← Txn.read (rowsOf LoadRows.chargeLineItems)
  pure ()

def closeLoad : LifecycleTx Unit := do
  let rows ← findLoad (fun status => status != .closed) (fun _ => .invalidTransition "This Load is already Closed.")
  evaluateClosingChecklist
  updateLoad (.close q)
  record q rows.load.id "Load Closed" none

def notifyCancelled (dispatcherId : Option Uuid) (message : String) : LifecycleTx Unit :=
  match dispatcherId with
  | none => pure ()
  | some dispatcher => do
    let existingNotification ← Txn.read (fun d => d.notified "LOAD_CANCELLED")
    if existingNotification then pure ()
    else Txn.write (.sourcing (.notify (dispatcher :: r.membersInRoles LoadService.adminVisibilityRoles).eraseDups
      "LOAD_CANCELLED" message))

def cancelLoad (dto : CancelLoadInput) : LifecycleTx Unit := do
  let rows ← findLoad (fun status => status ∈ LoadService.cancellableStatuses) (fun status => .invalidTransition
    (if status = .cancelled then "This Load has already been Cancelled."
    else "This Load can no longer be cancelled — it has already been dispatched or completed."))
  updateLoad (.cancel q)
  record q rows.load.id "Load Cancelled" dto.reason
  notifyCancelled r rows.load.assignedDispatcherId ("Load cancelled — " ++ rows.load.loadNumber ++ "\n" ++ dto.reason)

end LifecycleTx

namespace LifecycleRequest

variable (c : LifecycleRequest)

def transaction : LifecycleTx Unit :=
  match c.op with
  | .beginSourcing => LifecycleTx.beginSourcing c.q
  | .assignCarrier dto => LifecycleTx.assignCarrier c.reference c.q dto
  | .carrierRejected dto => LifecycleTx.carrierRejected c.reference c.q dto
  | .generateRateConfirmation => LifecycleTx.generateRateConfirmation c.reference c.q
  | .dispatch dto => LifecycleTx.dispatch c.reference c.q dto
  | .cancelLoad dto => LifecycleTx.cancelLoad c.reference c.q dto
  | .closeLoad => LifecycleTx.closeLoad c.q

def loadOp : LoadOp :=
  match c.op with
  | .beginSourcing => .beginSourcing
  | .assignCarrier dto => .assignCarrier dto
  | .carrierRejected dto => .carrierRejected dto
  | .generateRateConfirmation => .generateRateConfirmation {}
  | .dispatch dto => .dispatch dto
  | .cancelLoad dto => .cancelLoad dto
  | .closeLoad => .closeLoad

def call (d : SourcingDb) : Call := ⟨d.reference c.reference c.q, c.q, c.loadOp⟩

end LifecycleRequest

namespace LifecycleTx

variable {r : Reference} {q : Request} {d d' u : SourcingDb} {rows : LoadRows}

lemma findLoad_ok {accepts : LoadStatus → Bool} {refusal : LoadStatus → AppError} :
    (findLoad accepts refusal).run SourcingDb.writeLifecycle d = (.ok rows, u) ↔
      d.load = some rows ∧ accepts rows.load.status = true ∧ d = u := by
  simp only [findLoad, Txn.run_bind_ok, Txn.run_read, Prod.mk.injEq, Except.ok.injEq, LoadRows.found, Txn.run_lift,
    require_eq_ok, Txn.run_ensure, ensure_eq_ok, Txn.run_pure]
  constructor
  · rintro ⟨_, _, ⟨rfl, rfl⟩, _, _, ⟨hload, rfl⟩, _, _, ⟨haccepts, rfl⟩, rfl, rfl⟩
    exact ⟨hload, haccepts, rfl⟩
  · rintro ⟨hload, haccepts, rfl⟩
    exact ⟨_, d, ⟨rfl, rfl⟩, rows, d, ⟨hload, rfl⟩, (), d, ⟨haccepts, rfl⟩, rfl, rfl⟩

def Serves (c : LifecycleRequest) : Prop :=
  ∀ d d', c.transaction.run SourcingDb.writeLifecycle d = (.ok (), d') →
    ∃ rows rows', d.load = some rows ∧ d'.load = some rows' ∧ (c.call d).exec rows = .ok rows'

lemma serves_beginSourcing : Serves ⟨r, q, .beginSourcing⟩ := by
  intro d d' h
  obtain ⟨rows, u, hfound, hrest⟩ := Txn.run_bind_ok.mp h
  obtain ⟨hload, haccepts, rfl⟩ := findLoad_ok.mp hfound
  obtain ⟨_, rfl⟩ := Prod.mk.inj hrest
  have hstatus : rows.load.status = .booked := eq_of_beq haccepts
  refine ⟨rows, (rows.withStatus .carrierSourcing).recordLoad q "Load Entered Carrier Sourcing", hload, ?_, ?_⟩
  · change Option.map _ (Option.map _ d.load) = _
    rw [hload]
    rfl
  · change CarrierSourcingService.beginSourcing q (some rows) = _
    rw [CarrierSourcingService.beginSourcing, LoadRows.found_some, ok_bind, ensure_of hstatus]
    rfl

lemma run_embed_sourcing (p : SourcingTx Unit) (d : SourcingDb) :
    (ofSourcing p).run SourcingDb.writeLifecycle d = p.run SourcingDb.write d :=
  Txn.run_embed (fun _ _ => rfl)

lemma serves_assignCarrier (dto : AssignCarrierInput) : Serves ⟨r, q, .assignCarrier dto⟩ := by
  intro d d' h
  have hrun : (CarrierSourcingTx.assignCarrier r q dto).run SourcingDb.write d = (.ok (), d') :=
    (run_embed_sourcing _ d).symm.trans h
  have hcommit := CarrierSourcingTx.assignCarrier_commit r q dto d
  rw [Txn.commit, hrun] at hcommit
  cases hcall : CarrierSourcingService.assignCarrier (d.reference r q) q d.load dto with
  | error e =>
    rw [hcall] at hcommit
    cases hcommit
  | ok rows' =>
    rw [hcall] at hcommit
    obtain ⟨_, rfl⟩ := Prod.mk.inj hcommit
    cases hload : d.load with
    | none =>
      rw [hload] at hcall
      cases hcall
    | some rows =>
      rw [hload] at hcall
      exact ⟨rows, rows', rfl, rfl, hcall⟩

lemma run_rejectAttempt {attempt : Option CarrierSourcingAttempt} {reason : String} (hload : d.load = some rows) :
    ∃ u, (rejectAttempt attempt reason).run SourcingDb.writeLifecycle d = (.ok (), u) ∧
      u.load = some { rows with
        sourcingAttempts := rows.sourcingAttempts.map (fun a =>
          if some a.id = attempt.map CarrierSourcingAttempt.id then
            { a with outcome := .rejectedAfterAssignment, rejectionReason := some reason }
          else a) } := by
  cases attempt with
  | none =>
    refine ⟨d, rfl, ?_⟩
    simp [hload]
  | some attempt =>
    refine ⟨_, rfl, ?_⟩
    change Option.map _ d.load = _
    simp [hload, LoadRows.writeLifecycle, LoadRows.rejectAttempt]

lemma filter_deleted (p : ChargeLineItem → Bool) (charges : List ChargeLineItem) :
    charges.filter (fun c => c ∉ charges.filter p) = charges.filter (fun c => !p c) := by
  refine List.filter_congr (fun c hc => ?_)
  rw [Bool.eq_iff_iff]
  simp [hc]

lemma removeOriginalCarrierLinehaulCharge_load (o : RowOrder) :
    (CarrierSourcingService.removeOriginalCarrierLinehaulCharge r o rows).load = rows.load := by
  unfold CarrierSourcingService.removeOriginalCarrierLinehaulCharge
  split <;> rfl

lemma run_removeOriginalCarrierLinehaulCharge (hload : d.load = some rows) :
    ∃ u, (removeOriginalCarrierLinehaulCharge r q).run SourcingDb.writeLifecycle d = (.ok (), u) ∧
      u.load = some (CarrierSourcingService.removeOriginalCarrierLinehaulCharge r (q.order 1) rows) := by
  unfold removeOriginalCarrierLinehaulCharge CarrierSourcingService.removeOriginalCarrierLinehaulCharge
  cases r.findType (q.order 1) "LINEHAUL" r.chargeTypes with
  | none => exact ⟨d, rfl, hload⟩
  | some linehaulType =>
    refine ⟨_, rfl, ?_⟩
    change Option.map _ d.load = _
    simp only [hload, Option.map_some, LoadRows.writeLifecycle, rowsOf, Option.elim_some, filter_deleted]

lemma serves_carrierRejected (dto : CarrierRejectedInput) : Serves ⟨r, q, .carrierRejected dto⟩ := by
  intro d d' h
  obtain ⟨rows, u, hfound, hrest⟩ := Txn.run_bind_ok.mp h
  obtain ⟨hload, haccepts, rfl⟩ := findLoad_ok.mp hfound
  have hstatus : rows.load.status = .carrierAssigned := eq_of_beq haccepts
  simp only [Txn.run_bind_ok, Txn.run_read, Prod.mk.injEq, Except.ok.injEq] at hrest
  obtain ⟨_, _, ⟨rfl, rfl⟩, _, u, hreject, _, v, hunassign, _, w, hremove, hrecord⟩ := hrest
  obtain ⟨u', hreject', hattempts⟩ := run_rejectAttempt hload
  obtain ⟨_, rfl⟩ := Prod.mk.inj (hreject'.symm.trans hreject)
  obtain ⟨_, rfl⟩ := Prod.mk.inj hunassign
  have hunassigned : (SourcingDb.writeLifecycle .unassign u').load = some _ :=
    congrArg (Option.map LoadRows.unassign) hattempts
  obtain ⟨w', hremove', hremoved⟩ := run_removeOriginalCarrierLinehaulCharge hunassigned
  obtain ⟨_, rfl⟩ := Prod.mk.inj (hremove'.symm.trans hremove)
  obtain ⟨_, rfl⟩ := Prod.mk.inj hrecord
  refine ⟨rows, _, hload, congrArg (Option.map _) hremoved, ?_⟩
  change CarrierSourcingService.carrierRejected (d.reference r q) q (some rows) dto = _
  simp only [CarrierSourcingService.carrierRejected, LoadRows.found_some, ok_bind, ensure_of hstatus, rowsOf, hload,
    Option.elim_some]
  rw [LoadRows.recordLoad, removeOriginalCarrierLinehaulCharge_load]
  rfl

lemma serves_generateRateConfirmation : Serves ⟨r, q, .generateRateConfirmation⟩ := by
  intro d d' h
  obtain ⟨rows, u, hfound, hrest⟩ := Txn.run_bind_ok.mp h
  obtain ⟨hload, haccepts, rfl⟩ := findLoad_ok.mp hfound
  have hstatus : rows.load.status = .carrierAssigned := eq_of_beq haccepts
  simp only [Txn.run_bind_ok, Txn.run_ensure, Txn.run_require, Txn.run_write, Prod.mk.injEq, ensure_eq_ok, require_eq_ok,
    and_assoc, exists_and_left, exists_eq_left', exists_const] at hrest
  obtain ⟨hrate, carrierId, hcarrier, documentType, htype, -, _, _, hupdate, hrecord⟩ := hrest
  obtain ⟨_, rfl⟩ := Prod.mk.inj hupdate
  obtain ⟨_, rfl⟩ := Prod.mk.inj hrecord
  refine ⟨rows, _, hload, congrArg (Option.map _) (congrArg (Option.map _) (congrArg (Option.map _) hload)), ?_⟩
  change CarrierSourcingService.generateRateConfirmation (d.reference r q) q (some rows) {} = _
  have htype' : (d.reference r q).findType (q.order 0) "RATE_CONFIRMATION" (d.reference r q).documentTypes =
    some documentType := htype
  simp only [CarrierSourcingService.generateRateConfirmation, LoadRows.found_some, ok_bind, ensure_of hstatus,
    ensure_of hrate, hcarrier, htype', require, Option.elim_some]
  rfl

lemma serves_closeLoad : Serves ⟨r, q, .closeLoad⟩ := by
  intro d d' h
  obtain ⟨rows, u, hfound, hrest⟩ := Txn.run_bind_ok.mp h
  obtain ⟨hload, haccepts, rfl⟩ := findLoad_ok.mp hfound
  have hstatus : rows.load.status ≠ .closed := bne_iff_ne.mp haccepts
  obtain ⟨_, rfl⟩ := Prod.mk.inj hrest
  refine ⟨rows, _, hload, congrArg (Option.map _) (congrArg (Option.map _) hload), ?_⟩
  change Prod.fst <$> LoadService.closeLoad q (some rows) = _
  simp only [LoadService.closeLoad, LoadRows.found_some, ok_bind, ensure_of hstatus]
  rfl

lemma recalculate_ok {carrierId : Uuid} {result : Carriers.CarrierEligibilityService.EligibilityResult}
    (h : (ofSourcing (CarrierSourcingTx.recalculate q carrierId)).run SourcingDb.writeLifecycle d = (.ok result, u)) :
    u.load = d.load ∧ ((d.reference r q).eligibility carrierId).eligible = result.eligible := by
  have hrun : (CarrierSourcingTx.recalculate q carrierId).run SourcingDb.write d = (.ok result, u) :=
    (Txn.run_embed (fun _ _ => rfl)).symm.trans h
  cases hfound : d.carriers.findCarrier (q.order 13) carrierId with
  | none =>
    have hmissing := Carriers.CarrierEligibilityService.run_recalculate_missing hfound
    rw [CarrierSourcingTx.recalculate, Txn.run_embed CarrierSourcingTx.write_carriers] at hrun
    obtain ⟨hresult, _⟩ := Prod.mk.inj hrun
    cases (congrArg Prod.fst hmissing).symm.trans hresult
  | some c =>
    rw [CarrierSourcingTx.run_recalculate hfound] at hrun
    obtain ⟨hresult, rfl⟩ := Prod.mk.inj hrun
    obtain rfl := Except.ok.inj hresult
    refine ⟨rfl, ?_⟩
    simp only [SourcingDb.reference, hfound, Option.elim_some]

lemma serves_dispatch (dto : DispatchLoadInput) : Serves ⟨r, q, .dispatch dto⟩ := by
  intro d d' h
  obtain ⟨rows, u, hfound, hrest⟩ := Txn.run_bind_ok.mp h
  obtain ⟨hload, haccepts, rfl⟩ := findLoad_ok.mp hfound
  have hstatus : rows.load.status = .rateConfirmation := eq_of_beq haccepts
  simp only [Txn.run_bind_ok, Txn.run_ensure, Txn.run_require, Txn.run_read, Txn.run_lift, Txn.run_insert, Prod.mk.injEq,
    ensure_eq_ok, require_eq_ok, Except.ok.injEq, and_assoc, exists_and_left, exists_eq_left', exists_const] at hrest
  obtain ⟨hrate, carrierId, hcarrier, result, u, hrecalculate, heligible, document, hdocument, _, hresources, _, v,
    hinsert, _, w, hupdate, hrecord⟩ := hrest
  obtain ⟨hload', hresult⟩ := recalculate_ok (r := r) hrecalculate
  rw [rowsOf, hload', hload] at hdocument
  rw [hload', hload, Option.any_some] at hinsert
  have hfree : rows.dispatchRecord = none := by
    rw [← Option.not_isSome_iff_eq_none]
    intro hrecorded
    rw [if_pos hrecorded] at hinsert
    cases hinsert
  rw [hfree] at hinsert
  obtain ⟨_, rfl⟩ := Prod.mk.inj hinsert
  obtain ⟨_, rfl⟩ := Prod.mk.inj hupdate
  obtain ⟨_, rfl⟩ := Prod.mk.inj hrecord
  refine ⟨rows, _, hload,
    congrArg (Option.map _) (congrArg (Option.map _) (congrArg (Option.map _) (hload'.trans hload))), ?_⟩
  change DispatchTrackingService.dispatch (d.reference r q) q (some rows) dto = _
  have hresources' : DispatchTrackingService.validateSourceResources (d.reference r q) carrierId dto = .ok () :=
    hresources
  simp only [DispatchTrackingService.dispatch, LoadRows.found_some, ok_bind, ensure_of hstatus, ensure_of hrate,
    hcarrier, require, Option.elim_some, ensure_of (hresult.trans heligible)]
  rw [show findFirst (q.order 0) (fun d => d.isCurrentVersion && d.documentTypeCode == "RATE_CONFIRMATION")
    rows.documents = some document from hdocument, Option.elim_some, ok_bind, hresources', ok_bind, ensure_of hfree]
  rfl

lemma run_notifyCancelled {dispatcherId : Option Uuid} {message : String} (hload : d.load = some rows) :
    ∃ u, (notifyCancelled r dispatcherId message).run SourcingDb.writeLifecycle d = (.ok (), u) ∧
      u.load = some (match dispatcherId with
        | none => rows
        | some dispatcher => rows.notifyOnce (dispatcher :: r.membersInRoles LoadService.adminVisibilityRoles).eraseDups
            "LOAD_CANCELLED" message) := by
  cases dispatcherId with
  | none => exact ⟨d, rfl, hload⟩
  | some dispatcher =>
    simp only [notifyCancelled, Txn.run_bind, Txn.run_read, SourcingDb.notified, hload, Option.any_some,
      LoadRows.notified, LoadRows.notifyOnce]
    split
    · exact ⟨d, rfl, hload⟩
    · refine ⟨_, rfl, ?_⟩
      change Option.map _ d.load = _
      rw [hload]
      rfl

lemma serves_cancelLoad (dto : CancelLoadInput) : Serves ⟨r, q, .cancelLoad dto⟩ := by
  intro d d' h
  obtain ⟨rows, u, hfound, hrest⟩ := Txn.run_bind_ok.mp h
  obtain ⟨hload, haccepts, rfl⟩ := findLoad_ok.mp hfound
  have hstatus : rows.load.status ∈ LoadService.cancellableStatuses := of_decide_eq_true haccepts
  let event : AuditEvent := ⟨"Load Cancelled", "Load", rows.load.id, some q.actingUserId, .human, some dto.reason⟩
  have hcancelled : (SourcingDb.write (.record event) (SourcingDb.writeLifecycle (.cancel q) d)).load =
      some ((rows.cancel q).record event) := by
    change Option.map _ (Option.map _ d.load) = _
    rw [hload]
    rfl
  obtain ⟨u, hnotify, hnotified⟩ := run_notifyCancelled (r := r) hcancelled
  obtain ⟨_, rfl⟩ := Prod.mk.inj (hnotify.symm.trans hrest)
  refine ⟨rows, _, hload, hnotified, ?_⟩
  change LoadService.cancelLoad (d.reference r q) q (some rows) dto = _
  simp only [LoadService.cancelLoad, LoadRows.found_some, ok_bind, ensure_of hstatus]
  rfl

theorem serves (c : LifecycleRequest) : Serves c := by
  obtain ⟨r, q, op⟩ := c
  cases op with
  | beginSourcing => exact serves_beginSourcing
  | assignCarrier dto => exact serves_assignCarrier dto
  | carrierRejected dto => exact serves_carrierRejected dto
  | generateRateConfirmation => exact serves_generateRateConfirmation
  | dispatch dto => exact serves_dispatch dto
  | cancelLoad dto => exact serves_cancelLoad dto
  | closeLoad => exact serves_closeLoad

/-- A program that starts by reading the Load, and throws unless there is one that the test accepts. -/
def Gated (accepts : LoadStatus → Bool) (p : LifecycleTx Unit) : Prop :=
  ∃ next, p = .statement none (fun _ => []) next ∧
    ∀ d, (∃ e, next d = .throw e) ∨ ∃ rows, d.load = some rows ∧ accepts rows.load.status = true

lemma gated_findLoad (accepts : LoadStatus → Bool) (refusal : LoadStatus → AppError)
    (f : LoadRows → LifecycleTx Unit) : Gated accepts (findLoad accepts refusal >>= f) := by
  refine ⟨fun d => (do
    let rows ← LoadRows.found d.load
    Txn.ensure (accepts rows.load.status = true) (refusal rows.load.status)
    pure rows) >>= f, rfl, fun d => ?_⟩
  dsimp only
  cases hload : d.load with
  | none => exact Or.inl ⟨.notFound "Load not found.", rfl⟩
  | some rows =>
    by_cases haccepts : accepts rows.load.status = true
    · exact Or.inr ⟨rows, rfl, haccepts⟩
    · refine Or.inl ⟨refusal rows.load.status, ?_⟩
      rw [LoadRows.found_some, Txn.lift_ok_bind, Txn.ensure_not haccepts]
      rfl

lemma gated (c : LifecycleRequest) : Gated c.op.accepts c.transaction := by
  obtain ⟨r, q, op⟩ := c
  cases op with
  | assignCarrier dto =>
    refine ⟨_, rfl, fun d => ?_⟩
    dsimp only [Txn.bind]
    change (∃ e, Txn.embed _ _ _ ((liftM (LoadRows.found d.load) : SourcingTx LoadRows) >>= _) = _) ∨ _
    cases hload : d.load with
    | none => exact Or.inl ⟨.notFound "Load not found.", rfl⟩
    | some rows =>
      by_cases hstatus : rows.load.status = .carrierSourcing
      · exact Or.inr ⟨rows, rfl, beq_iff_eq.mpr hstatus⟩
      · refine Or.inl ⟨.invalidTransition
          "A carrier can only be assigned to a load that is currently in Carrier Sourcing.", ?_⟩
        rw [LoadRows.found_some, Txn.lift_ok_bind, Txn.ensure_not hstatus]
        rfl
  | beginSourcing => exact gated_findLoad _ _ _
  | carrierRejected dto => exact gated_findLoad _ _ _
  | generateRateConfirmation => exact gated_findLoad _ _ _
  | dispatch dto => exact gated_findLoad _ _ _
  | cancelLoad dto => exact gated_findLoad _ _ _
  | closeLoad => exact gated_findLoad _ _ _

end LifecycleTx

end Truckmaster.QuoteLoad
