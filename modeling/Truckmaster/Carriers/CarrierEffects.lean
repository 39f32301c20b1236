import Truckmaster.Carriers.CarrierService

namespace Truckmaster.Carriers

open Common Documents Fallible Tables Transactions CarrierEligibilityService

structure Routine (A : CarrierWrite → Prop) (carrierId : Uuid) : Prop where
  eligibility : ∀ eligible reasons, A (.setEligibility carrierId eligible reasons)
  record : ∀ event, A (.record event)

section Writes

variable {A : CarrierWrite → Prop} {carrierId : Uuid}

lemma writes_computeComplianceReasons (q : Request) (carrierId : Uuid) :
    (CarrierEligibilityService.computeComplianceReasons q carrierId).Writes A :=
  .bind (.read _) (fun _ => .bind (.read _) (fun _ => .bind (.read _) (fun _ => .pure _)))

lemma writes_checkActivationReadiness (q : Request) (carrierId : Uuid) :
    (CarrierEligibilityService.checkActivationReadiness q carrierId).Writes A :=
  .bind (writes_computeComplianceReasons q carrierId) (fun _ => .pure _)

lemma writes_requireCarrier (o : RowOrder) (carrierId : Uuid) : (CarrierService.requireCarrier o carrierId).Writes A :=
  .bind (.read _) (fun _ => .require _ _)

lemma writes_recalculate (hA : Routine A carrierId) (q : Request) :
    (CarrierEligibilityService.recalculate q carrierId).Writes A := by
  refine .bind (.read _) (fun _ => .bind (.require _ _) (fun carrier => ?_))
  refine .bind (writes_computeComplianceReasons q carrierId) (fun _ => ?_)
  refine .bind (.update (hA.eligibility ..)) (fun _ => .bind ?_ (fun _ => .pure _))
  unfold CarrierEligibilityService.recordChange
  split
  · exact .write (hA.record _)
  · exact .pure _

lemma writes_record (hrecord : ∀ event, A (.record event)) (q : Request) (action entityType : String) (entityId : Uuid)
    (reason : Option String) :
    (CarrierService.record q action entityType entityId reason).Writes A := .write (hrecord _)

lemma writes_transitionStatus (hA : Routine A carrierId) {toStatus : CarrierStatus}
    (hstatus : A (.setStatus carrierId toStatus)) (q : Request) (allowedFrom : List CarrierStatus)
    (action message : String) (dto : CarrierLifecycleReasonInput) :
    (CarrierService.transitionStatus q carrierId allowedFrom toStatus action message dto).Writes A :=
  .bind (writes_requireCarrier _ _) (fun _ => .bind (.ensure _ _) (fun _ => .bind (.lift _) (fun _ =>
    .bind (.update hstatus) (fun _ => writes_record hA.record _ _ _ _ _))))

lemma writes_assertNoDuplicateLicense (o : RowOrder) (carrierId : Uuid) (licenseNumber : String)
    (exclude : Option Uuid) :
    (CarrierService.assertNoDuplicateLicense o carrierId licenseNumber exclude).Writes A := by
  unfold CarrierService.assertNoDuplicateLicense
  split
  · exact .pure _
  · refine .bind (.read _) (fun duplicate => ?_)
    cases duplicate <;> trivial

lemma writes_assertNoDuplicate (o : RowOrder) (carrierId : Uuid) (exclude : Option Uuid)
    (licenseNumber : Option String) :
    (CarrierService.assertNoDuplicate o carrierId exclude licenseNumber).Writes A := by
  cases licenseNumber with
  | none => exact .pure _
  | some licenseNumber =>
    change Txn.Writes A (if licenseNumber = "" then pure () else _)
    split
    · exact .pure _
    · exact writes_assertNoDuplicateLicense o carrierId licenseNumber exclude

lemma writes_transitionDriverActive (hrecord : ∀ event, A (.record event)) {toActive : Bool}
    (hactive : ∀ id, A (.setDriverActive id toActive)) (q : Request) (driverId : Uuid) (action message : String)
    (dto : CarrierLifecycleReasonInput) :
    (CarrierService.transitionDriverActive q carrierId driverId toActive action message dto).Writes A :=
  .bind (.read _) (fun _ => .bind (.require _ _) (fun _ => .bind (.ensure _ _) (fun _ => .bind (.lift _) (fun _ =>
    .bind (writes_assertNoDuplicate _ _ _ _) (fun _ => .bind (.update (hactive _)) (fun _ =>
      writes_record hrecord _ _ _ _ _))))))

lemma writes_assertCountWithinLimit (limit : OrganizationSubscription → Option ℕ) (count : CarrierDb → ℕ)
    (resource : String) (quick : OrganizationSubscription) :
    (EntitlementService.assertCountWithinLimit limit count resource quick).Writes A := by
  unfold EntitlementService.assertCountWithinLimit
  split
  · exact .pure _
  · refine .bind (.readLocked _ _) (fun locked => ?_)
    split
    · exact .pure _
    · exact .bind (.read _) (fun _ => .ensure _ _)

lemma writes_assertCanCreateCarrier (now : Instant) : (EntitlementService.assertCanCreateCarrier now).Writes A :=
  .bind (.read _) (fun _ => .bind (.lift _) (fun _ => writes_assertCountWithinLimit ..))

lemma writes_assertCanCreateDriver (now : Instant) : (EntitlementService.assertCanCreateDriver now).Writes A :=
  .bind (.read _) (fun _ => .bind (.lift _) (fun _ => writes_assertCountWithinLimit ..))

lemma writes_assertCarrierSlotAvailable : EntitlementService.assertCarrierSlotAvailable.Writes A :=
  .bind (.read _) (fun _ => writes_assertCountWithinLimit ..)

lemma writes_assertDriverSlotAvailable : EntitlementService.assertDriverSlotAvailable.Writes A :=
  .bind (.read _) (fun _ => writes_assertCountWithinLimit ..)

lemma writes_refuseDuplicate (hrecord : ∀ event, A (.record event)) (q : Request) (duplicate : Option Carrier) :
    (CarrierService.refuseDuplicate q duplicate).Writes A := by
  cases duplicate with
  | none => exact .pure _
  | some duplicate => exact .bind (writes_record hrecord _ _ _ _ _) (fun _ => trivial)

lemma writes_create (hrecord : ∀ event, A (.record event)) (hinsert : ∀ carrier, A (.insertCarrier carrier))
    (q : Request) (dto : CreateCarrierInput) : (CarrierService.create q dto).Writes A := by
  refine .bind (.read _) (fun _ => .bind (writes_refuseDuplicate hrecord q _) (fun _ => ?_))
  refine .bind (writes_assertCanCreateCarrier q.now) (fun _ => ?_)
  refine .bind (.claim _ _ _) (fun _ => .bind (.claim _ _ _) (fun _ => .bind (.claim _ _ _) (fun _ => ?_)))
  exact .bind (.write (hinsert _)) (fun _ => writes_record hrecord _ _ _ _ _)

lemma writes_activate (hA : Routine A carrierId) (hstatus : A (.setStatus carrierId .active)) (q : Request) :
    (CarrierService.activate q carrierId).Writes A := by
  refine .bind (writes_requireCarrier _ _) (fun _ => .bind (.ensure _ _) (fun _ => ?_))
  refine .bind (writes_checkActivationReadiness q carrierId) (fun _ => .bind (.ensure _ _) (fun _ => ?_))
  refine .bind writes_assertCarrierSlotAvailable (fun _ => ?_)
  refine .bind (.update hstatus) (fun _ => .bind (writes_record hA.record _ _ _ _ _) (fun _ => ?_))
  exact .bind (writes_recalculate hA q) (fun _ => .pure _)

lemma writes_blockCarrier (hA : Routine A carrierId) (hstatus : A (.setStatus carrierId .blocked)) (q : Request)
    (dto : CarrierLifecycleReasonInput) : (CarrierService.blockCarrier q carrierId dto).Writes A :=
  .bind (writes_transitionStatus hA hstatus _ _ _ _ _) (fun _ =>
    .bind (writes_recalculate hA q) (fun _ => .pure _))

lemma writes_deactivateCarrier (hA : Routine A carrierId) (hstatus : A (.setStatus carrierId .inactive)) (q : Request)
    (dto : CarrierLifecycleReasonInput) :
    (CarrierService.deactivateCarrier q carrierId dto).Writes A :=
  .bind (writes_transitionStatus hA hstatus _ _ _ _ _) (fun _ =>
    .bind (writes_recalculate hA q) (fun _ => .pure _))

lemma writes_reactivateCarrier (hA : Routine A carrierId) (hstatus : A (.setStatus carrierId .active)) (q : Request)
    (dto : CarrierLifecycleReasonInput) :
    (CarrierService.reactivateCarrier q carrierId dto).Writes A := by
  refine .bind writes_assertCarrierSlotAvailable (fun _ => ?_)
  exact .bind (writes_transitionStatus hA hstatus _ _ _ _ _) (fun _ =>
    .bind (writes_recalculate hA q) (fun _ => .pure _))

lemma writes_addDriver (hrecord : ∀ event, A (.record event)) (hinsert : ∀ driver, A (.insertDriver driver))
    (q : Request) (dto : AddDriverInput) : (CarrierService.addDriver q carrierId dto).Writes A := by
  refine .bind (writes_requireCarrier _ _) (fun _ => .bind (writes_assertNoDuplicate _ _ _ _) (fun _ => ?_))
  refine .bind (writes_assertCanCreateDriver q.now) (fun _ => ?_)
  exact .bind (.claim _ _ _) (fun _ => .bind (.write (hinsert _)) (fun _ => writes_record hrecord _ _ _ _ _))

lemma writes_reactivateDriver (hrecord : ∀ event, A (.record event)) (hactive : ∀ id, A (.setDriverActive id true))
    (q : Request) (driverId : Uuid) (dto : CarrierLifecycleReasonInput) :
    (CarrierService.reactivateDriver q carrierId driverId dto).Writes A :=
  .bind writes_assertDriverSlotAvailable (fun _ =>
    writes_transitionDriverActive hrecord hactive _ _ _ _ _)

end Writes

namespace CarrierEligibilityService

def complianceReasons (q : Request) (d : CarrierDb) (carrierId : Uuid) : List String :=
  documentReasons d.documentTypes
      (findManyBy (q.order 10) (isComplianceDocument d.documentTypes carrierId) byUploadedAtDesc d.documents.rows) ++
    insuranceReasons q.now d.documents.rows
      (findMany (q.order 11) (fun r => r.carrierId == carrierId) d.insuranceRecords) ++
    fmcsaReasons
      (findFirstBy (q.order 12) (fun v => v.carrierId == carrierId) byVerificationDateDesc d.fmcsaVerifications)

def ineligibilityReasons (q : Request) (d : CarrierDb) (c : Carrier) : List String :=
  statusReasons c.status ++ complianceReasons q d c.id

def changeEvents (carrierId : Uuid) (wasEligible eligible : Bool) : List AuditEvent :=
  if eligible ≠ wasEligible then [⟨"Assignment Eligibility Changed", "Carrier", carrierId, none, .system, none⟩]
  else []

def recalculated (q : Request) (d : CarrierDb) (c : Carrier) : CarrierDb :=
  let reasons := ineligibilityReasons q d c
  { d.write (.setEligibility c.id reasons.isEmpty reasons) with
    audit := d.audit ++ changeEvents c.id c.assignmentEligible reasons.isEmpty }

variable {d : CarrierDb} {q : Request} {carrierId : Uuid}

lemma run_computeComplianceReasons :
    (computeComplianceReasons q carrierId).run CarrierDb.write d = (.ok (complianceReasons q d carrierId), d) := rfl

lemma run_recordChange (wasEligible eligible : Bool) :
    (recordChange carrierId wasEligible eligible).run CarrierDb.write d =
      (.ok (), { d with audit := d.audit ++ changeEvents carrierId wasEligible eligible }) := by
  unfold recordChange changeEvents
  split
  · rfl
  · rw [List.append_nil]
    rfl

lemma run_recalculate_missing (hfound : d.findCarrier (q.order 13) carrierId = none) :
    (recalculate q carrierId).run CarrierDb.write d = (.error (.database "No Carrier found"), d) := by
  simp only [recalculate, Txn.run_bind, Txn.run_read, Txn.run_require, hfound, require, Option.elim_none]

lemma run_recalculate {c : Carrier} (hfound : d.findCarrier (q.order 13) carrierId = some c) :
    (recalculate q carrierId).run CarrierDb.write d =
      (.ok ⟨(ineligibilityReasons q d c).isEmpty, ineligibilityReasons q d c⟩, recalculated q d c) := by
  obtain rfl := beq_iff_eq.mp (findFirst_some hfound).2
  simp only [recalculate, Txn.run_bind, Txn.run_read, Txn.run_require, hfound, require, Option.elim_some,
    run_computeComplianceReasons, Txn.run_update, run_recordChange]
  rfl

end CarrierEligibilityService

namespace CarrierWrite

def KeepsCount : CarrierWrite → Prop
  | .insertCarrier _ => False
  | .setStatus _ _ => False
  | _ => True

end CarrierWrite

section Counts

variable {d t : CarrierDb} {q : Request} {carrierId : Uuid} {dto : CarrierLifecycleReasonInput}

lemma carrierCount_write {w : CarrierWrite} (hw : w.KeepsCount) : (d.write w).carrierCount = d.carrierCount := by
  cases w with
  | insertCarrier carrier => exact hw.elim
  | setStatus id status => exact hw.elim
  | setEligibility id eligible reasons =>
    exact d.carriers.countP_update_same id (.withEligibility eligible reasons) (fun _ => rfl)
      CarrierDb.countsTowardLimit (fun _ => rfl)
  | _ => rfl

lemma run_keepsCount {α : Type} {p : CarrierTx α} {x : Except AppError α} (hp : p.Writes CarrierWrite.KeepsCount)
    (h : p.run CarrierDb.write d = (x, t)) : t.carrierCount = d.carrierCount := by
  have hcount := hp.run CarrierDb.write (P := fun u => u.carrierCount = d.carrierCount)
    (fun w u hw hu => (carrierCount_write hw).trans hu) rfl
  rwa [h] at hcount

lemma routine_keepsCount (carrierId : Uuid) : Routine CarrierWrite.KeepsCount carrierId :=
  ⟨fun _ _ => trivial, fun _ => trivial⟩

lemma requireCarrier_ok {o : RowOrder} {carrier : Carrier}
    (h : (CarrierService.requireCarrier o carrierId).run CarrierDb.write d = (.ok carrier, t)) :
    carrier ∈ d.carriers.rows ∧ carrier.id = carrierId ∧ t = d := by
  simp only [CarrierService.requireCarrier, Txn.run_bind_ok, Txn.run_read, Txn.run_require, Prod.mk.injEq,
    Except.ok.injEq, require_eq_ok] at h
  obtain ⟨_, _, ⟨rfl, rfl⟩, hfound, rfl⟩ := h
  obtain ⟨hmem, hid⟩ := findFirst_some hfound
  exact ⟨hmem, beq_iff_eq.mp hid, rfl⟩

def duplicateEvent (q : Request) (duplicate : Carrier) : AuditEvent :=
  ⟨"Carrier Creation Blocked — Duplicate MC/DOT", "Carrier", duplicate.id, some q.actingUserId, .human, none⟩

lemma create_duplicate {dto : CreateCarrierInput} {c : Carrier}
    (hfound : findFirst (q.order 0) (fun c => c.mcNumber == dto.mcNumber || c.dotNumber == dto.dotNumber)
      d.carriers.rows = some c) :
    ∃ e, (CarrierService.create q dto).run CarrierDb.write d = (.error e, d.write (.record (duplicateEvent q c))) := by
  refine ⟨⟨.conflict, "A carrier with this MC number or DOT number already exists.", [toString c.id]⟩, ?_⟩
  simp only [CarrierService.create, Txn.run_bind, Txn.run_read, hfound, CarrierService.refuseDuplicate,
    CarrierService.record, Txn.run_write, Txn.run_throw, duplicateEvent]

lemma setStatus_count {carrier : Carrier} (status : CarrierStatus) (hmem : carrier ∈ d.carriers.rows) :
    (d.write (.setStatus carrier.id status)).carrierCount + (if CarrierDb.countsTowardLimit carrier then 1 else 0) =
      d.carrierCount + (if CarrierDb.countsTowardLimit (carrier.withStatus status) then 1 else 0) :=
  d.carriers.countP_update hmem (.withStatus status) (fun _ => rfl) CarrierDb.countsTowardLimit

end Counts

end Truckmaster.Carriers
