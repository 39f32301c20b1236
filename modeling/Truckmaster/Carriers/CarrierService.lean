import Truckmaster.Carriers.Records
import Truckmaster.QuoteLoad.Booking

namespace Truckmaster.Carriers

open Common Documents Fallible Tables Transactions
open QuoteLoad (SubscriptionStatus)

structure CreateCarrierInput where
  mcNumber : String
  dotNumber : String
  filled : 1 ≤ mcNumber.length ∧ 1 ≤ dotNumber.length := by decide

structure AddCarrierInsuranceInput where
  coverageType : InsuranceCoverageType
  effectiveDate : Instant
  expirationDate : Instant
  coiDocumentId : Uuid

structure AddFmcsaVerificationInput where
  verificationDate : Instant
  resultStatus : String
  filled : 1 ≤ resultStatus.length := by decide

structure AddDriverInput where
  licenseNumber : Option String := none

/-- A licence number may be missing, null or a text. Of the other fields only matters whether one of them has a new
value. -/
structure UpdateDriverInput where
  licenseNumber : Option (Option String) := none
  changesOthers : Bool := false

structure CarrierLifecycleReasonInput where
  reason : String
  filled : 1 ≤ reason.length := by decide

namespace EntitlementService

def resolveEffectiveStatus (org : OrganizationSubscription) (now : Instant) : SubscriptionStatus :=
  match org.subscriptionStatus with
  | .cancelled => .cancelled
  | .expired => .expired
  | .trial => if org.trialEndsAt.any (fun ends => decide (ends ≤ now)) then .expired else .trial
  | .active => .active

lemma resolveEffectiveStatus_reference {r : QuoteLoad.Reference} {org : OrganizationSubscription}
    (hstatus : r.subscriptionStatus = org.subscriptionStatus) (htrial : r.trialEndsAt = org.trialEndsAt)
    (now : Instant) :
    QuoteLoad.EntitlementService.resolveEffectiveStatus r now = resolveEffectiveStatus org now := by
  rw [QuoteLoad.EntitlementService.resolveEffectiveStatus, hstatus, htrial]
  rfl

def assertNotExpired (org : OrganizationSubscription) (now : Instant) (action : String) : Except AppError Unit :=
  ensure (resolveEffectiveStatus org now ≠ .expired)
    (.businessRule ("Your trial has expired. Convert to a paid subscription to " ++ action ++ "."))

def readOrganizationSubscription : CarrierTx OrganizationSubscription := Txn.read (fun d => d.organization)

def lockOrganizationRow : CarrierTx OrganizationSubscription := Txn.readLocked .organization (fun d => d.organization)

def limitReached (resource : String) (max : ℕ) : AppError :=
  .businessRule ("This organization has reached its " ++ resource ++ " limit (" ++ toString max ++ ").")

def assertCountWithinLimit (limit : OrganizationSubscription → Option ℕ) (count : CarrierDb → ℕ) (resource : String)
    (quick : OrganizationSubscription) : CarrierTx Unit :=
  match limit quick with
  | none => pure ()
  | some _ => do
    let locked ← lockOrganizationRow
    match limit locked with
    | none => pure ()
    | some max => do
      let n ← Txn.read count
      Txn.ensure (n < max) (limitReached resource max)

def assertCarrierCountWithinLimit : OrganizationSubscription → CarrierTx Unit :=
  assertCountWithinLimit OrganizationSubscription.maxCarriers CarrierDb.carrierCount "carrier"

def assertDriverCountWithinLimit : OrganizationSubscription → CarrierTx Unit :=
  assertCountWithinLimit OrganizationSubscription.maxDrivers CarrierDb.driverCount "driver"

def assertCanCreateCarrier (now : Instant) : CarrierTx Unit := do
  let quick ← readOrganizationSubscription
  assertNotExpired quick now "add more carriers"
  assertCarrierCountWithinLimit quick

def assertCarrierSlotAvailable : CarrierTx Unit := do
  assertCarrierCountWithinLimit (← readOrganizationSubscription)

def assertCanCreateDriver (now : Instant) : CarrierTx Unit := do
  let quick ← readOrganizationSubscription
  assertNotExpired quick now "add more drivers"
  assertDriverCountWithinLimit quick

def assertDriverSlotAvailable : CarrierTx Unit := do
  assertDriverCountWithinLimit (← readOrganizationSubscription)

end EntitlementService

namespace CarrierEligibilityService

structure EligibilityResult where
  eligible : Bool
  reasons : List String
  deriving DecidableEq, Repr

def requiredComplianceCodes : List String := ["CARRIER_AGREEMENT", "W9", "MC_AUTHORITY"]

def labelFor : String → String
  | "CARRIER_AGREEMENT" => "Notice of Assignment"
  | "W9" => "W9"
  | _ => "MC Authority"

def isAcceptableFmcsaResult (resultStatus : String) : Bool :=
  (trim resultStatus).toList.flatMap QuoteLoad.RateAgreementMatchingService.toLowerCase == "authorized".toList

def codeOf (documentTypes : List DocumentTypeDefinition) (v : DocumentVersion) : Option String :=
  (documentTypes.find? (fun t => t.id == v.documentTypeId)).map (fun t => t.code)

def isComplianceDocument (documentTypes : List DocumentTypeDefinition) (carrierId : Uuid) (v : DocumentVersion) :
    Bool :=
  v.entityType == .carrier && v.entityId == carrierId && v.isCurrentVersion &&
    (codeOf documentTypes v).any (fun code => requiredComplianceCodes.contains code)

def byUploadedAtDesc (a b : DocumentVersion) : Prop := b.uploadedAt ≤ a.uploadedAt

instance : DecidableRel byUploadedAtDesc := fun a b => inferInstanceAs (Decidable (b.uploadedAt ≤ a.uploadedAt))

def isApproved (documentTypes : List DocumentTypeDefinition) (docs : List DocumentVersion) (code : String) : Bool :=
  (docs.find? (fun v => codeOf documentTypes v == some code)).any (fun v => v.reviewStatus == some .approved)

def documentReasons (documentTypes : List DocumentTypeDefinition) (docs : List DocumentVersion) : List String :=
  (requiredComplianceCodes.filter (fun code => !isApproved documentTypes docs code)).map
    (fun code => labelFor code ++ " is not approved")

def isCovered (now : Instant) (documents : List DocumentVersion) (records : List CarrierInsurance)
    (coverageType : InsuranceCoverageType) : Bool :=
  records.any (fun record => record.coverageType == coverageType && decide (now ≤ record.expirationDate) &&
    documents.any (fun v => v.id == record.coiDocumentId && v.reviewStatus == some .approved))

def coverageText : InsuranceCoverageType → String
  | .autoLiability => "Auto Liability"
  | .cargo => "Cargo"

def insuranceReasons (now : Instant) (documents : List DocumentVersion) (records : List CarrierInsurance) :
    List String :=
  ([.autoLiability, .cargo].filter (fun coverageType => !isCovered now documents records coverageType)).map
    (fun coverageType => coverageText coverageType ++ " insurance is expired or not approved")

def byVerificationDateDesc (a b : CarrierFmcsaVerification) : Prop := b.verificationDate ≤ a.verificationDate

instance : DecidableRel byVerificationDateDesc :=
  fun a b => inferInstanceAs (Decidable (b.verificationDate ≤ a.verificationDate))

def fmcsaReasons (latestFmcsa : Option CarrierFmcsaVerification) : List String :=
  if latestFmcsa.any (fun v => isAcceptableFmcsaResult v.resultStatus) then []
  else ["FMCSA/SAFER verification is missing or not acceptable"]

def computeComplianceReasons (q : Request) (carrierId : Uuid) : CarrierTx (List String) := do
  let documents ← Txn.read fun d => documentReasons d.documentTypes
    (findManyBy (q.order 10) (isComplianceDocument d.documentTypes carrierId) byUploadedAtDesc d.documents.rows)
  let insurance ← Txn.read fun d => insuranceReasons q.now d.documents.rows
    (findMany (q.order 11) (fun r => r.carrierId == carrierId) d.insuranceRecords)
  let fmcsa ← Txn.read fun d => fmcsaReasons
    (findFirstBy (q.order 12) (fun v => v.carrierId == carrierId) byVerificationDateDesc d.fmcsaVerifications)
  pure (documents ++ insurance ++ fmcsa)

def checkActivationReadiness (q : Request) (carrierId : Uuid) : CarrierTx EligibilityResult := do
  let reasons ← computeComplianceReasons q carrierId
  pure ⟨reasons.isEmpty, reasons⟩

def statusReasons (status : CarrierStatus) : List String :=
  (if status = .blocked then ["Carrier is Blocked"] else []) ++
    if status ≠ .active then ["Carrier status is not Active"] else []

def recordChange (carrierId : Uuid) (wasEligible eligible : Bool) : CarrierTx Unit :=
  if eligible ≠ wasEligible then
    Txn.write (.record ⟨"Assignment Eligibility Changed", "Carrier", carrierId, none, .system, none⟩)
  else pure ()

def recalculate (q : Request) (carrierId : Uuid) : CarrierTx EligibilityResult := do
  let found ← Txn.read (CarrierDb.findCarrier (q.order 13) carrierId)
  let carrier ← Txn.require found (.database "No Carrier found")
  let compliance ← computeComplianceReasons q carrierId
  let reasons := statusReasons carrier.status ++ compliance
  Txn.update (.carrier carrierId) (.setEligibility carrierId reasons.isEmpty reasons)
  recordChange carrierId carrier.assignmentEligible reasons.isEmpty
  pure ⟨reasons.isEmpty, reasons⟩

end CarrierEligibilityService

namespace CarrierService

def record (q : Request) (action entityType : String) (entityId : Uuid) (reason : Option String) : CarrierTx Unit :=
  Txn.write (.record ⟨action, entityType, entityId, some q.actingUserId, .human, reason⟩)

def uniqueFailed (fields : String) : AppError :=
  .database ("Unique constraint failed on the fields: (" ++ fields ++ ")")

def refuseDuplicate (q : Request) : Option Carrier → CarrierTx Unit
  | none => pure ()
  | some duplicate => do
    record q "Carrier Creation Blocked — Duplicate MC/DOT" "Carrier" duplicate.id none
    Txn.throw ⟨.conflict, "A carrier with this MC number or DOT number already exists.", [toString duplicate.id]⟩

def create (q : Request) (dto : CreateCarrierInput) : CarrierTx Unit := do
  let duplicate ← Txn.read fun d => findFirst (q.order 0)
    (fun c => c.mcNumber == dto.mcNumber || c.dotNumber == dto.dotNumber) d.carriers.rows
  refuseDuplicate q duplicate
  EntitlementService.assertCanCreateCarrier q.now
  Txn.claim (.carrier (q.uuid 0)) (fun d => d.carriers.rows.any (fun c => c.id == q.uuid 0)) (uniqueFailed "id")
  Txn.claim (.mcNumber dto.mcNumber) (fun d => d.carriers.rows.any (fun c => c.mcNumber == dto.mcNumber))
    (uniqueFailed "organizationId, mcNumber")
  Txn.claim (.dotNumber dto.dotNumber) (fun d => d.carriers.rows.any (fun c => c.dotNumber == dto.dotNumber))
    (uniqueFailed "organizationId, dotNumber")
  Txn.write (.insertCarrier { id := q.uuid 0, mcNumber := dto.mcNumber, dotNumber := dto.dotNumber })
  record q "Carrier Created" "Carrier" (q.uuid 0) none

def requireCarrier (o : RowOrder) (carrierId : Uuid) : CarrierTx Carrier := do
  let found ← Txn.read (CarrierDb.findCarrier o carrierId)
  Txn.require found (.notFound "Carrier not found.")

def addInsurance (q : Request) (carrierId : Uuid) (dto : AddCarrierInsuranceInput) : CarrierTx Unit := do
  let _ ← requireCarrier (q.order 0) carrierId
  Txn.ensure (dto.effectiveDate < dto.expirationDate)
    (.businessRule "Expiration date must be after the effective date.")
  let coiDocument ← Txn.read fun d => findFirst (q.order 1)
    (fun v => v.id == dto.coiDocumentId && v.entityType == .carrier && v.entityId == carrierId) d.documents.rows
  let _ ← Txn.require coiDocument (.notFound "COI document not found for this carrier.")
  Txn.write (.insertInsurance
    { id := q.uuid 0, carrierId, coverageType := dto.coverageType, coiDocumentId := dto.coiDocumentId
      effectiveDate := dateOf dto.effectiveDate, expirationDate := dateOf dto.expirationDate })
  record q "Carrier Insurance Added/Updated" "Carrier" carrierId none
  let _ ← CarrierEligibilityService.recalculate q carrierId

def addFmcsaVerification (q : Request) (carrierId : Uuid) (dto : AddFmcsaVerificationInput) : CarrierTx Unit := do
  let _ ← requireCarrier (q.order 0) carrierId
  Txn.write (.insertFmcsa ⟨q.uuid 0, carrierId, dateOf dto.verificationDate, dto.resultStatus⟩)
  record q "FMCSA Verification Recorded" "Carrier" carrierId none
  let _ ← CarrierEligibilityService.recalculate q carrierId

def assertNoDuplicateLicense (o : RowOrder) (carrierId : Uuid) (licenseNumber : String) (exclude : Option Uuid) :
    CarrierTx Unit :=
  if trim licenseNumber = "" then pure () else do
    let duplicate ← Txn.read fun d => findFirst o (fun v => v.carrierId == carrierId &&
      v.licenseNumber == some (trim licenseNumber) && v.active && exclude != some v.id) d.drivers.rows
    match duplicate with
    | none => pure ()
    | some driver =>
      Txn.throw ⟨.conflict, "A driver with this license number already exists for this carrier.", [toString driver.id]⟩

/-- The check is made for a licence number that is there and not empty. -/
def assertNoDuplicate (o : RowOrder) (carrierId : Uuid) (exclude : Option Uuid) : Option String → CarrierTx Unit
  | none => pure ()
  | some licenseNumber =>
    if licenseNumber = "" then pure () else assertNoDuplicateLicense o carrierId licenseNumber exclude

def addDriver (q : Request) (carrierId : Uuid) (dto : AddDriverInput) : CarrierTx Unit := do
  let _ ← requireCarrier (q.order 0) carrierId
  assertNoDuplicate (q.order 1) carrierId none dto.licenseNumber
  EntitlementService.assertCanCreateDriver q.now
  Txn.claim (.driver (q.uuid 0)) (fun d => d.drivers.rows.any (fun v => v.id == q.uuid 0)) (uniqueFailed "id")
  Txn.write (.insertDriver { id := q.uuid 0, carrierId, licenseNumber := dto.licenseNumber })
  record q "Driver Added" "Carrier" carrierId none

def updateDriver (q : Request) (carrierId driverId : Uuid) (dto : UpdateDriverInput) : CarrierTx Unit := do
  let found ← Txn.read (CarrierDb.findDriver (q.order 0) carrierId driverId)
  let existing ← Txn.require found (.notFound "Driver not found.")
  assertNoDuplicate (q.order 1) carrierId (some driverId) dto.licenseNumber.join
  Txn.update (.driver driverId) (.setLicense driverId dto.licenseNumber)
  if dto.licenseNumber.any (fun new => existing.licenseNumber != new) || dto.changesOthers then
    record q "Driver Updated" "Driver" driverId none

def trimmedReason (dto : CarrierLifecycleReasonInput) : Except AppError String := do
  ensure (trim dto.reason ≠ "") (.businessRule "A reason is required.")
  pure (trim dto.reason)

def transitionDriverActive (q : Request) (carrierId driverId : Uuid) (toActive : Bool)
    (action invalidTransitionMessage : String) (dto : CarrierLifecycleReasonInput) : CarrierTx Unit := do
  let found ← Txn.read (CarrierDb.findDriver (q.order 0) carrierId driverId)
  let driver ← Txn.require found (.notFound "Driver not found.")
  Txn.ensure (driver.active = !toActive) (.businessRule invalidTransitionMessage)
  let reason ← trimmedReason dto
  assertNoDuplicate (q.order 1) carrierId (some driverId) (if toActive then driver.licenseNumber else none)
  Txn.update (.driver driverId) (.setDriverActive driverId toActive)
  record q action "Driver" driverId (some reason)

def deactivateDriver (q : Request) (carrierId driverId : Uuid) (dto : CarrierLifecycleReasonInput) : CarrierTx Unit :=
  transitionDriverActive q carrierId driverId false "Driver Deactivated" "Only an active driver can be deactivated." dto

def reactivateDriver (q : Request) (carrierId driverId : Uuid) (dto : CarrierLifecycleReasonInput) :
    CarrierTx Unit := do
  EntitlementService.assertDriverSlotAvailable
  transitionDriverActive q carrierId driverId true "Driver Reactivated" "Only an inactive driver can be reactivated."
    dto

def activate (q : Request) (carrierId : Uuid) : CarrierTx Unit := do
  let carrier ← requireCarrier (q.order 0) carrierId
  Txn.ensure (carrier.status = .pending) (.businessRule "Only a Pending carrier can be activated.")
  let readiness ← CarrierEligibilityService.checkActivationReadiness q carrierId
  Txn.ensure readiness.eligible
    (.eligibility "Cannot activate — one or more requirements are not met." readiness.reasons)
  EntitlementService.assertCarrierSlotAvailable
  Txn.update (.carrier carrierId) (.setStatus carrierId .active)
  record q "Carrier Activated" "Carrier" carrierId none
  let _ ← CarrierEligibilityService.recalculate q carrierId

def transitionStatus (q : Request) (carrierId : Uuid) (allowedFrom : List CarrierStatus) (toStatus : CarrierStatus)
    (action invalidTransitionMessage : String) (dto : CarrierLifecycleReasonInput) : CarrierTx Unit := do
  let carrier ← requireCarrier (q.order 0) carrierId
  Txn.ensure (carrier.status ∈ allowedFrom) (.businessRule invalidTransitionMessage)
  let reason ← trimmedReason dto
  Txn.update (.carrier carrierId) (.setStatus carrierId toStatus)
  record q action "Carrier" carrierId (some reason)

def blockCarrier (q : Request) (carrierId : Uuid) (dto : CarrierLifecycleReasonInput) : CarrierTx Unit := do
  transitionStatus q carrierId [.active] .blocked "Carrier Blocked" "Only an Active carrier can be blocked." dto
  let _ ← CarrierEligibilityService.recalculate q carrierId

def deactivateCarrier (q : Request) (carrierId : Uuid) (dto : CarrierLifecycleReasonInput) : CarrierTx Unit := do
  transitionStatus q carrierId [.active] .inactive "Carrier Deactivated" "Only an Active carrier can be deactivated."
    dto
  let _ ← CarrierEligibilityService.recalculate q carrierId

def reactivateCarrier (q : Request) (carrierId : Uuid) (dto : CarrierLifecycleReasonInput) : CarrierTx Unit := do
  EntitlementService.assertCarrierSlotAvailable
  transitionStatus q carrierId [.blocked, .inactive] .active "Carrier Reactivated"
    "Only a Blocked or Inactive carrier can be reactivated." dto
  let _ ← CarrierEligibilityService.recalculate q carrierId

end CarrierService

namespace Sample

def request (n : ℕ) : Request where
  now := n
  uuid i := 100 * n + i
  order _ := .stored
  actingUserId := n

def documentTypes : List DocumentTypeDefinition :=
  [⟨⟨1, none, "CARRIER_AGREEMENT"⟩, true⟩, ⟨⟨2, none, "W9"⟩, true⟩, ⟨⟨3, none, "MC_AUTHORITY"⟩, true⟩,
    ⟨⟨4, none, "COI"⟩, true⟩]

def approvedDocument (documentTypeId : Uuid) : DocumentVersion :=
  { id := 10 + documentTypeId, organizationId := 1, entityType := .carrier, entityId := 5
    fileStorageKey := .documents 1 (10 + documentTypeId), fileName := "document.pdf", scanStatus := .clean
    uploadedByUserId := 0, documentFamilyId := 20 + documentTypeId, documentTypeId, fileSizeBytes := 1, mimeType := .pdf
    reviewStatus := some .approved, uploadedAt := 0 }

def compliant : CarrierDb where
  documents := ⟨[1, 2, 3, 4].map approvedDocument, by decide⟩
  documentTypes := documentTypes
  carriers := ⟨[{ id := 5, mcNumber := "MC-5", dotNumber := "DOT-5" }], by decide⟩
  insuranceRecords := [⟨30, 5, .autoLiability, 0, 86400000000, 14⟩, ⟨31, 5, .cargo, 0, 86400000000, 14⟩]
  fmcsaVerifications := [⟨40, 5, 0, " Authorized "⟩]

end Sample

end Truckmaster.Carriers
