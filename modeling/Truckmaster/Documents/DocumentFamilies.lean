import Truckmaster.Documents.MalwareScan
import Truckmaster.QuoteLoad.Entities

namespace Truckmaster.Documents

open Common Fallible Tables QuoteLoad

inductive DocumentReviewStatus
  | notApplicable | pendingReview | approved | rejected | expired
  deriving DecidableEq, Repr

inductive MimeType
  | pdf | jpeg | png
  deriving DecidableEq, Repr

structure DocumentVersion extends Document where
  documentFamilyId : Uuid
  documentTypeId : Uuid
  customTypeLabel : Option String := none
  fileSizeBytes : ℕ
  mimeType : MimeType
  versionNumber : ℕ := 1
  isCurrentVersion : Bool := true
  reviewStatus : Option DocumentReviewStatus := none
  reviewedByUserId : Option Uuid := none
  reviewedAt : Option Instant := none
  rejectionReason : Option String := none
  expirationDate : Option Instant := none
  uploadedAt : Instant
  deriving DecidableEq, Repr

structure DocumentTypeDefinition extends TypeDefinition where
  requiresReview : Bool := false
  deriving DecidableEq, Repr

structure RelatedNotification extends DocumentNotification where
  relatedEntityId : Uuid
  deriving DecidableEq, Repr

structure DocumentStore where
  documents : Table (fun v : DocumentVersion => v.id)
  notifications : List RelatedNotification := []
  audit : List AuditEvent := []

/-- The acting user's roles and what the service reads of other tables. -/
structure DocumentContext where
  organizationId : Uuid
  roles : List MembershipRoleName
  documentTypes : List DocumentTypeDefinition
  entityExists : DocumentEntityType → Uuid → Bool := fun _ _ => false
  stopType : Uuid → Option StopType := fun _ => none
  stopAt : Uuid → ℤ → Option Uuid := fun _ _ => none
  inLoadDraft : Uuid → Bool := fun _ => false
  inInsurance : Uuid → Bool := fun _ => false
  adminUserIds : List Uuid := []

structure UploadInput where
  fileName : String
  mimeType : MimeType
  fileSizeBytes : ℕ
  existingDocumentFamilyId : Option Uuid := none
  filled : 1 ≤ fileName.length ∧ 1 ≤ fileSizeBytes := by decide

structure CreateDocumentInput extends UploadInput where
  entityType : DocumentEntityType
  entityId : Uuid
  documentTypeId : Uuid
  customTypeLabel : Option String := none
  expirationDate : Option Instant := none

inductive ReviewDecision
  | approved
  | rejected (reason : String) (filled : 1 ≤ reason.length)

namespace DocumentStore

def find (s : DocumentStore) (o : RowOrder) (id : Uuid) : Option DocumentVersion :=
  findFirst o (fun v => v.id == id) s.documents.rows

def currentVersion (s : DocumentStore) (o : RowOrder) (family : Uuid) : Option DocumentVersion :=
  findFirst o (fun v => v.documentFamilyId == family && v.isCurrentVersion) s.documents.rows

def updateDocument (s : DocumentStore) (id : Uuid) (f : DocumentVersion → DocumentVersion)
    (hf : ∀ v, (f v).id = v.id) : DocumentStore := { s with documents := s.documents.update id f hf }

def record (s : DocumentStore) (action : String) (entityType : DocumentEntityType) (entityId : Uuid)
    (actorUserId : Option Uuid) (actorType : ActorType) : DocumentStore :=
  { s with audit := s.audit ++ [⟨action, entityType.text, entityId, actorUserId, actorType, none⟩] }

def notifyOnce (s : DocumentStore) (adminUserIds : List Uuid) (document : DocumentVersion) (type message : String) :
    DocumentStore :=
  if s.notifications.any (fun n => n.type == type && n.relatedEntityId == document.id) then s
  else
    let recipients := (document.uploadedByUserId :: adminUserIds).dedup
    { s with notifications := s.notifications ++ recipients.map (fun u => ⟨⟨u, type, message⟩, document.id⟩) }

end DocumentStore

namespace DocumentService

def carrierDocumentUploadRoles : List MembershipRoleName := [.admin, .operationsManager, .dispatcher]

def podUploadRoles : List MembershipRoleName := [.admin, .operationsManager, .dispatcher, .accounting]

def rateConfirmationIntakeUploadRoles : List MembershipRoleName :=
  [.admin, .operationsManager, .dispatcher, .salesBooking]

def supportedEntityTypes : List DocumentEntityType :=
  [.carrier, .customer, .driver, .truck, .trailer, .stop, .load, .rateConfirmationIntake]

def requiredStopType : String → Option StopType
  | "POD" => some .delivery
  | "POP" => some .pickup
  | _ => none

def includesRole (allowed roles : List MembershipRoleName) : Bool := allowed.any (fun r => roles.contains r)

def assertUploadPermission (roles : List MembershipRoleName) : DocumentEntityType → Except AppError Unit
  | .carrier => ensure (includesRole carrierDocumentUploadRoles roles)
    (.permission "Uploading carrier documents requires Admin, Operations Manager, or Dispatcher.")
  | .stop => ensure (includesRole podUploadRoles roles)
    (.permission "Uploading a POD document requires Admin, Operations Manager, Dispatcher, or Accounting.")
  | .load => ensure (includesRole podUploadRoles roles)
    (.permission "Uploading a Load document requires Admin, Operations Manager, Dispatcher, or Accounting.")
  | .rateConfirmationIntake => ensure (includesRole rateConfirmationIntakeUploadRoles roles) (.permission
    "Uploading a Rate Confirmation for extraction requires Admin, Operations Manager, Dispatcher, or Sales/Booking.")
  | _ => pure ()

def assertEntityExists (x : DocumentContext) (entityType : DocumentEntityType) (entityId : Uuid) :
    Except AppError Unit := do
  ensure (entityType ∈ supportedEntityTypes)
    (.businessRule ("Document upload against entity type " ++ entityType.text ++ " is not yet supported."))
  ensure (entityType = .rateConfirmationIntake ∨ x.entityExists entityType entityId)
    (.notFound (entityType.text ++ " not found."))

def inOrganization (x : DocumentContext) (t : DocumentTypeDefinition) : Bool :=
  t.organizationId == some x.organizationId || t.organizationId.isNone

def assertStopUpload (x : DocumentContext) (code : String) (stopId : Uuid) : Except AppError Unit := do
  let required ← require (requiredStopType code)
    (.businessRule "Only POD or POP documents can be uploaded against a Stop.")
  ensure (x.stopType stopId = some required) (.businessRule
    (if required = .delivery then "POD documents can only be uploaded against a delivery Stop."
    else "POP documents can only be uploaded against a pickup Stop."))

def checkUpload (x : DocumentContext) (q : Request) (dto : CreateDocumentInput) :
    Except AppError DocumentTypeDefinition := do
  assertUploadPermission x.roles dto.entityType
  assertEntityExists x dto.entityType dto.entityId
  let documentType ← require
    (findFirst (q.order 0) (fun t => t.id == dto.documentTypeId && inOrganization x t) x.documentTypes)
    (.notFound "Document type not found.")
  if dto.entityType = .stop then assertStopUpload x documentType.code dto.entityId
  pure documentType

def superseded (v : DocumentVersion) : DocumentVersion := { v with isCurrentVersion := false }

def supersede (q : Request) (s : DocumentStore) : Option Uuid → Except AppError (DocumentStore × Uuid × ℕ)
  | none => pure (s, q.uuid 1, 1)
  | some family => do
    let current ← require (s.currentVersion (q.order 1) family) (.notFound "Document family not found.")
    pure (s.updateDocument current.id superseded (fun _ => rfl), family, current.versionNumber + 1)

def uploaded (x : DocumentContext) (q : Request) (dto : CreateDocumentInput) (documentType : DocumentTypeDefinition)
    (family : Uuid) (versionNumber : ℕ) : DocumentVersion :=
  { id := q.uuid 0
    organizationId := x.organizationId
    entityType := dto.entityType
    entityId := dto.entityId
    fileStorageKey := .documents x.organizationId (q.uuid 0)
    fileName := dto.fileName
    uploadedByUserId := q.actingUserId
    documentFamilyId := family
    documentTypeId := dto.documentTypeId
    customTypeLabel := dto.customTypeLabel
    fileSizeBytes := dto.fileSizeBytes
    mimeType := dto.mimeType
    versionNumber
    reviewStatus := some (if documentType.requiresReview then .pendingReview else .notApplicable)
    expirationDate := dto.expirationDate.map dateOf
    uploadedAt := q.now }

def uploadAction (dto : CreateDocumentInput) (code : String) : String :=
  if dto.entityType = .stop ∧ (code = "POD" ∨ code = "POP") then
    if dto.existingDocumentFamilyId.isSome then code ++ " Document Version Added" else code ++ " Uploaded"
  else "Document Uploaded"

def initiateUpload (x : DocumentContext) (q : Request) (s : DocumentStore) (dto : CreateDocumentInput) :
    Except AppError DocumentStore := do
  let documentType ← checkUpload x q dto
  let (superseded, family, versionNumber) ← supersede q s dto.existingDocumentFamilyId
  let documents ← require (superseded.documents.insert (uploaded x q dto documentType family versionNumber))
    (.database "Unique constraint failed on the fields: (id)")
  pure ({ superseded with documents }.record (uploadAction dto documentType.code) dto.entityType dto.entityId
    (some q.actingUserId) .human)

/-- The upload that a POD or POP upload against a stop of a Load stands for. -/
def stopUpload (code : String) (x : DocumentContext) (q : Request) (loadId : Uuid) (sequence : ℤ) (dto : UploadInput) :
    Except AppError CreateDocumentInput := do
  let stopId ← require (x.stopAt loadId sequence) (.notFound "Stop not found.")
  let documentType ← require
    (findFirst (q.order 2) (fun t => t.code == code && inOrganization x t) x.documentTypes)
    (.notFound (code ++ " document type is not configured."))
  pure { dto with entityType := .stop, entityId := stopId, documentTypeId := documentType.id }

def initiatePodUpload (x : DocumentContext) (q : Request) (s : DocumentStore) (loadId : Uuid) (sequence : ℤ)
    (dto : UploadInput) : Except AppError DocumentStore := do
  initiateUpload x q s (← stopUpload "POD" x q loadId sequence dto)

def initiatePopUpload (x : DocumentContext) (q : Request) (s : DocumentStore) (loadId : Uuid) (sequence : ℤ)
    (dto : UploadInput) : Except AppError DocumentStore := do
  initiateUpload x q s (← stopUpload "POP" x q loadId sequence dto)

def decided (q : Request) : ReviewDecision → DocumentVersion → DocumentVersion
  | .approved, v =>
    { v with
      reviewStatus := some .approved, reviewedByUserId := some q.actingUserId, reviewedAt := some q.now
      rejectionReason := none }
  | .rejected reason _, v =>
    { v with
      reviewStatus := some .rejected, reviewedByUserId := some q.actingUserId, reviewedAt := some q.now
      rejectionReason := some reason }

lemma decided_id (q : Request) (decision : ReviewDecision) (v : DocumentVersion) :
    (decided q decision v).id = v.id := by
  cases decision <;> rfl

/-- The Document goes back with the store: a carrier's eligibility is recalculated next. -/
def review (x : DocumentContext) (q : Request) (s : DocumentStore) (documentId : Uuid) (decision : ReviewDecision) :
    Except AppError (DocumentStore × DocumentVersion) := do
  let document ← require (s.find (q.order 0) documentId) (.notFound "Document not found.")
  let documentType := findFirst (q.order 1) (fun t => t.id == document.documentTypeId) x.documentTypes
  ensure (documentType.any DocumentTypeDefinition.requiresReview)
    (.businessRule "This document type does not require review.")
  ensure (document.reviewStatus = some .pendingReview) (.businessRule "This document is not pending review.")
  ensure (document.uploadedByUserId ≠ q.actingUserId) ⟨.selfReviewForbidden,
    "You cannot approve a document you uploaded. Another Compliance reviewer must approve it.", []⟩
  let updated := s.updateDocument documentId (decided q decision) (decided_id q decision)
  match decision with
  | .approved =>
    pure (updated.record "Compliance Document Approved" document.entityType document.entityId (some q.actingUserId)
      .human, document)
  | .rejected reason _ =>
    pure ((updated.record "Compliance Document Rejected" document.entityType document.entityId (some q.actingUserId)
      .human).notifyOnce x.adminUserIds document "COMPLIANCE_DOCUMENT_REJECTED"
        ("Document rejected — " ++ document.fileName ++ "\n" ++ reason), document)

def scanned (q : Request) (result : MalwareScanResult) (v : DocumentVersion) : DocumentVersion :=
  { v with
    scanStatus := result.status.documentStatus
    scannedAt := some q.now
    scanProvider := some result.provider
    fileStorageKey := if result.status = .clean then v.fileStorageKey else v.quarantineKey }

lemma scanned_document (q : Request) (result : MalwareScanResult) {s : ScanState} {v : DocumentVersion}
    (h : s.document = v.toDocument) :
    (s.scanned result (scanned q result v).fileStorageKey q.now).document = (scanned q result v).toDocument := by
  simp only [ScanState.scanned, ScanState.notifyQuarantined, scanned]
  split_ifs <;> simp [ScanState.record, h]

/-- The Document goes back with the store: the POD status of a stop's Load is recalculated next. -/
def applyScanResult (x : DocumentContext) (q : Request) (s : DocumentStore) (documentId : Uuid)
    (result : MalwareScanResult) : DocumentStore × Option DocumentVersion :=
  match s.find (q.order 0) documentId with
  | none => (s, none)
  | some document =>
    let recorded := (s.updateDocument documentId (scanned q result) (fun _ => rfl)).record
      (ScanState.actionByStatus result.status) document.entityType document.entityId none .system
    (if result.status = .clean then recorded
      else recorded.notifyOnce x.adminUserIds document "DOCUMENT_SCAN_QUARANTINED"
        ("Document quarantined — " ++ document.fileName), some document)

def deleteDocumentFamily (x : DocumentContext) (q : Request) (s : DocumentStore) (documentId : Uuid) :
    Except AppError DocumentStore := do
  ensure (includesRole podUploadRoles x.roles)
    (.permission "Deleting a document requires Admin, Operations Manager, Dispatcher, or Accounting.")
  let document ← require (s.find (q.order 0) documentId) (.notFound "Document not found.")
  let versions := findMany (q.order 1) (fun v => v.documentFamilyId == document.documentFamilyId) s.documents.rows
  ensure (∀ v ∈ versions, x.inLoadDraft v.id = false) (.businessRule
    "Cannot delete document because it is associated with a Load Draft. Delete the Load Draft first, then try again.")
  ensure (∀ v ∈ versions, x.inInsurance v.id = false)
    (.businessRule "Cannot delete document because it is referenced by a Carrier Insurance record.")
  let documents := s.documents.filter (fun v => v.documentFamilyId != document.documentFamilyId)
  pure ({ s with documents }.record "Document Family Deleted" document.entityType document.entityId
    (some q.actingUserId) .human)

end DocumentService

end Truckmaster.Documents
