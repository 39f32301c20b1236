import Truckmaster.Common.Requests
import Truckmaster.Library.Fallible

/-! One uploaded Document, its stored object, and the malware-scan jobs queued for it. -/

namespace Truckmaster.Documents

open Common Fallible

inductive DocumentEntityType
  | load | stop | customer | carrier | driver | truck | trailer | invoice | carrierPayment
  | rateConfirmationIntake
  deriving DecidableEq, Repr

def DocumentEntityType.text : DocumentEntityType → String
  | .load => "LOAD"
  | .stop => "STOP"
  | .customer => "CUSTOMER"
  | .carrier => "CARRIER"
  | .driver => "DRIVER"
  | .truck => "TRUCK"
  | .trailer => "TRAILER"
  | .invoice => "INVOICE"
  | .carrierPayment => "CARRIER_PAYMENT"
  | .rateConfirmationIntake => "RATE_CONFIRMATION_INTAKE"

inductive DocumentScanStatus
  | pending | clean | infected | scanFailed
  deriving DecidableEq, Repr

def DocumentScanStatus.text : DocumentScanStatus → String
  | .pending => "PENDING"
  | .clean => "CLEAN"
  | .infected => "INFECTED"
  | .scanFailed => "SCAN_FAILED"

inductive StorageKey
  | documents (organizationId documentId : Uuid)
  | quarantine (organizationId documentId : Uuid)
  deriving DecidableEq, Repr

structure Document where
  id : Uuid
  organizationId : Uuid
  entityType : DocumentEntityType
  entityId : Uuid
  fileStorageKey : StorageKey
  fileName : String
  scanStatus : DocumentScanStatus := .pending
  scannedAt : Option Instant := none
  scanProvider : Option String := none
  uploadedByUserId : Uuid
  deriving DecidableEq, Repr

inductive MalwareScanStatus
  | clean | infected | scanFailed
  deriving DecidableEq, Repr

def MalwareScanStatus.documentStatus : MalwareScanStatus → DocumentScanStatus
  | .clean => .clean
  | .infected => .infected
  | .scanFailed => .scanFailed

structure MalwareScanResult where
  status : MalwareScanStatus
  provider : String
  deriving DecidableEq, Repr

structure ExtractionJob where
  extractionId : Uuid
  documentId : Uuid
  organizationId : Uuid
  storageKey : StorageKey
  deriving DecidableEq, Repr

structure DocumentNotification where
  recipientUserId : Uuid
  type : String
  message : String
  deriving DecidableEq, Repr

def isDocumentConsumable (scanStatus : DocumentScanStatus) : Bool :=
  scanStatus == .clean || scanStatus == .scanFailed

def getDownloadUrl (document : Document) : Except AppError StorageKey := do
  ensure (isDocumentConsumable document.scanStatus) (.businessRule
    ("This document is not available for download (scan status: " ++ document.scanStatus.text ++ ")."))
  pure document.fileStorageKey

lemma getDownloadUrl_refused {document : Document} (h : isDocumentConsumable document.scanStatus = false) :
    ∀ key, getDownloadUrl document ≠ .ok key := by
  intro key hok
  simp only [getDownloadUrl, bind_eq_ok, ensure_eq_ok, h] at hok
  simp at hok

/-- Which call of `applyScanResult` a job is in, and so what its failure leads to. -/
inductive ApplyCall
  | tried | caught | bypassed
  deriving DecidableEq, Repr

/-- What `applyScanResult` does next; `key` is the storage key it will write. -/
inductive ApplyStage
  | find
  | copy (fromKey : StorageKey)
  | delete (fromKey : StorageKey)
  | extract (key : StorageKey)
  | commit (key : StorageKey)
  deriving DecidableEq, Repr

inductive JobPhase
  | waiting
  | scanning (fetched : Bool)
  | applying (result : MalwareScanResult) (call : ApplyCall) (stage : ApplyStage)
  | completed
  | failed
  deriving DecidableEq, Repr

structure ScanJob where
  storageKey : StorageKey
  attemptsMade : ℕ := 0
  phase : JobPhase := .waiting
  deriving DecidableEq, Repr

structure Confirmation where
  actingUserId : Uuid
  storageKey : StorageKey
  deriving DecidableEq, Repr

structure ScanState where
  document : Document
  objects : StorageKey → Bool
  adminUserIds : List Uuid
  /-- The confirmations that have read the row and not yet reached the queue. -/
  confirming : List Confirmation := []
  jobs : List ScanJob := []
  extractionJobs : List ExtractionJob := []
  notifications : List DocumentNotification := []
  audit : List AuditEvent := []

inductive Answer
  | verdict (result : MalwareScanResult)
  | done
  | error (message : String)
  deriving DecidableEq

inductive ScanEvent
  | putObject
  | confirmUpload (actingUserId : Uuid)
  | addScanJob (confirmation : ℕ)
  | start (job : ℕ) (malwareScanEnabled : Bool)
  | advance (job : ℕ) (answer : Answer) (now : Instant)
  deriving DecidableEq

def maxAttempts : ℕ := 3

def bypassProvider : String := "bypass: malware scanning disabled by configuration"

namespace Document

def documentKey (document : Document) : StorageKey := .documents document.organizationId document.id

def quarantineKey (document : Document) : StorageKey := .quarantine document.organizationId document.id

end Document

namespace ScanJob

def rethrow (job : ScanJob) : ScanJob :=
  { job with
    attemptsMade := job.attemptsMade + 1
    phase := if maxAttempts ≤ job.attemptsMade + 1 then .failed else .waiting }

def catchError (job : ScanJob) (message : String) : ScanJob :=
  if maxAttempts ≤ job.attemptsMade + 1 then
    { job with phase := .applying ⟨.scanFailed, "error: " ++ message⟩ .caught .find }
  else job.rethrow

def applyFailed (job : ScanJob) (message : String) : ApplyCall → ScanJob
  | .tried => job.catchError message
  | .caught => job.rethrow
  | .bypassed => job.rethrow

def resume (job : ScanJob) (result : MalwareScanResult) (call : ApplyCall) (stage : ApplyStage) : ScanJob :=
  { job with phase := .applying result call stage }

end ScanJob

namespace ScanState

def record (s : ScanState) (action : String) (actorUserId : Option Uuid) (actorType : ActorType) : ScanState :=
  { s with audit := s.audit ++
      [⟨action, s.document.entityType.text, s.document.entityId, actorUserId, actorType, none⟩] }

def actionByStatus : MalwareScanStatus → String
  | .clean => "Document Scan Completed — Clean"
  | .infected => "Document Scan Completed — Infected (Quarantined)"
  | .scanFailed => "Document Scan Failed (Quarantined)"

def notifyQuarantined (s : ScanState) : ScanState :=
  if s.notifications.any (fun n => n.type == "DOCUMENT_SCAN_QUARANTINED") then s
  else { s with notifications := s.notifications ++
    (s.document.uploadedByUserId :: s.adminUserIds).dedup.map (fun userId =>
      ⟨userId, "DOCUMENT_SCAN_QUARANTINED", "Document quarantined — " ++ s.document.fileName⟩) }

def scanned (s : ScanState) (result : MalwareScanResult) (key : StorageKey) (now : Instant) : ScanState :=
  let document : Document :=
    { s.document with
      scanStatus := result.status.documentStatus, scannedAt := some now
      scanProvider := some result.provider, fileStorageKey := key }
  let recorded := { s with document }.record (actionByStatus result.status) none .system
  if result.status = .clean then recorded else recorded.notifyQuarantined

def enqueueExtraction (s : ScanState) (result : MalwareScanResult) (key : StorageKey) : ScanState :=
  if s.document.entityType = .rateConfirmationIntake ∧ isDocumentConsumable result.status.documentStatus then
    { s with extractionJobs := s.extractionJobs ++
        [⟨s.document.entityId, s.document.id, s.document.organizationId, key⟩] }
  else s

def setObject (s : ScanState) (key : StorageKey) (present : Bool) : ScanState :=
  { s with objects := Function.update s.objects key present }

def setJob (s : ScanState) (n : ℕ) (job : ScanJob) : ScanState := { s with jobs := s.jobs.set n job }

/-- `copiesOntoItself` says whether the storage lets an object be copied onto its own key. -/
def answered (copiesOntoItself : Bool) (s : ScanState) (job : ScanJob) (now : Instant) :
    Answer → Option (ScanState × ScanJob)
  | .verdict result =>
    match job.phase with
    | .scanning true => some (s, job.resume result .tried .find)
    | _ => none
  | .error message =>
    match job.phase with
    | .scanning _ => some (s, job.catchError message)
    | .applying _ call _ => some (s, job.applyFailed message call)
    | _ => none
  | .done =>
    match job.phase with
    | .applying result call stage =>
      match stage with
      | .find =>
        let key := s.document.fileStorageKey
        some (s, job.resume result call (if result.status = .clean then .extract key else .copy key))
      | .copy key =>
        if s.objects key ∧ (key ≠ s.document.quarantineKey ∨ copiesOntoItself) then
          some (s.setObject s.document.quarantineKey true, job.resume result call (.delete key))
        else none
      | .delete key => some (s.setObject key false, job.resume result call (.extract s.document.quarantineKey))
      | .extract key => some (s.enqueueExtraction result key, job.resume result call (.commit key))
      | .commit key => some (s.scanned result key now, { job with phase := .completed })
    | _ => none

def confirmUpload (s : ScanState) (actingUserId : Uuid) : Except AppError ScanState := do
  ensure (s.document.scanStatus = .pending) (.businessRule "This document has already been confirmed.")
  pure { s with confirming := s.confirming ++ [⟨actingUserId, s.document.fileStorageKey⟩] }

def started (s : ScanState) (job : ScanJob) (malwareScanEnabled : Bool) : ScanJob :=
  if malwareScanEnabled then { job with phase := .scanning (s.objects job.storageKey) }
  else job.resume ⟨.clean, bypassProvider⟩ .bypassed .find

def step (copiesOntoItself : Bool) (s : ScanState) : ScanEvent → Option ScanState
  | .putObject => some (s.setObject s.document.documentKey true)
  | .confirmUpload actingUserId => (s.confirmUpload actingUserId).toOption
  | .addScanJob n => do
    let confirmation ← s.confirming[n]?
    let queued : ScanState :=
      { s with
        confirming := s.confirming.eraseIdx n
        jobs := s.jobs ++ [{ storageKey := confirmation.storageKey }] }
    some (queued.record "Document Upload Confirmed — Scan Queued" (some confirmation.actingUserId) .human)
  | .start n malwareScanEnabled => do
    let job ← s.jobs[n]?
    if job.phase = .waiting then some (s.setJob n (s.started job malwareScanEnabled)) else none
  | .advance n answer now => do
    let job ← s.jobs[n]?
    let (next, job) ← s.answered copiesOntoItself job now answer
    some (next.setJob n job)

end ScanState

end Truckmaster.Documents
