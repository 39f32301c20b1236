import Truckmaster.Documents.MalwareScan
import Truckmaster.Library.ExpiringKeys
import Truckmaster.Library.JobQueues
import Truckmaster.Library.Runs
import Truckmaster.RateConfirmationExtraction.LocalRateConfirmationExtractor

/-! The records of the extractions in Redis, and who reads and writes them: the uploads, the retries, and the attempts of
the worker at its jobs, command by command. -/

namespace Truckmaster.RateConfirmationExtraction

open Common Documents ExpiringKeys Fallible JobQueues

inductive ExtractionStatus
  | notStarted | pending | complete | failed
  deriving DecidableEq, Repr

structure ExtractionJobRecord where
  extractionId : Uuid
  documentId : Uuid
  organizationId : Uuid
  extractionStatus : ExtractionStatus := .notStarted
  extractionError : Option String := none
  data : Option ExtractedRateConfirmationData := none
  deriving DecidableEq, Repr

/-- The writes of the worker, which start from the record that it has read. -/
inductive Mark
  | inProgress
  | complete (data : ExtractedRateConfirmationData)
  | failed (error : String)
  deriving DecidableEq, Repr

abbrev Records := Keys (Uuid × Uuid) ExtractionJobRecord

namespace RateConfirmationExtractionJobStore

/-- `EXTRACTION_JOB_REDIS_TTL_SECONDS`, in milliseconds. -/
def ttl : ℤ := 60 * 60 * 1000

def get (records : Records) (now : Instant) (organizationId extractionId : Uuid) : Option ExtractionJobRecord :=
  (Keys.get records now (organizationId, extractionId)).filter (fun record => record.organizationId == organizationId)

def write (records : Records) (now : Instant) (organizationId extractionId : Uuid) (record : ExtractionJobRecord) : Records :=
  records.set (organizationId, extractionId) record (now + ttl)

def created (organizationId extractionId documentId : Uuid) : ExtractionJobRecord :=
  { extractionId, documentId, organizationId }

def markInProgress (existing : ExtractionJobRecord) : ExtractionJobRecord :=
  { existing with extractionStatus := .pending, extractionError := none }

def markComplete (data : ExtractedRateConfirmationData) (existing : ExtractionJobRecord) : ExtractionJobRecord :=
  { existing with extractionStatus := .complete, extractionError := none, data := some data }

def markFailed (error : String) (existing : ExtractionJobRecord) : ExtractionJobRecord :=
  { existing with extractionStatus := .failed, extractionError := some error, data := none }

def resetForRetry (existing : ExtractionJobRecord) : ExtractionJobRecord :=
  { existing with extractionStatus := .pending, extractionError := none, data := none }

end RateConfirmationExtractionJobStore

open RateConfirmationExtractionJobStore in
def Mark.apply : Mark → ExtractionJobRecord → ExtractionJobRecord
  | .inProgress => markInProgress
  | .complete data => markComplete data
  | .failed error => markFailed error

/-- Where an attempt of the worker stands. `caught` says that it is in the handler of an error that it threw. -/
inductive AttemptPhase
  | reading (mark : Mark) (caught : Bool)
  | writing (mark : Mark) (caught : Bool) (existing : ExtractionJobRecord)
  | extracting
  | returning
  deriving DecidableEq, Repr

structure Attempt where
  jobId : ℕ
  job : ExtractionJob
  attemptsMade : ℕ
  phase : AttemptPhase := .reading .inProgress false
  deriving DecidableEq, Repr

inductive RetryPhase
  | found (record : ExtractionJobRecord)
  | reading (job : ExtractionJob)
  | writing (job : ExtractionJob) (existing : ExtractionJobRecord)
  | adding (job : ExtractionJob)
  deriving DecidableEq, Repr

def RetryPhase.adds : RetryPhase → Bool
  | .adding _ => true
  | _ => false

structure RetryRequest where
  organizationId : Uuid
  extractionId : Uuid
  phase : RetryPhase
  deriving DecidableEq, Repr

/-- `lock` holds the attempt that a job is locked by, which another one may have taken over; `passed` remembers the
documents that a scan has found consumable. -/
structure ExtractionState where
  now : Instant
  records : Records := .empty
  documents : Uuid → Option Document := fun _ => none
  passed : Uuid → Bool := fun _ => false
  queue : Queue ℕ ExtractionJob := fun _ => none
  lock : ℕ → Option ℕ := fun _ => none
  attempts : ℕ → Option Attempt := fun _ => none
  retries : ℕ → Option RetryRequest := fun _ => none
  freshUuid : Uuid := 0
  freshJob : ℕ := 0
  freshAttempt : ℕ := 0

inductive ExtractionEvent
  | tick (now : Instant)
  | initiate (organizationId : Uuid) (fileName : String) (uploadedByUserId : Uuid)
  | upload (organizationId extractionId : Uuid) (fileName : String) (uploadedByUserId : Uuid)
  | scanned (documentId : Uuid) (status : MalwareScanStatus) (quarantined commits : Bool)
  | start (jobId : ℕ)
  | advance (attempt call : ℕ)
  | raise (attempt : ℕ) (message : String)
  | die (attempt : ℕ)
  | stall (jobId : ℕ)
  | wake (jobId : ℕ)
  | evict (jobId : ℕ)
  | retry (request : ℕ) (organizationId extractionId : Uuid)
  | advanceRetry (request : ℕ)
  | cutRetry (request : ℕ)
  deriving DecidableEq

/-- What the extractor does with the stored object of a job, one call after the other. -/
abbrev Extractor := ExtractionJob → ℕ → Except String RateConfirmationExtractionOutcome

def maxAttempts : ℕ := 3

def multiLoadMessage : String :=
  "This Rate Confirmation appears to contain multiple loads. Please upload one Rate Confirmation for a single load."

namespace AttemptPhase

def after : Mark → AttemptPhase
  | .inProgress => .extracting
  | _ => .returning

def caught : AttemptPhase → Bool
  | .reading _ caught => caught
  | .writing _ caught _ => caught
  | _ => false

end AttemptPhase

namespace ExtractionState

open RateConfirmationExtractionJobStore

def setAttempt (s : ExtractionState) (n : ℕ) (attempt : Option Attempt) : ExtractionState :=
  { s with attempts := Function.update s.attempts n attempt }

def setRetry (s : ExtractionState) (n : ℕ) (request : Option RetryRequest) : ExtractionState :=
  { s with retries := Function.update s.retries n request }

/-- A move of the queue after which the job is not locked; one that the job cannot make changes nothing. -/
def moveJob (s : ExtractionState) (jobId : ℕ) (m : Move) : ExtractionState :=
  match (s.queue jobId).bind (fun j => j.move maxAttempts m) with
  | none => s
  | some job =>
    { s with
      queue := Function.update s.queue jobId job
      lock := Function.update s.lock jobId none }

/-- The queue takes the outcome only from the attempt that holds the lock. -/
def leave (s : ExtractionState) (n : ℕ) (a : Attempt) (m : Move) : ExtractionState :=
  let left := s.setAttempt n none
  if s.lock a.jobId = some n then left.moveJob a.jobId m else left

def addJob (s : ExtractionState) (job : ExtractionJob) : ExtractionState :=
  { s with
    queue := Function.update s.queue s.freshJob (some { data := job })
    freshJob := s.freshJob + 1 }

def addDocument (s : ExtractionState) (organizationId extractionId : Uuid) (fileName : String) (uploadedByUserId : Uuid) :
    ExtractionState :=
  { s with
    documents := Function.update s.documents s.freshUuid (some
      { id := s.freshUuid
        organizationId
        entityType := .rateConfirmationIntake
        entityId := extractionId
        fileStorageKey := .documents organizationId s.freshUuid
        fileName
        uploadedByUserId })
    freshUuid := s.freshUuid + 1 }

/-- The last attempt makes the error the result; an earlier one leaves it to the queue. -/
def catchError (s : ExtractionState) (n : ℕ) (a : Attempt) (message : String) : ExtractionState :=
  if maxAttempts ≤ a.attemptsMade + 1 then s.setAttempt n (some { a with phase := .reading (.failed message) true })
  else s.leave n a .fail

def advance (extract : Extractor) (s : ExtractionState) (n : ℕ) (a : Attempt) (call : ℕ) : ExtractionState :=
  match a.phase with
  | .reading mark caught =>
    match get s.records s.now a.job.organizationId a.job.extractionId with
    | none => s.setAttempt n (some { a with phase := .after mark })
    | some existing => s.setAttempt n (some { a with phase := .writing mark caught existing })
  | .writing mark _ existing =>
    { s.setAttempt n (some { a with phase := .after mark }) with
      records := write s.records s.now a.job.organizationId a.job.extractionId (mark.apply existing) }
  | .extracting =>
    match extract a.job call with
    | .error message => s.catchError n a message
    | .ok .multiLoadDetected => s.setAttempt n (some { a with phase := .reading (.failed multiLoadMessage) false })
    | .ok (.data data) => s.setAttempt n (some { a with phase := .reading (.complete data) false })
  | .returning => s.leave n a .complete

def raise (s : ExtractionState) (n : ℕ) (a : Attempt) (message : String) : ExtractionState :=
  match a.phase with
  | .returning => s
  | phase => if phase.caught then s.leave n a .fail else s.catchError n a message

def advanceRetry (s : ExtractionState) (n : ℕ) (r : RetryRequest) : ExtractionState :=
  match r.phase with
  | .found record =>
    match (s.documents record.documentId).filter (fun d => d.organizationId == r.organizationId) with
    | none => s.setRetry n none
    | some document =>
      if isDocumentConsumable document.scanStatus then
        s.setRetry n (some { r with
          phase := .reading ⟨r.extractionId, document.id, r.organizationId, document.fileStorageKey⟩ })
      else s.setRetry n none
  | .reading job =>
    match get s.records s.now r.organizationId r.extractionId with
    | none => s.setRetry n (some { r with phase := .adding job })
    | some existing => s.setRetry n (some { r with phase := .writing job existing })
  | .writing job existing =>
    { s.setRetry n (some { r with phase := .adding job }) with
      records := write s.records s.now r.organizationId r.extractionId (resetForRetry existing) }
  | .adding job => (s.setRetry n none).addJob job

/-- `applyScanResult` adds the job before its transaction commits; `quarantined` says where the row was that it read. -/
def scanned (s : ExtractionState) (d : Document) (status : MalwareScanStatus) (quarantined commits : Bool) :
    ExtractionState :=
  let key := if status = .clean ∧ quarantined = false then d.documentKey else d.quarantineKey
  let document := { d with scanStatus := status.documentStatus, fileStorageKey := key }
  let written := if commits then { s with documents := Function.update s.documents d.id (some document) } else s
  if isDocumentConsumable status.documentStatus then
    { written with passed := Function.update s.passed d.id true }.addJob ⟨d.entityId, d.id, d.organizationId, key⟩
  else written

def next (extract : Extractor) (s : ExtractionState) : ExtractionEvent → ExtractionState
  | .tick now => { s with now := max s.now now }
  | .initiate organizationId fileName uploadedByUserId =>
    -- the id of the extraction is drawn before that of the document
    let extractionId := s.freshUuid
    let uploaded := { s with freshUuid := s.freshUuid + 1 }.addDocument organizationId extractionId fileName uploadedByUserId
    { uploaded with
      records := write s.records s.now organizationId extractionId (created organizationId extractionId (s.freshUuid + 1)) }
  | .upload organizationId extractionId fileName uploadedByUserId =>
    s.addDocument organizationId extractionId fileName uploadedByUserId
  | .scanned documentId status quarantined commits =>
    match s.documents documentId with
    | none => s
    | some d => s.scanned d status quarantined commits
  | .start jobId =>
    match s.queue jobId with
    | none => s
    | some j =>
      if j.status = .waiting then
        { s with
          queue := Function.update s.queue jobId (some { j with status := .active })
          lock := Function.update s.lock jobId (some s.freshAttempt)
          attempts := Function.update s.attempts s.freshAttempt (some ⟨jobId, j.data, j.attemptsMade, .reading .inProgress false⟩)
          freshAttempt := s.freshAttempt + 1 }
      else s
  | .advance n call => match s.attempts n with
    | none => s
    | some a => s.advance extract n a call
  | .raise n message => match s.attempts n with
    | none => s
    | some a => s.raise n a message
  | .die n => s.setAttempt n none
  | .stall jobId => s.moveJob jobId (.stall false)
  | .wake jobId => s.moveJob jobId .wake
  | .evict jobId => s.moveJob jobId .evict
  | .retry n organizationId extractionId =>
    match s.retries n, get s.records s.now organizationId extractionId with
    | none, some record => s.setRetry n (some ⟨organizationId, extractionId, .found record⟩)
    | _, _ => s
  | .advanceRetry n => match s.retries n with
    | none => s
    | some r => s.advanceRetry n r
  | .cutRetry n => s.setRetry n none

end ExtractionState

structure ExtractionStatusResponse where
  extractionId : Uuid
  scanStatus : DocumentScanStatus
  extractionStatus : ExtractionStatus
  extractionError : Option String
  data : Option ExtractedRateConfirmationData
  deriving DecidableEq, Repr

open RateConfirmationExtractionJobStore in
def RateConfirmationExtractionService.getStatus (s : ExtractionState) (organizationId extractionId : Uuid) :
    Except AppError ExtractionStatusResponse := do
  let job ← require (get s.records s.now organizationId extractionId) (.notFound "Extraction not found.")
  let document ← require ((s.documents job.documentId).filter (fun d => d.organizationId == organizationId))
    (.notFound "Extraction not found.")
  pure ⟨extractionId, document.scanStatus, job.extractionStatus, job.extractionError, job.data⟩

end Truckmaster.RateConfirmationExtraction
