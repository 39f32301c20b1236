import Truckmaster.Common.Requests
import Truckmaster.Library.Fallible

/-! One validated ImportBatch, the requests on it, and the commit jobs that import its rows. -/

namespace Truckmaster.Imports

open Common Tables

inductive ImportEntityType
  | customer | customerContact | customerLocation | carrier | carrierContact | driver | truck | trailer
  deriving DecidableEq, Repr

inductive ImportBatchStatus
  | uploaded | mapping | validated | importing | complete | failed
  deriving DecidableEq, Repr

inductive ImportRowStatus
  | valid | invalid | imported | failed | skipped
  deriving DecidableEq, Repr

structure ImportBatch where
  id : Uuid
  entityType : ImportEntityType
  status : ImportBatchStatus := .validated
  totalRows : ℕ
  validRowCount : ℕ
  invalidRowCount : ℕ
  importedRowCount : Option ℕ := none
  failedRowCount : Option ℕ := none
  skippedRowCount : Option ℕ := none
  createdByUserId : Uuid
  completedAt : Option Instant := none
  deriving DecidableEq, Repr

structure ImportBatchRow where
  id : Uuid
  rowNumber : ℕ
  mappedData : List (String × String) := []
  parentLegalName : Option String := none
  status : ImportRowStatus := .valid
  errors : List String := []
  duplicateWarning : Bool := false
  acknowledgeDuplicate : Bool := false
  createdEntityId : Option Uuid := none
  processedAt : Option Instant := none
  deriving DecidableEq, Repr

structure ImportedEntity where
  id : Uuid
  rowId : Uuid
  mappedData : List (String × String)
  parentId : Option Uuid
  createdByUserId : Uuid
  deriving DecidableEq, Repr

inductive RowResult
  | imported (createdEntityId : Uuid)
  | failed (message : String)
  | skipped (message : String)
  deriving DecidableEq, Repr

/-- The next transaction of an attempt; `rest` are the rows that it has read and not come to yet. -/
inductive JobPhase
  | waiting
  | findBatch
  | findRows
  | resolveParent (row : ImportBatchRow) (rest : List ImportBatchRow)
  | commitEntity (row : ImportBatchRow) (parentId : Option Uuid) (rest : List ImportBatchRow)
  | markRow (rowId : Uuid) (result : RowResult) (rest : List ImportBatchRow)
  | finalizeBatch
  | processed
  | markBatchFailed
  | completed
  | failed
  deriving DecidableEq, Repr

structure ImportJob where
  attemptsMade : ℕ := 0
  phase : JobPhase := .waiting
  deriving DecidableEq, Repr

structure RowUpdate where
  rowId : Uuid
  acknowledgeDuplicate : Bool
  deriving DecidableEq, Repr

structure ImportState where
  batch : ImportBatch
  rows : Table ImportBatchRow.id
  entities : List ImportedEntity := []
  /-- The updateRow requests that have read the batch and not written yet. -/
  updating : List RowUpdate := []
  /-- The accepted commit requests that have not reached the queue yet. -/
  enqueuing : ℕ := 0
  jobs : List ImportJob := []
  audit : List AuditEvent := []

inductive Answer
  | done
  | parent (result : Except String Uuid)
  | created (entityId : Uuid)
  | refused (message : String)
  | error

inductive ImportEvent
  | requestUpdateRow (rowId : Uuid) (acknowledgeDuplicate : Bool)
  | updateRow (request : ℕ)
  | commit (actingUserId : Uuid)
  | addCommitJob (added : Bool)
  | start (job : ℕ)
  | advance (job : ℕ) (answer : Answer) (now : Instant)
  | die (job : ℕ)

def maxAttempts : ℕ := 3

def ImportEntityType.hasParent : ImportEntityType → Bool
  | .customer => false
  | .carrier => false
  | _ => true

namespace ImportBatchRow

def acknowledged (u : RowUpdate) (row : ImportBatchRow) : ImportBatchRow :=
  if row.status = .skipped ∧ u.acknowledgeDuplicate then
    { row with acknowledgeDuplicate := true, status := .valid, errors := [], processedAt := none }
  else { row with acknowledgeDuplicate := u.acknowledgeDuplicate }

def marked (result : RowResult) (now : Instant) (row : ImportBatchRow) : ImportBatchRow :=
  match result with
  | .imported createdEntityId =>
    { row with status := .imported, createdEntityId := some createdEntityId, processedAt := some now }
  | .failed message => { row with status := .failed, errors := [message], processedAt := some now }
  | .skipped message => { row with status := .skipped, errors := [message], processedAt := some now }

lemma acknowledged_id (u : RowUpdate) (row : ImportBatchRow) : (row.acknowledged u).id = row.id := by
  unfold acknowledged
  split <;> rfl

lemma marked_id (result : RowResult) (now : Instant) (row : ImportBatchRow) : (row.marked result now).id = row.id := by
  cases result <;> rfl

def byRowNumber (a b : ImportBatchRow) : Prop := a.rowNumber ≤ b.rowNumber

instance : DecidableRel byRowNumber := fun a b => inferInstanceAs (Decidable (a.rowNumber ≤ b.rowNumber))

end ImportBatchRow

namespace ImportJob

/-- Only the last attempt records that the batch has failed. -/
def attemptFailed (job : ImportJob) : ImportJob :=
  if maxAttempts ≤ job.attemptsMade + 1 then { job with phase := .markBatchFailed }
  else { attemptsMade := job.attemptsMade + 1, phase := .waiting }

def onto (job : ImportJob) (phase : JobPhase) : ImportJob := { job with phase }

end ImportJob

def nextRow (entityType : ImportEntityType) : List ImportBatchRow → JobPhase
  | [] => .finalizeBatch
  | row :: rest =>
    if row.duplicateWarning && !row.acknowledgeDuplicate then
      .markRow row.id (.skipped "Duplicate not acknowledged — skipped.") rest
    else if entityType.hasParent then .resolveParent row rest
    else .commitEntity row none rest

namespace ImportState

def count (s : ImportState) (status : ImportRowStatus) : ℕ := s.rows.rows.countP (fun row => row.status == status)

def eligibleRows (s : ImportState) : List ImportBatchRow :=
  (s.rows.rows.filter (fun row => row.status == .valid)).insertionSort ImportBatchRow.byRowNumber

def setJob (s : ImportState) (n : ℕ) (job : ImportJob) : ImportState := { s with jobs := s.jobs.set n job }

def create (s : ImportState) (row : ImportBatchRow) (parentId : Option Uuid) (entityId : Uuid) : ImportState :=
  { s with
    entities := s.entities ++ [⟨entityId, row.id, row.mappedData, parentId, s.batch.createdByUserId⟩] }

def mark (s : ImportState) (rowId : Uuid) (result : RowResult) (now : Instant) : ImportState :=
  { s with rows := s.rows.update rowId (.marked result now) (ImportBatchRow.marked_id result now) }

def finalized (s : ImportState) (now : Instant) : ImportState :=
  { s with
    batch := { s.batch with
      status := .complete
      importedRowCount := some (s.count .imported)
      failedRowCount := some (s.count .failed)
      skippedRowCount := some (s.count .skipped)
      completedAt := some now }
    audit := s.audit ++
      [⟨"Import Batch Completed", "ImportBatch", s.batch.id, some s.batch.createdByUserId, .human, none⟩] }

/-- The transaction of a job's phase ends; `answer` is what it returns or throws. -/
def answered (s : ImportState) (job : ImportJob) (now : Instant) (answer : Answer) : Option (ImportState × ImportJob) :=
  match job.phase, answer with
  | .findBatch, .done => some (s, job.onto .findRows)
  | .findRows, .done => some (s, job.onto (nextRow s.batch.entityType s.eligibleRows))
  | .resolveParent row rest, .parent (.ok parentId) => some (s, job.onto (.commitEntity row (some parentId) rest))
  | .resolveParent row rest, .parent (.error message) => some (s, job.onto (.markRow row.id (.failed message) rest))
  | .commitEntity row parentId rest, .created entityId =>
    some (s.create row parentId entityId, job.onto (.markRow row.id (.imported entityId) rest))
  | .commitEntity row _ rest, .refused message => some (s, job.onto (.markRow row.id (.failed message) rest))
  | .commitEntity row _ rest, .error =>
    some (s, job.onto (.markRow row.id (.failed "Unexpected error during import.") rest))
  | .markRow rowId result rest, .done =>
    some (s.mark rowId result now, job.onto (nextRow s.batch.entityType rest))
  -- the catch block of the row marks it FAILED when its own mark is what failed
  | .markRow rowId (.imported _) rest, .error =>
    some (s, job.onto (.markRow rowId (.failed "Unexpected error during import.") rest))
  | .finalizeBatch, .done => some (s.finalized now, job.onto .processed)
  | .processed, .done => some (s, job.onto .completed)
  | .markBatchFailed, .done =>
    some ({ s with batch := { s.batch with status := .failed, completedAt := some now } }, job.onto .completed)
  | .markBatchFailed, .error => some (s, job.onto .failed)
  | .findBatch, .error => some (s, job.attemptFailed)
  | .findRows, .error => some (s, job.attemptFailed)
  | .resolveParent _ _, .error => some (s, job.attemptFailed)
  | .markRow _ _ _, .error => some (s, job.attemptFailed)
  | .finalizeBatch, .error => some (s, job.attemptFailed)
  | _, _ => none

def running (job : ImportJob) : Bool :=
  job.phase != .waiting && job.phase != .completed && job.phase != .failed

def step (s : ImportState) : ImportEvent → Option ImportState
  | .requestUpdateRow rowId acknowledgeDuplicate =>
    if s.batch.status = .validated ∨ s.batch.status = .complete then
      some { s with updating := s.updating ++ [⟨rowId, acknowledgeDuplicate⟩] }
    else none
  | .updateRow n => do
    let u ← s.updating[n]?
    some { s with
      updating := s.updating.eraseIdx n
      rows := s.rows.update u.rowId (.acknowledged u) (ImportBatchRow.acknowledged_id u) }
  | .commit actingUserId =>
    if s.batch.status = .validated ∨ s.batch.status = .complete then
      some { s with
        batch := { s.batch with status := .importing }
        enqueuing := s.enqueuing + 1
        audit := s.audit ++
          [⟨"Import Batch Committed", "ImportBatch", s.batch.id, some actingUserId, .human, none⟩] }
    else none
  | .addCommitJob added =>
    if 0 < s.enqueuing then
      some { s with enqueuing := s.enqueuing - 1, jobs := if added then s.jobs ++ [{}] else s.jobs }
    else none
  | .start n => do
    let job ← s.jobs[n]?
    if job.phase = .waiting then some (s.setJob n (job.onto .findBatch)) else none
  | .advance n answer now => do
    let job ← s.jobs[n]?
    let (next, job) ← s.answered job now answer
    some (next.setJob n job)
  | .die n => do
    let job ← s.jobs[n]?
    if running job then some (s.setJob n (job.onto .waiting)) else none

end ImportState

end Truckmaster.Imports
