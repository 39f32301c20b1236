import Truckmaster.Imports.ImportBatches
import Truckmaster.Library.RowLocks

/-! The requests on one ImportBatch and the attempts of its commit jobs, statement by statement. -/

namespace Truckmaster.Imports

open Common ReadCommitted Tables

variable {I : Type}

inductive CommitJobStatus
  | waiting | active | completed | failed
  deriving DecidableEq, Repr

/-- A job of the queue. `token` is the attempt that has last taken it; one that is to be retried waits. -/
structure CommitJob (I : Type) where
  status : CommitJobStatus := .waiting
  attemptsMade : ℕ := 0
  stalledCounter : ℕ := 0
  token : Option I := none
  deriving DecidableEq

inductive JobMove (I : Type)
  | take (token : I)
  | complete (token : I)
  | fail (token : I) (attemptsMade : ℕ)
  | stall

def maxStalledCount : ℕ := 1

/-- An attempt that has lost its job to a stall runs on and can no longer end the job. -/
def CommitJob.move [DecidableEq I] (job : CommitJob I) : JobMove I → CommitJob I
  | .take token => if job.status = .waiting then { job with status := .active, token := some token } else job
  | .complete token =>
    if job.status = .active ∧ job.token = some token then { job with status := .completed } else job
  | .fail token attemptsMade =>
    if job.status = .active ∧ job.token = some token then
      { job with
        status := if attemptsMade + 1 < maxAttempts then .waiting else .failed
        attemptsMade := attemptsMade + 1 }
    else job
  | .stall =>
    if job.status = .active then
      { job with
        status := if maxStalledCount < job.stalledCounter + 1 then .failed else .waiting
        stalledCounter := job.stalledCounter + 1 }
    else job

structure BatchStore (I : Type) where
  batch : ImportBatch
  rows : Table ImportBatchRow.id
  jobs : List (CommitJob I) := []

inductive BatchUpdate
  | mapping (totalRows : ℕ)
  | validated (totalRows validRowCount invalidRowCount : ℕ)
  | importing
  | complete (imported failed skipped : ℕ) (completedAt : Instant)
  | failed (completedAt : Instant)
  deriving DecidableEq

namespace BatchUpdate

def status : BatchUpdate → ImportBatchStatus
  | mapping _ => .mapping
  | validated _ _ _ => .validated
  | importing => .importing
  | complete _ _ _ _ => .complete
  | failed _ => .failed

def write (batch : ImportBatch) : BatchUpdate → ImportBatch
  | mapping totalRows => { batch with status := .mapping, totalRows }
  | validated totalRows validRowCount invalidRowCount =>
    { batch with status := .validated, totalRows, validRowCount, invalidRowCount }
  | importing => { batch with status := .importing }
  | complete importedCount failedCount skippedCount completedAt =>
    { batch with
      status := .complete
      importedRowCount := some importedCount
      failedRowCount := some failedCount
      skippedRowCount := some skippedCount
      completedAt := some completedAt }
  | .failed completedAt => { batch with status := .failed, completedAt := some completedAt }

@[simp] lemma write_status (u : BatchUpdate) (batch : ImportBatch) : (u.write batch).status = u.status := by
  cases u <;> rfl

end BatchUpdate

namespace ImportBatchRow

/-- The update of updateRow, with the `resetToValid` that it has computed from the row it read. -/
def updated (acknowledgeDuplicate resetToValid : Bool) (row : ImportBatchRow) : ImportBatchRow :=
  if resetToValid then { row with acknowledgeDuplicate, status := .valid, errors := [], processedAt := none }
  else { row with acknowledgeDuplicate }

lemma updated_id (acknowledgeDuplicate resetToValid : Bool) (row : ImportBatchRow) :
    (row.updated acknowledgeDuplicate resetToValid).id = row.id := by
  unfold updated
  split <;> rfl

def resetToValid (u : RowUpdate) (row : ImportBatchRow) : Bool := row.status == .skipped && u.acknowledgeDuplicate

/-- Where nothing comes between the read and the write, this is the update of the serial model. -/
lemma updated_read (u : RowUpdate) (row : ImportBatchRow) :
    row.updated u.acknowledgeDuplicate (row.resetToValid u) = row.acknowledged u := by
  cases hack : u.acknowledgeDuplicate <;> simp [updated, resetToValid, acknowledged, hack]

end ImportBatchRow

structure MappedRow where
  id : Uuid
  mappedData : List (String × String) := []
  parentLegalName : Option String := none
  errors : List String := []
  duplicateWarning : Bool := false
  deriving DecidableEq, Repr

def MappedRow.isValid (row : MappedRow) : Bool := row.errors.isEmpty

def MappedRow.create (rowNumber : ℕ) (row : MappedRow) : ImportBatchRow where
  id := row.id
  rowNumber := rowNumber
  mappedData := row.mappedData
  parentLegalName := row.parentLegalName
  status := if row.isValid then .valid else .invalid
  errors := row.errors
  duplicateWarning := row.duplicateWarning

inductive BatchWrite (I : Type)
  | updateBatch (data : BatchUpdate)
  | deleteRow (rowId : Uuid)
  | createRow (rowNumber : ℕ) (row : MappedRow)
  | updateRow (rowId : Uuid) (acknowledgeDuplicate resetToValid : Bool)
  | markRow (rowId : Uuid) (result : RowResult) (now : Instant)
  | addJob
  | moveJob (job : ℕ) (m : JobMove I)

namespace BatchStore

def count (d : BatchStore I) (status : ImportRowStatus) : ℕ := d.rows.rows.countP (fun row => row.status == status)

def eligibleRows (d : BatchStore I) : List ImportBatchRow :=
  (d.rows.rows.filter (fun row => row.status == .valid)).insertionSort ImportBatchRow.byRowNumber

def write [DecidableEq I] : BatchWrite I → BatchStore I → BatchStore I
  | .updateBatch data, d => { d with batch := data.write d.batch }
  | .deleteRow rowId, d => { d with rows := d.rows.filter (fun row => row.id != rowId) }
  | .createRow rowNumber row, d => { d with rows := (d.rows.insert (row.create rowNumber)).getD d.rows }
  | .updateRow rowId acknowledgeDuplicate resetToValid, d =>
    { d with
      rows := d.rows.update rowId (.updated acknowledgeDuplicate resetToValid)
        (ImportBatchRow.updated_id acknowledgeDuplicate resetToValid) }
  | .markRow rowId result now, d =>
    { d with rows := d.rows.update rowId (.marked result now) (ImportBatchRow.marked_id result now) }
  | .addJob, d => { d with jobs := d.jobs ++ [{}] }
  | .moveJob job m, d => { d with jobs := d.jobs.modify job (·.move m) }

end BatchStore

/-- A row is locked under its number, which is unique in the batch also for the rows not committed yet. -/
inductive BatchLock
  | batch
  | row (rowNumber : ℕ)
  | job (n : ℕ)
  deriving DecidableEq

/-- One attempt of a commit job: what the resolution of a row's parent and the creation of its entity return. -/
structure Attempt where
  job : ℕ
  resolveParent : ImportBatchRow → Except String Uuid
  commit : ImportBatchRow → Option Uuid → Except String Uuid
  now : Instant

/-- A request that has passed its role check, an attempt, or the queue's look for a stalled job. The rows of the file
are mapped and checked between transactions, so a request comes with what it makes of them. -/
inductive BatchRequest
  | confirmUpload (totalRows : ℕ)
  | submitMapping (rowsToCreate : List MappedRow)
  | updateRow (u : RowUpdate)
  | commit
  | attempt (a : Attempt)
  | checkStalled (job : ℕ)

/-- Where a session goes on. `ending` commits and goes on with `next`, or with `lost` if the commit fails. -/
inductive BatchFrame (I : Type)
  | confirmUpload (totalRows : ℕ)
  | updateMapping (totalRows : ℕ)
  | submitMapping (rowsToCreate : List MappedRow)
  | deleteMany (rowsToCreate : List MappedRow)
  | deleteRows (found : List ImportBatchRow) (rowsToCreate : List MappedRow)
  | createMany (rowNumber : ℕ) (left rowsToCreate : List MappedRow)
  | updateRow (u : RowUpdate)
  | findRow (u : RowUpdate)
  | updateFound (u : RowUpdate) (row : ImportBatchRow)
  | commit
  | updateMany
  | updateMatched
  | addJob
  | jobAdded
  | attempt (token : I) (a : Attempt) (job : ImportJob)
  | markFound (token : I) (a : Attempt) (job : ImportJob) (row : ImportBatchRow) (result : RowResult)
      (rest : List ImportBatchRow)
  | updateCounts (token : I) (a : Attempt) (job : ImportJob) (imported failed skipped : ℕ)
  | checkStalled (job : ℕ)
  | ending (next lost : BatchFrame I)
  | aborting (next : BatchFrame I)
  | ended

def BatchRequest.start (i : I) : BatchRequest → BatchFrame I
  | confirmUpload totalRows => .confirmUpload totalRows
  | submitMapping rowsToCreate => .submitMapping rowsToCreate
  | updateRow u => .updateRow u
  | commit => .commit
  | attempt a => .attempt i a {}
  | checkStalled job => .checkStalled job

namespace ImportJob

@[simp] lemma onto_phase (job : ImportJob) (phase : JobPhase) : (job.onto phase).phase = phase := rfl

def caught (job : ImportJob) : ImportJob :=
  match job.phase with
  | .commitEntity row _ rest => job.onto (.markRow row.id (.failed "Unexpected error during import.") rest)
  | .markRow rowId (.imported _) rest =>
    job.onto (.markRow rowId (.failed "Unexpected error during import.") rest)
  | .waiting => job
  | .markBatchFailed => job.onto .failed
  | .processed => job.onto .completed
  | .failed => job.onto .completed
  | .completed => job.onto .completed
  | _ => job.onto (if maxAttempts ≤ job.attemptsMade + 1 then .markBatchFailed else .failed)

end ImportJob

namespace BatchFrame

def attemptStatement (token : I) (a : Attempt) (job : ImportJob) :
    Action (BatchStore I) BatchLock (BatchFrame I) (BatchWrite I) :=
  let onto (phase : JobPhase) : BatchFrame I :=
    .ending (.attempt token a (job.onto phase)) (.attempt token a job.caught)
  match job.phase with
  | .waiting => .lock (.job a.job) fun d =>
    match d.jobs[a.job]? with
    | some taken =>
      if taken.status = .waiting then
        (.ending (.attempt token a ⟨taken.attemptsMade, .findBatch⟩) .ended, [.moveJob a.job (.take token)])
      else (.aborting .ended, [])
    | none => (.aborting .ended, [])
  | .findBatch => .run fun _ => (onto .findRows, [])
  | .findRows => .run fun d => (onto (nextRow d.batch.entityType d.eligibleRows), [])
  | .resolveParent row rest => .run fun _ =>
    match a.resolveParent row with
    | .ok parentId => (onto (.commitEntity row (some parentId) rest), [])
    | .error message => (onto (.markRow row.id (.failed message) rest), [])
  | .commitEntity row parentId rest => .run fun _ =>
    match a.commit row parentId with
    | .ok entityId => (onto (.markRow row.id (.imported entityId) rest), [])
    | .error message => (onto (.markRow row.id (.failed message) rest), [])
  | .markRow rowId result rest => .run fun d =>
    match d.rows.get rowId with
    | some row => (.markFound token a job row result rest, [])
    | none => (.aborting (.attempt token a job.caught), [])
  | .finalizeBatch => .run fun d =>
    (.updateCounts token a job (d.count .imported) (d.count .failed) (d.count .skipped), [])
  | .processed => .lock (.job a.job) fun _ => (.ending .ended .ended, [.moveJob a.job (.complete token)])
  | .markBatchFailed => .lock .batch fun _ => (onto .processed, [.updateBatch (.failed a.now)])
  | .failed => .lock (.job a.job) fun _ => (.ending .ended .ended, [.moveJob a.job (.fail token job.attemptsMade)])
  | .completed => .stop

def statement : BatchFrame I → Action (BatchStore I) BatchLock (BatchFrame I) (BatchWrite I)
  | confirmUpload totalRows => .run fun d =>
    if d.batch.status = .uploaded then (.ending (.updateMapping totalRows) .ended, []) else (.aborting .ended, [])
  | updateMapping totalRows => .lock .batch fun _ => (.ending .ended .ended, [.updateBatch (.mapping totalRows)])
  | submitMapping rowsToCreate => .run fun d =>
    if d.batch.status = .mapping then (.ending (.deleteMany rowsToCreate) .ended, []) else (.aborting .ended, [])
  | deleteMany rowsToCreate => .run fun d => (.deleteRows d.rows.rows rowsToCreate, [])
  | deleteRows [] rowsToCreate => .run fun _ => (.createMany 1 rowsToCreate rowsToCreate, [])
  | deleteRows (row :: found) rowsToCreate =>
    .lock (.row row.rowNumber) fun _ => (.deleteRows found rowsToCreate, [.deleteRow row.id])
  | createMany rowNumber (row :: left) rowsToCreate => .lock (.row rowNumber) fun d =>
    -- the unique index on the batch and the row number
    if d.rows.rows.any (fun other => other.rowNumber == rowNumber) then (.aborting .ended, [])
    else (.createMany (rowNumber + 1) left rowsToCreate, [.createRow rowNumber row])
  | createMany _ [] rowsToCreate => .lock .batch fun _ =>
    (.ending .ended .ended,
      [.updateBatch (.validated rowsToCreate.length (rowsToCreate.countP MappedRow.isValid)
        (rowsToCreate.countP (fun row => !row.isValid)))])
  | updateRow u => .run fun d =>
    if d.batch.status = .validated ∨ d.batch.status = .complete then (.ending (.findRow u) .ended, [])
    else (.aborting .ended, [])
  | findRow u => .run fun d =>
    match d.rows.get u.rowId with
    | some row => (.updateFound u row, [])
    | none => (.aborting .ended, [])
  | updateFound u row => .lock (.row row.rowNumber) fun d =>
    if (d.rows.get row.id).isSome then
      (.ending .ended .ended, [.updateRow row.id u.acknowledgeDuplicate (row.resetToValid u)])
    else (.aborting .ended, [])
  | commit => .run fun d =>
    if d.batch.status = .validated ∨ d.batch.status = .complete then (.ending .updateMany .ended, [])
    else (.aborting .ended, [])
  | updateMany => .run fun d =>
    if d.batch.status = .validated ∨ d.batch.status = .complete then (.updateMatched, []) else (.aborting .ended, [])
  | updateMatched => .lock .batch fun d =>
    if d.batch.status = .validated ∨ d.batch.status = .complete then
      (.ending .addJob .ended, [.updateBatch .importing])
    else (.aborting .ended, [])
  | addJob => .run fun _ => (.jobAdded, [.addJob])
  | jobAdded => .commit .ended
  | attempt token a job => attemptStatement token a job
  | markFound token a job row result rest => .lock (.row row.rowNumber) fun d =>
    if (d.rows.get row.id).isSome then
      (.ending (.attempt token a (job.onto (nextRow d.batch.entityType rest))) (.attempt token a job.caught),
        [.markRow row.id result a.now])
    else (.aborting (.attempt token a job.caught), [])
  | updateCounts token a job imported failed skipped => .lock .batch fun _ =>
    (.ending (.attempt token a (job.onto .processed)) (.attempt token a job.caught),
      [.updateBatch (.complete imported failed skipped a.now)])
  | checkStalled job => .lock (.job job) fun _ => (.ending .ended .ended, [.moveJob job .stall])
  | ending next _ => .commit next
  | aborting next => .rollback next
  | ended => .stop

/-- A request that loses its transaction, or dies, is over; an attempt goes on with its `catch` or never again. -/
def lost : BatchFrame I → BatchFrame I
  | attempt token a job => .attempt token a job.caught
  | markFound token a job _ _ _ => .attempt token a job.caught
  | updateCounts token a job _ _ _ => .attempt token a job.caught
  | ending _ lost => lost
  | aborting next => next
  | _ => .ended

end BatchFrame

def batchCode [DecidableEq I] : Code (BatchStore I) BatchLock (BatchFrame I) (BatchWrite I) where
  action := BatchFrame.statement
  apply := BatchStore.write
  fail := BatchFrame.lost

abbrev BatchState (I : Type) := State (BatchStore I) BatchLock I (BatchFrame I) (BatchWrite I)

def batchStep [DecidableEq I] : BatchState I → Event I → Option (BatchState I) := step batchCode

def uploaded (batch : ImportBatch) (requests : I → BatchRequest) : BatchState I :=
  begin { batch := { batch with status := .uploaded }, rows := .empty } (fun i => (requests i).start i)

end Truckmaster.Imports
