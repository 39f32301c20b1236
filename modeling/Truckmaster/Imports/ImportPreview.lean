import Truckmaster.Imports.Adapters

namespace Truckmaster.Imports

open Common Carriers Customers Fallible Tables

abbrev ColumnMapping := List (String × Option String)

namespace ImportBatchService

def mappedTargetKeys (columnMapping : ColumnMapping) : List String :=
  (columnMapping.filterMap Prod.snd).filter (fun key => key ≠ "")

def missingRequired (entityType : ImportEntityType) (columnMapping : ColumnMapping) : List ImportFieldSpec :=
  entityType.fields.filter (fun f => f.required && !(mappedTargetKeys columnMapping).contains f.key) ++
    (entityType.parentEntity.toList.map ParentEntity.field).filter
      (fun f => !(mappedTargetKeys columnMapping).contains f.key)

def mapColumns (columnMapping : ColumnMapping) (rawRow : Fields) : Fields :=
  columnMapping.foldl (fun mapped column =>
    match column.2 with
    | none => mapped
    | some key => if key = "" then mapped else (key, (rawRow.lookup column.1).getD "") :: mapped) []

def parentErrors (e : Engine) (org : OrganizationData) (parentLegalName : Option String) :
    Option ParentEntity → List String
  | none => []
  | some parentEntity =>
    match ParentResolutionService.resolveByLegalName e org parentEntity parentLegalName with
    | .ok _ => []
    | .error message => [message]

/-- The rows of a batch are told apart by their position. -/
def previewRow (e : Engine) (o : RowOrder) (org : OrganizationData) (entityType : ImportEntityType)
    (columnMapping : ColumnMapping) (i : ℕ) (rawRow : Fields) (cache : ImportDuplicateCache) :
    ImportBatchRow × ImportDuplicateCache :=
  let mapped := mapColumns columnMapping rawRow
  let parentLegalName := entityType.parentEntity.bind (fun p => mapped.lookup p.field.key)
  let mapResult := mapRow e entityType mapped
  let errors := parentErrors e org parentLegalName entityType.parentEntity ++ mapResult.errors
  let business :=
    if errors = [] then Adapter.checkBusinessRules e o org mapResult.dto entityType cache else ({}, cache)
  ({ id := i
     rowNumber := i + 1
     mappedData := if mapResult.errors = [] then mapResult.dto else mapped
     parentLegalName
     status := if errors ++ business.1.errors = [] then .valid else .invalid
     errors := errors ++ business.1.errors
     duplicateWarning := decide (business.1.duplicateWarning ≠ []) }, business.2)

def previewRows (e : Engine) (o : RowOrder) (org : OrganizationData) (entityType : ImportEntityType)
    (columnMapping : ColumnMapping) : ℕ → List Fields → ImportDuplicateCache → List ImportBatchRow
  | _, [], _ => []
  | i, rawRow :: rest, cache =>
    let (row, cache) := previewRow e o org entityType columnMapping i rawRow cache
    row :: previewRows e o org entityType columnMapping (i + 1) rest cache

lemma previewRows_ids (e : Engine) (o : RowOrder) (org : OrganizationData) (entityType : ImportEntityType)
    (columnMapping : ColumnMapping) (i : ℕ) (rawRows : List Fields) (cache : ImportDuplicateCache) :
    (previewRows e o org entityType columnMapping i rawRows cache).map ImportBatchRow.id =
      List.range' i rawRows.length := by
  induction rawRows generalizing i cache with
  | nil => rfl
  | cons rawRow rest ih =>
    rw [previewRows, List.map_cons, ih, List.length_cons, List.range'_succ]
    rfl

def statusText : ImportBatchStatus → String
  | .uploaded => "UPLOADED"
  | .mapping => "MAPPING"
  | .validated => "VALIDATED"
  | .importing => "IMPORTING"
  | .complete => "COMPLETE"
  | .failed => "FAILED"

def fieldsNotMapped (missing : List ImportFieldSpec) : AppError :=
  ⟨.validation, "The following required fields are not mapped to a column: " ++
    String.intercalate ", " (missing.map ImportFieldSpec.label) ++ ".", []⟩

def submitMapping (e : Engine) (o : RowOrder) (org : OrganizationData) (batch : ImportBatch)
    (columnMapping : ColumnMapping) (rawRows : List Fields) : Except AppError ImportState := do
  ensure (batch.status = .mapping) ⟨.validation, "Cannot submit mapping for a batch in status " ++ statusText batch.status ++ ".", []⟩
  ensure (missingRequired batch.entityType columnMapping = [])
    (fieldsNotMapped (missingRequired batch.entityType columnMapping))
  let rows := previewRows e o org batch.entityType columnMapping 0 rawRows none
  pure
    { batch := { batch with
        status := .validated
        totalRows := rows.length
        validRowCount := rows.countP (fun row => row.status == .valid)
        invalidRowCount := rows.countP (fun row => row.status == .invalid) }
      rows := ⟨rows, by rw [previewRows_ids]; exact List.nodup_range'⟩ }

end ImportBatchService

namespace ImportCommitWorker

structure JobData where
  org : OrganizationData
  cache : ImportDuplicateCache
  rows : Table ImportBatchRow.id

def JobData.markRow (job : JobData) (rowId : Uuid) (result : RowResult) (now : Instant) : JobData :=
  { job with rows := job.rows.update rowId (.marked result now) (ImportBatchRow.marked_id result now) }

def messageOf (error : AppError) : String :=
  if error.code = .database then "Unexpected error during import." else error.message

def resolveParent (e : Engine) (org : OrganizationData) (entityType : ImportEntityType) (row : ImportBatchRow) :
    Except String Uuid :=
  match entityType.parentEntity with
  | none => .ok 0
  | some parentEntity => ParentResolutionService.resolveByLegalName e org parentEntity row.parentLegalName

/-- The request that a row makes to its service: the batch's creator acts, and generated ids are new. -/
def rowRequest (org : OrganizationData) (batch : ImportBatch) (q : Request) : Request :=
  { q with uuid := fun i => org.nextUuid + i, actingUserId := batch.createdByUserId }

def processRow (e : Engine) (batch : ImportBatch) (q : ℕ → Request) (job : JobData) (row : ImportBatchRow) : JobData :=
  let request := rowRequest job.org batch (q row.rowNumber)
  if row.duplicateWarning && !row.acknowledgeDuplicate then
    job.markRow row.id (.skipped "Duplicate not acknowledged — skipped.") request.now
  else match resolveParent e job.org batch.entityType row with
    | .error message => job.markRow row.id (.failed message) request.now
    | .ok parentId =>
      match Adapter.commit e request job.org batch.entityType row.mappedData parentId row.acknowledgeDuplicate
        job.cache with
      | (.ok (entityId, org), cache) => { job with org, cache }.markRow row.id (.imported entityId) request.now
      | (.error error, cache) => { job with cache }.markRow row.id (.failed (messageOf error)) request.now

def processRows (e : Engine) (batch : ImportBatch) (q : ℕ → Request) (job : JobData) (rows : List ImportBatchRow) :
    JobData := rows.foldl (processRow e batch q) job

end ImportCommitWorker

structure PreviewedImport where
  org : OrganizationData
  batch : ImportState

/-- A commit makes one request for each row number; the last transaction of its job is numbered 0. -/
inductive PreviewRequest
  | updateRow (rowId : Uuid) (acknowledgeDuplicate : Bool)
  | commit (q : ℕ → Request)

namespace PreviewedImport

def Open (s : PreviewedImport) : Prop := s.batch.batch.status = .validated ∨ s.batch.batch.status = .complete

instance (s : PreviewedImport) : Decidable s.Open :=
  inferInstanceAs (Decidable (s.batch.batch.status = .validated ∨ s.batch.batch.status = .complete))

def processed (e : Engine) (s : PreviewedImport) (q : ℕ → Request) : ImportCommitWorker.JobData :=
  ImportCommitWorker.processRows e s.batch.batch q ⟨s.org, none, s.batch.rows⟩ s.batch.eligibleRows

def next (e : Engine) (s : PreviewedImport) : PreviewRequest → PreviewedImport
  | .updateRow rowId acknowledgeDuplicate =>
    if s.Open then
      { s with batch := { s.batch with
          rows := s.batch.rows.update rowId (.acknowledged ⟨rowId, acknowledgeDuplicate⟩)
            (ImportBatchRow.acknowledged_id _) } }
    else s
  | .commit q =>
    if s.Open then
      let committed : ImportState := { s.batch with
        rows := (s.processed e q).rows
        audit := s.batch.audit ++
          [⟨"Import Batch Committed", "ImportBatch", s.batch.batch.id, some (q 0).actingUserId, .human, none⟩] }
      { org := (s.processed e q).org, batch := committed.finalized (q 0).now }
    else s

end PreviewedImport

end Truckmaster.Imports
