import Truckmaster.Documents.DocumentFamilies
import Truckmaster.Library.CheckThenInsert
import Truckmaster.Library.JsonValues
import Truckmaster.QuoteLoad.Entities

namespace Truckmaster.LoadDrafts

open Common Documents ReadCommitted Runs Tables Transactions Transactions.Txn
open QuoteLoad (CustomerStatus)

structure DraftCustomer where
  id : Uuid
  organizationId : Uuid
  legalName : String
  status : CustomerStatus

structure LoadDraft where
  id : Uuid
  organizationId : Uuid
  createdByUserId : Uuid
  customerId : Uuid
  rateConfirmationDocumentId : Uuid
  extractedData : Json
  createdAt : Instant

structure LoadDraftSummary where
  id : Uuid
  customerId : Uuid
  customerLegalName : String
  customerStatus : CustomerStatus
  rateConfirmationDocumentId : Uuid
  rateConfirmationFileName : String
  createdAt : Instant

structure LoadDraftDetail extends LoadDraftSummary where
  extractedData : Json

structure LoadDraftDb where
  documents : List DocumentVersion
  customers : List DraftCustomer
  drafts : Table LoadDraft.rateConfirmationDocumentId

structure CreateLoadDraftDto where
  extractionId : Uuid
  customerId : Uuid
  extractedData : Json

namespace LoadDraftDb

variable (d : LoadDraftDb)

def findUpload (organizationId extractionId : Uuid) (o : RowOrder) : Option DocumentVersion :=
  findFirst o (fun x => x.organizationId == organizationId && x.entityType == .rateConfirmationIntake &&
    x.entityId == extractionId && x.isCurrentVersion) d.documents

def findCustomer (organizationId id : Uuid) (o : RowOrder) : Option DraftCustomer :=
  findFirst o (fun x => x.id == id && x.organizationId == organizationId) d.customers

def findDraft (organizationId documentId : Uuid) (o : RowOrder) : Option LoadDraft :=
  findFirst o (fun x => x.organizationId == organizationId && x.rateConfirmationDocumentId == documentId) d.drafts.rows

def create (draft : LoadDraft) (d : LoadDraftDb) : LoadDraftDb :=
  { d with drafts := (d.drafts.insert draft).getD d.drafts }

end LoadDraftDb

namespace LoadDraftService

def toSummary (draft : LoadDraft) (customer : DraftCustomer) (document : DocumentVersion) : LoadDraftSummary where
  id := draft.id
  customerId := draft.customerId
  customerLegalName := customer.legalName
  customerStatus := customer.status
  rateConfirmationDocumentId := draft.rateConfirmationDocumentId
  rateConfirmationFileName := document.fileName
  createdAt := draft.createdAt

def toDetail (draft : LoadDraft) (customer : DraftCustomer) (document : DocumentVersion) : LoadDraftDetail :=
  { toSummary draft customer document with extractedData := draft.extractedData }

def uniqueViolation : AppError := .database "Unique constraint failed on the fields: (rate_confirmation_document_id)"

def transactionAborted : AppError :=
  .database "current transaction is aborted, commands ignored until end of transaction block"

/-- The locked row is the entry of the document in the unique index. -/
abbrev DraftTxn := Txn LoadDraftDb Uuid LoadDraft (RolledBack AppError LoadDraftDetail) LoadDraftDetail

abbrev DraftFrame := Frame LoadDraftDb Uuid LoadDraft (RolledBack AppError LoadDraftDetail) LoadDraftDetail

def create (organizationId : Uuid) (q : Request) (dto : CreateLoadDraftDto) : DraftTxn := do
  let document ← read (fun d => d.findUpload organizationId dto.extractionId (q.order 0))
  let document ← require document (.failed (.notFound "Rate Confirmation upload not found."))
  let customer ← read (fun d => d.findCustomer organizationId dto.customerId (q.order 1))
  let customer ← require customer (.failed (.notFound "Customer not found."))
  let existing ← read (fun d => d.findDraft organizationId document.id (q.order 2))
  match existing with
  | some existing => return toDetail existing customer document
  | none =>
    let created : LoadDraft :=
      { id := q.uuid 0, organizationId, createdByUserId := q.actingUserId, customerId := dto.customerId
        rateConfirmationDocumentId := document.id, extractedData := dto.extractedData, createdAt := q.now }
    tryInsert document.id (fun d => (d.drafts.get document.id).isSome) created uniqueViolation transactionAborted
      (fun error =>
        if error = uniqueViolation then do
          let winner ← read (fun d => d.findDraft organizationId document.id (q.order 3))
          match winner with
          | some winner => return toDetail winner customer document
          | none => .throw (.failed error)
        else .throw (.failed error))
      (return toDetail created customer document)

structure CreateCall where
  request : Request
  dto : CreateLoadDraftDto

def CreateCall.start (organizationId : Uuid) (c : CreateCall) : DraftFrame :=
  .running (create organizationId c.request c.dto)

def lost : RolledBack AppError LoadDraftDetail := .failed (.database "Server has closed the connection.")

/-- What every call finds: the upload, the customers, and drafts of the upload in its own organization only. -/
structure Found (d₀ : LoadDraftDb) (organizationId : Uuid) (document : DocumentVersion) (d : LoadDraftDb) : Prop where
  documents : d.documents = d₀.documents
  customers : d.customers = d₀.customers
  owned : ∀ draft, d.drafts.get document.id = some draft → draft.organizationId = organizationId

def draftSlot (d₀ : LoadDraftDb) (organizationId : Uuid) (document : DocumentVersion) :
    Slot LoadDraftDb Uuid LoadDraft LoadDraft where
  key := document.id
  row d := d.drafts.get document.id
  put := id
  world := Found d₀ organizationId document

section Draft

variable {d₀ d : LoadDraftDb} {organizationId : Uuid} {document : DocumentVersion} {draft : LoadDraft} {o : RowOrder}

def OfDocument (organizationId : Uuid) (document : DocumentVersion) (draft : LoadDraft) : Prop :=
  draft.organizationId = organizationId ∧ draft.rateConfirmationDocumentId = document.id

lemma Found.findDraft (h : Found d₀ organizationId document d) :
    d.findDraft organizationId document.id o = d.drafts.get document.id := by
  cases hget : d.drafts.get document.id with
  | none =>
    refine findFirst_none.mpr (fun x hx => ?_)
    by_contra hmatch
    simp only [Bool.not_eq_false, Bool.and_eq_true, beq_iff_eq] at hmatch
    have hfound := Table.get_eq_some.mpr ⟨hx, hmatch.2⟩
    rw [hget] at hfound
    cases hfound
  | some draft =>
    obtain ⟨hmem, hkey⟩ := Table.get_eq_some.mp hget
    cases hfirst : d.findDraft organizationId document.id o with
    | none =>
      have hnone := findFirst_none.mp hfirst draft hmem
      simp [h.owned draft hget, hkey] at hnone
    | some x =>
      obtain ⟨hx, hmatch⟩ := findFirst_some hfirst
      simp only [Bool.and_eq_true, beq_iff_eq] at hmatch
      rw [d.drafts.eq_of_key hx hmem (hmatch.2.trans hkey.symm)]

lemma get_create (hkey : draft.rateConfirmationDocumentId = document.id) (h : d.drafts.get document.id = none) :
    (d.create draft).drafts.get document.id = some draft := by
  have hnew : draft.rateConfirmationDocumentId ∉ d.drafts.rows.map LoadDraft.rateConfirmationDocumentId := by
    intro hmem
    obtain ⟨x, hx, hxkey⟩ := List.mem_map.mp hmem
    have hfound := Table.get_eq_some.mpr ⟨hx, hxkey.trans hkey⟩
    rw [h] at hfound
    cases hfound
  obtain ⟨drafts, hinsert, hrows⟩ := Table.insert_of_new hnew
  rw [LoadDraftDb.create, hinsert]
  exact Table.get_eq_some.mpr ⟨by rw [Option.getD_some, hrows]; simp, hkey⟩

lemma draftSlot_lawful {I : Type} :
    (draftSlot d₀ organizationId document).Lawful (fun (_ : I) => OfDocument organizationId document)
      LoadDraftDb.create where
  stores _ x d hfits hvacant := get_create hfits.2 hvacant
  keeps _ x d hfits hvacant hworld := by
    refine ⟨hworld.documents, hworld.customers, fun draft hdraft => ?_⟩
    have hstored := get_create hfits.2 hvacant
    obtain rfl := Option.some.inj (hstored.symm.trans hdraft)
    exact hfits.1

lemma create_ready {c : CreateCall} {customer : DraftCustomer}
    (hupload : d₀.findUpload organizationId c.dto.extractionId (c.request.order 0) = some document)
    (hcustomer : d₀.findCustomer organizationId c.dto.customerId (c.request.order 1) = some customer) :
    (draftSlot d₀ organizationId document).Ready (OfDocument organizationId document)
      (fun draft => toDetail draft customer document) (create organizationId c.request c.dto) d := by
  intro d₁ hd₁ _
  refine ⟨rfl, ?_⟩
  have hdocument : d₁.findUpload organizationId c.dto.extractionId (c.request.order 0) = some document := by
    rw [← hupload, LoadDraftDb.findUpload, LoadDraftDb.findUpload, hd₁.documents]
  simp only [hdocument]
  intro d₂ hd₂ _
  refine ⟨rfl, ?_⟩
  have hfound : d₂.findCustomer organizationId c.dto.customerId (c.request.order 1) = some customer := by
    rw [← hcustomer, LoadDraftDb.findCustomer, LoadDraftDb.findCustomer, hd₂.customers]
  simp only [hfound]
  intro d₃ hd₃ _
  refine ⟨rfl, ?_⟩
  have hexisting : d₃.findDraft organizationId document.id (c.request.order 2) = _ := hd₃.findDraft
  simp only [hexisting]
  cases hget : d₃.drafts.get document.id with
  | some existing => exact ⟨existing, hget, rfl⟩
  | none =>
    refine ⟨rfl, fun d₄ _ _ => ⟨fun hvacant => ?_, fun hstored => ?_⟩⟩
    · have hfree : (d₄.drafts.get document.id).isSome = false := by
        rw [show d₄.drafts.get document.id = none from hvacant]
        rfl
      simp only [hfree]
      exact ⟨_, ⟨rfl, rfl⟩, rfl, rfl⟩
    · have htaken : (d₄.drafts.get document.id).isSome = true := Option.isSome_iff_ne_none.mpr hstored
      simp only [htaken]
      exact ⟨.failed transactionAborted, rfl⟩

end Draft

section Calls

variable {I : Type} [DecidableEq I] {d₀ : LoadDraftDb} {organizationId : Uuid} {document : DocumentVersion}
  {calls : I → CreateCall} {customers : I → DraftCustomer} {es : List (Event I)}
  {s : State LoadDraftDb Uuid I DraftFrame LoadDraft}

theorem create_idempotent_iff
    (hupload : ∀ i, d₀.findUpload organizationId (calls i).dto.extractionId ((calls i).request.order 0) = some document)
    (hcustomer : ∀ i, d₀.findCustomer organizationId (calls i).dto.customerId ((calls i).request.order 1) =
      some (customers i))
    (howned : ∀ draft, d₀.drafts.get document.id = some draft → draft.organizationId = organizationId)
    (h : Run (Enabled (ReadCommitted.step (code LoadDraftDb.create lost)))
      (begin d₀ (fun i => (calls i).start organizationId)) es s)
    (hanswered : ∀ i, (s.session i).frame.ended = true) :
    (∀ i, ∃ draft, s.committed.drafts.get document.id = some draft ∧
        (s.session i).frame = .answered (.ok (toDetail draft (customers i) document))) ↔
      Run (Guarded (Enabled (ReadCommitted.step (code LoadDraftDb.create lost)))
          (Vacant (fun d => d.drafts.get document.id)))
        (begin d₀ (fun i => (calls i).start organizationId)) es s :=
  (draftSlot d₀ organizationId document).answers_iff_vacant draftSlot_lawful
    (fun i => create_ready (hupload i) (hcustomer i)) ⟨rfl, rfl, howned⟩ h hanswered

end Calls

namespace Sample

def upload : DocumentVersion :=
  { id := 7, organizationId := 1, entityType := .rateConfirmationIntake, entityId := 30, fileStorageKey := .documents 1 7
    fileName := "rate-confirmation.pdf", uploadedByUserId := 5, documentFamilyId := 7, documentTypeId := 1
    fileSizeBytes := 1, mimeType := .pdf, uploadedAt := 0 }

def customer : DraftCustomer := ⟨8, 1, "Acme Foods", .prospect⟩

def noDraft : LoadDraftDb := ⟨[upload], [customer], .empty⟩

def click (i : Bool) : CreateCall where
  request := { now := 100, uuid := fun n => cond i (20 + n) (10 + n), order := fun _ => .stored, actingUserId := 5 }
  dto := ⟨30, 8, .null⟩

def clicked : State LoadDraftDb Uuid Bool DraftFrame LoadDraft := begin noDraft (fun i => (click i).start 1)

def advances (i : Bool) (n : ℕ) : List (Event Bool) := List.replicate n (.advance i)

def oneByOne : List (Event Bool) := advances false 5 ++ advances true 4

def together : List (Event Bool) := advances false 3 ++ advances true 3 ++ advances false 2 ++ advances true 2

end Sample

open Sample in
theorem create_idempotent_sample : ∃ s, Run (Enabled (ReadCommitted.step (code LoadDraftDb.create lost))) clicked oneByOne s ∧
    ∀ i, ∃ draft, s.committed.drafts.get 7 = some draft ∧
      (s.session i).frame = .answered (.ok (toDetail draft customer upload)) := by
  have hchecked : (oneByOne.foldlM (checked (ReadCommitted.step (code LoadDraftDb.create lost))
      (Vacant (fun d => d.drafts.get 7))) clicked).any (fun s => ∀ i, (s.session i).frame.ended = true) = true := by
    decide +kernel
  obtain ⟨s, hs, hanswered⟩ := (Option.any_eq_true _ _).mp hchecked
  have hrun := run_checked hs
  exact ⟨s, hrun.unguarded, (@create_idempotent_iff Bool _ noDraft 1 upload click (fun _ => customer) _ _ (fun i => by
    cases i <;> decide) (fun i => by cases i <;> rfl) (by nofun) hrun.unguarded (of_decide_eq_true hanswered)).mpr hrun⟩

open Sample in
theorem double_click_fails : ∃ s, Run (Enabled (ReadCommitted.step (code LoadDraftDb.create lost))) clicked together s ∧
    (s.committed.drafts.get 7).map LoadDraft.id = some 10 ∧
    (s.session true).frame = .answered (.error (.failed transactionAborted)) :=
  ⟨_, (run_enabled_iff _ _ _ _).mpr rfl, rfl, rfl⟩

end LoadDraftService

end Truckmaster.LoadDrafts
