import Truckmaster.Documents.DocumentFamilies

namespace Truckmaster.Documents

open Common Fallible Tables

inductive DocumentGenerationStatus
  | pending | complete | failed
  deriving DecidableEq, Repr

structure SearchedDocument extends DocumentVersion where
  generationStatus : Option DocumentGenerationStatus := none
  deriving DecidableEq, Repr

structure NamedRow where
  id : Uuid
  texts : List String
  deriving DecidableEq, Repr

structure InvoiceRow where
  id : Uuid
  invoiceNumber : String
  accountOwnerUserId : Option Uuid
  createdByUserId : Uuid
  deriving DecidableEq, Repr

structure StopRow where
  id : Uuid
  loadId : Uuid
  deriving DecidableEq, Repr

structure SearchDb where
  documents : Table (fun d : SearchedDocument => d.id)
  documentTypeLabel : Uuid → String
  loads : List NamedRow := []
  stops : List StopRow := []
  customers : List NamedRow := []
  carriers : List NamedRow := []
  drivers : List NamedRow := []
  trucks : List NamedRow := []
  trailers : List NamedRow := []
  invoices : Table InvoiceRow.id := .empty
  carrierPayments : List NamedRow := []

structure DocumentSearchFilters where
  q : Option String := none
  entityType : Option DocumentEntityType := none
  documentTypeId : Option Uuid := none
  scanStatus : Option DocumentScanStatus := none
  reviewStatus : Option DocumentReviewStatus := none
  generationStatus : Option DocumentGenerationStatus := none
  uploadedFrom : Option Instant := none
  uploadedTo : Option Instant := none

/-- The viewer, the organization, the orders of the rows of the queries, and `contains` of mode insensitive. -/
structure SearchRequest where
  organizationId : Uuid
  actingUserId : Uuid
  actingRoles : List MembershipRoleName
  filters : DocumentSearchFilters
  order : ℕ → RowOrder
  contains : String → String → Bool

def financialViewRoles : List MembershipRoleName := [.admin, .accounting, .operationsManager]

def hasFinancialView (actingRoles : List MembershipRoleName) : Bool :=
  actingRoles.any (fun r => financialViewRoles.contains r)

namespace DocumentService

def isOwnDeal (customer : InvoiceRow) (actingUserId : Uuid) : Bool :=
  match customer.accountOwnerUserId with
  | some accountOwnerUserId => accountOwnerUserId == actingUserId
  | none => customer.createdByUserId == actingUserId

def assertViewPermission (db : SearchDb) (o : RowOrder) (actingUserId : Uuid) (actingRoles : List MembershipRoleName)
    (entityType : DocumentEntityType) (entityId : Uuid) : Except AppError Unit :=
  match entityType with
  | .carrierPayment => ensure (hasFinancialView actingRoles)
      (.permission "You do not have permission to view Carrier Payment documents.")
  | .invoice =>
    if hasFinancialView actingRoles then .ok ()
    else ensure (.salesBooking ∈ actingRoles ∧
        (findFirst o (fun i => i.id == entityId) db.invoices.rows).any (fun invoice => isOwnDeal invoice actingUserId))
      (.permission "You do not have permission to view Invoice documents.")
  | _ => .ok ()

end DocumentService

namespace DocumentSearchService

inductive InvoiceVisibility
  | all
  | none
  | owned (ids : List Uuid)

def resolveInvoiceVisibility (db : SearchDb) (o : RowOrder) (actingUserId : Uuid)
    (actingRoles : List MembershipRoleName) : InvoiceVisibility :=
  if hasFinancialView actingRoles then .all
  else if .salesBooking ∉ actingRoles then .none
  else .owned ((findMany o (fun i => i.accountOwnerUserId == some actingUserId ||
    i.accountOwnerUserId.isNone && i.createdByUserId == actingUserId) db.invoices.rows).map InvoiceRow.id)

def cap : ℕ := 200

def lookUp (r : SearchRequest) (n : ℕ) (q : String) (rows : List NamedRow) : List Uuid :=
  ((findMany (r.order n) (fun row => row.texts.any (fun text => r.contains text q)) rows).take cap).map NamedRow.id

def attached (entityType : DocumentEntityType) (ids : List Uuid) (d : SearchedDocument) : Bool :=
  d.entityType == entityType && ids.contains d.entityId

def resolveSearchClauses (db : SearchDb) (r : SearchRequest) (q : String) : List (SearchedDocument → Bool) :=
  let loadIds := lookUp r 0 q db.loads
  let stopIds := ((findMany (r.order 1) (fun s => loadIds.contains s.loadId) db.stops).take cap).map StopRow.id
  [fun d => r.contains d.fileName q,
    fun d => r.contains (db.documentTypeLabel d.documentTypeId) q,
    fun d => d.customTypeLabel.any (fun label => r.contains label q),
    attached .load loadIds,
    attached .stop stopIds,
    attached .customer (lookUp r 2 q db.customers),
    attached .carrier (lookUp r 3 q db.carriers),
    attached .driver (lookUp r 4 q db.drivers),
    attached .truck (lookUp r 5 q db.trucks),
    attached .trailer (lookUp r 6 q db.trailers),
    attached .invoice (lookUp r 7 q (db.invoices.rows.map fun i => ⟨i.id, [i.invoiceNumber]⟩)),
    attached .carrierPayment (lookUp r 8 q db.carrierPayments)]

def matchesFilters (filters : DocumentSearchFilters) (d : SearchedDocument) : Bool :=
  filters.entityType.all (fun entityType => d.entityType == entityType) &&
    filters.documentTypeId.all (fun documentTypeId => d.documentTypeId == documentTypeId) &&
    filters.scanStatus.all (fun scanStatus => d.scanStatus == scanStatus) &&
    filters.reviewStatus.all (fun reviewStatus => d.reviewStatus == some reviewStatus) &&
    filters.generationStatus.all (fun generationStatus => d.generationStatus == some generationStatus) &&
    filters.uploadedFrom.all (fun uploadedFrom => decide (uploadedFrom ≤ d.uploadedAt)) &&
    filters.uploadedTo.all (fun uploadedTo => decide (d.uploadedAt ≤ uploadedTo))

def DocumentSearchFilters.term (filters : DocumentSearchFilters) : Option String :=
  (filters.q.map trim).filter (fun q => q ≠ "")

def carrierPaymentExclusion (actingRoles : List MembershipRoleName) (d : SearchedDocument) : Bool :=
  hasFinancialView actingRoles || d.entityType != .carrierPayment

def invoiceExclusion (visibility : InvoiceVisibility) (d : SearchedDocument) : Bool :=
  match visibility with
  | .all => true
  | .none => d.entityType != .invoice
  | .owned ids => !(d.entityType == .invoice && !ids.contains d.entityId)

def buildWhere (db : SearchDb) (r : SearchRequest) (d : SearchedDocument) : Bool :=
  d.organizationId == r.organizationId && d.isCurrentVersion && matchesFilters r.filters d &&
    (DocumentSearchFilters.term r.filters).all (fun q => (resolveSearchClauses db r q).any (fun clause => clause d)) &&
    carrierPaymentExclusion r.actingRoles d &&
    invoiceExclusion (resolveInvoiceVisibility db (r.order 9) r.actingUserId r.actingRoles) d

/-- The rows of the export, and the ones that the pages of the search are cut from. -/
def selected (db : SearchDb) (r : SearchRequest) : List SearchedDocument :=
  findMany (r.order 10) (buildWhere db r) db.documents.rows

variable {db : SearchDb} {r : SearchRequest} {d : SearchedDocument} {o : RowOrder} {actingUserId : Uuid}
  {actingRoles : List MembershipRoleName}

lemma isOwnDeal_iff (i : InvoiceRow) : DocumentService.isOwnDeal i actingUserId =
    (i.accountOwnerUserId == some actingUserId || i.accountOwnerUserId.isNone && i.createdByUserId == actingUserId) := by
  unfold DocumentService.isOwnDeal
  cases i.accountOwnerUserId <;> simp

lemma owned_iff (db : SearchDb) (actingUserId : Uuid) (o o' : RowOrder) (entityId : Uuid) :
    (findFirst o (fun i => i.id == entityId) db.invoices.rows).any
        (fun invoice => DocumentService.isOwnDeal invoice actingUserId) = true ↔
      entityId ∈ (findMany o' (fun i => i.accountOwnerUserId == some actingUserId ||
        i.accountOwnerUserId.isNone && i.createdByUserId == actingUserId) db.invoices.rows).map InvoiceRow.id := by
  simp only [List.mem_map, mem_findMany, ← isOwnDeal_iff]
  rw [Option.any_eq_true]
  constructor
  · rintro ⟨invoice, hfound, hown⟩
    obtain ⟨hmem, hid⟩ := findFirst_some hfound
    exact ⟨invoice, ⟨hmem, hown⟩, beq_iff_eq.mp hid⟩
  · rintro ⟨invoice, ⟨hmem, hown⟩, rfl⟩
    have hfound : (findFirst o (fun i => i.id == invoice.id) db.invoices.rows).isSome := by
      rw [Option.isSome_iff_ne_none]
      intro hnone
      simpa using findFirst_none.mp hnone invoice hmem
    obtain ⟨other, hother⟩ := Option.isSome_iff_exists.mp hfound
    obtain ⟨hmem', hid⟩ := findFirst_some hother
    obtain rfl := db.invoices.eq_of_key hmem' hmem (beq_iff_eq.mp hid)
    exact ⟨other, hother, hown⟩

lemma exclusions_iff (o o' : RowOrder) :
    (carrierPaymentExclusion actingRoles d &&
      invoiceExclusion (resolveInvoiceVisibility db o' actingUserId actingRoles) d) = true ↔
      DocumentService.assertViewPermission db o actingUserId actingRoles d.entityType d.entityId = .ok () := by
  unfold resolveInvoiceVisibility
  cases hfinancial : hasFinancialView actingRoles with
  | true =>
    refine iff_of_true (by simp [carrierPaymentExclusion, invoiceExclusion, hfinancial]) ?_
    cases d.entityType <;> simp [DocumentService.assertViewPermission, hfinancial, ensure_eq_ok]
  | false =>
    cases htype : d.entityType with
    | carrierPayment =>
      simp [carrierPaymentExclusion, DocumentService.assertViewPermission, hfinancial, htype, ensure_eq_ok]
    | invoice =>
      have hown := owned_iff db actingUserId o o' d.entityId
      simp only [DocumentService.assertViewPermission, hfinancial, Bool.false_eq_true, if_false, ensure_eq_ok, hown]
      by_cases hsales : .salesBooking ∈ actingRoles
      · simp [carrierPaymentExclusion, invoiceExclusion, htype, hsales]
      · simp [carrierPaymentExclusion, invoiceExclusion, htype, hsales]
    | _ =>
      by_cases hsales : .salesBooking ∈ actingRoles <;>
        simp [carrierPaymentExclusion, invoiceExclusion, DocumentService.assertViewPermission, htype, hsales]

lemma buildWhere_iff (o : RowOrder) : buildWhere db r d = true ↔
    (d.organizationId = r.organizationId ∧ d.isCurrentVersion = true ∧ matchesFilters r.filters d = true) ∧
      (∀ q ∈ DocumentSearchFilters.term r.filters, ∃ clause ∈ resolveSearchClauses db r q, clause d = true) ∧
      DocumentService.assertViewPermission db o r.actingUserId r.actingRoles d.entityType d.entityId = .ok () := by
  rw [← exclusions_iff o (r.order 9)]
  simp only [buildWhere, Bool.and_eq_true, beq_iff_eq, Option.all_eq_true, List.any_eq_true]
  tauto

theorem search_agrees (db : SearchDb) (r : SearchRequest) (o : RowOrder) :
    (∀ d ∈ selected db r, d ∈ db.documents.rows ∧
      DocumentService.assertViewPermission db o r.actingUserId r.actingRoles d.entityType d.entityId = .ok ()) ∧
    ((∀ q ∈ r.filters.q, trim q = "") → ∀ d ∈ db.documents.rows, d.organizationId = r.organizationId →
      d.isCurrentVersion = true → matchesFilters r.filters d = true →
      DocumentService.assertViewPermission db o r.actingUserId r.actingRoles d.entityType d.entityId = .ok () →
      d ∈ selected db r) := by
  simp only [selected, mem_findMany, buildWhere_iff o]
  refine ⟨?_, fun hblank d hmem horganization hcurrent hmatches hview => ?_⟩
  · rintro d ⟨hmem, _, _, hview⟩
    exact ⟨hmem, hview⟩
  refine ⟨hmem, ⟨horganization, hcurrent, hmatches⟩, fun q hq => ?_, hview⟩
  obtain ⟨hterm, hne⟩ := Option.mem_filter_iff.mp hq
  obtain ⟨text, htext, rfl⟩ := Option.map_eq_some_iff.mp hterm
  exact absurd (hblank text htext) (of_decide_eq_true hne)

namespace Sample

def invoiceDocument (id entityId : Uuid) : SearchedDocument :=
  { id, organizationId := 1, entityType := .invoice, entityId, fileStorageKey := .documents 1 id
    fileName := "invoice.pdf", uploadedByUserId := 0, documentFamilyId := id, documentTypeId := 1, fileSizeBytes := 1
    mimeType := .pdf, uploadedAt := 0 }

def searchDb : SearchDb where
  documents := ⟨[invoiceDocument 10 20, invoiceDocument 11 21], by decide⟩
  documentTypeLabel _ := "Invoice"
  invoices := ⟨[⟨20, "INV-1", some 5, 6⟩, ⟨21, "INV-2", some 6, 5⟩], by decide⟩

def salesSearch : SearchRequest := ⟨1, 5, [.salesBooking], {}, fun _ => .stored, fun _ _ => false⟩

end Sample

theorem search_agrees_sample : Sample.invoiceDocument 10 20 ∈ selected Sample.searchDb Sample.salesSearch ∧
    Sample.invoiceDocument 11 21 ∉ selected Sample.searchDb Sample.salesSearch :=
  ⟨(search_agrees Sample.searchDb Sample.salesSearch .stored).2 (by nofun) _ (by decide) rfl rfl rfl rfl, by decide⟩

end DocumentSearchService

end Truckmaster.Documents
