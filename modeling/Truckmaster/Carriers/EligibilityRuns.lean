import Truckmaster.Carriers.Eligibility
import Truckmaster.Documents.FamilyVersions

namespace Truckmaster.Carriers

open Common Documents DocumentService Fallible Runs Tables Transactions CarrierEligibilityService

inductive EligibilityOp
  | initiateUpload (dto : CreateDocumentInput)
  | review (documentId : Uuid) (decision : ReviewDecision)
  | applyScanResult (documentId : Uuid) (result : MalwareScanResult)
  | deleteDocumentFamily (documentId : Uuid)
  | addInsurance (carrierId : Uuid) (dto : AddCarrierInsuranceInput)
  | addFmcsaVerification (carrierId : Uuid) (dto : AddFmcsaVerificationInput)
  | activate (carrierId : Uuid)
  | blockCarrier (carrierId : Uuid) (dto : CarrierLifecycleReasonInput)
  | deactivateCarrier (carrierId : Uuid) (dto : CarrierLifecycleReasonInput)
  | reactivateCarrier (carrierId : Uuid) (dto : CarrierLifecycleReasonInput)

structure EligibilityCall where
  context : DocumentContext
  request : Request
  op : EligibilityOp

namespace CarrierDb

def documentContext (d : CarrierDb) (x : DocumentContext) : DocumentContext :=
  { x with
    documentTypes := d.documentTypes
    entityExists := fun entityType id =>
      match entityType with
      | .carrier => d.carriers.rows.any (fun c => c.id == id)
      | .driver => d.drivers.rows.any (fun v => v.id == id)
      | other => x.entityExists other id
    inInsurance := fun id => d.insuranceRecords.any (fun r => r.coiDocumentId == id) }

def withStore (d : CarrierDb) (s : DocumentStore) : CarrierDb := { d with toDocumentStore := s }

/-- The review of a carrier's Document recalculates the carrier's eligibility in the same transaction. -/
def review (x : DocumentContext) (q : Request) (d : CarrierDb) (documentId : Uuid) (decision : ReviewDecision) :
    Except AppError CarrierDb := do
  let (store, document) ← DocumentService.review (d.documentContext x) q d.toDocumentStore documentId decision
  if document.entityType = .carrier then
    (recalculate q document.entityId).exec CarrierDb.write (d.withStore store)
  else pure (d.withStore store)

end CarrierDb

namespace EligibilityCall

def exec (c : EligibilityCall) (d : CarrierDb) : Except AppError CarrierDb :=
  let x := d.documentContext c.context
  match c.op with
  | .initiateUpload dto => d.withStore <$> DocumentService.initiateUpload x c.request d.toDocumentStore dto
  | .review documentId decision => d.review c.context c.request documentId decision
  | .applyScanResult documentId result =>
    .ok (d.withStore (DocumentService.applyScanResult x c.request d.toDocumentStore documentId result).1)
  | .deleteDocumentFamily documentId =>
    d.withStore <$> DocumentService.deleteDocumentFamily x c.request d.toDocumentStore documentId
  | .addInsurance carrierId dto => (CarrierService.addInsurance c.request carrierId dto).exec CarrierDb.write d
  | .addFmcsaVerification carrierId dto =>
    (CarrierService.addFmcsaVerification c.request carrierId dto).exec CarrierDb.write d
  | .activate carrierId => (CarrierService.activate c.request carrierId).exec CarrierDb.write d
  | .blockCarrier carrierId dto => (CarrierService.blockCarrier c.request carrierId dto).exec CarrierDb.write d
  | .deactivateCarrier carrierId dto =>
    (CarrierService.deactivateCarrier c.request carrierId dto).exec CarrierDb.write d
  | .reactivateCarrier carrierId dto =>
    (CarrierService.reactivateCarrier c.request carrierId dto).exec CarrierDb.write d

end EligibilityCall

def suppliesTo (d : CarrierDb) (dto : CreateDocumentInput) (carrierId : Uuid) (code : String) : Bool :=
  dto.entityType == .carrier && dto.entityId == carrierId &&
    (d.documentTypes.find? (fun t => t.id == dto.documentTypeId)).map (fun t => t.code) == some code

/-- Every required Document counts as approved without the rows that go as it does with them; a row that is `added`
is not approved yet. -/
def Undisturbed (d : CarrierDb) (carrierId : Uuid) (gone : DocumentVersion → Bool) (added : String → Bool) : Prop :=
  ∀ docs, Answer (isComplianceDocument d.documentTypes carrierId) byUploadedAtDesc d.documents.rows docs →
    ∀ code ∈ requiredComplianceCodes, isApproved d.documentTypes docs code =
      (!added code && isApproved d.documentTypes (docs.filter (fun v => !gone v)) code)

/-- With the version of the named family that the upload supersedes. -/
def UploadUndisturbed (carrierId : Uuid) (d : CarrierDb) (dto : CreateDocumentInput) : Prop :=
  match dto.existingDocumentFamilyId with
  | none => Undisturbed d carrierId (fun _ => false) (suppliesTo d dto carrierId)
  | some family => ∀ v ∈ d.documents.rows, v.documentFamilyId = family → v.isCurrentVersion →
    Undisturbed d carrierId (fun w => w.id == v.id) (suppliesTo d dto carrierId)

/-- An upload or a deletion that is accepted does not disturb the carrier's required Documents. -/
def LeavesApproval (carrierId : Uuid) (d : CarrierDb) (c : EligibilityCall) : Prop :=
  match c.op with
  | .initiateUpload dto =>
    (checkUpload (d.documentContext c.context) c.request dto).toOption.isSome →
      UploadUndisturbed carrierId d dto
  | .deleteDocumentFamily documentId =>
    includesRole podUploadRoles c.context.roles → ∀ v ∈ d.documents.rows, v.id = documentId →
      (∀ w ∈ d.documents.rows, w.documentFamilyId = v.documentFamilyId →
        c.context.inLoadDraft w.id = false ∧ (d.documentContext c.context).inInsurance w.id = false) →
      Undisturbed d carrierId (fun w => w.documentFamilyId == v.documentFamilyId) (fun _ => false)
  | _ => True

section Documents

variable {d t : CarrierDb} {s : DocumentStore} {x : DocumentContext} {q : Request} {carrierId : Uuid} {now : Instant}
  {dto : CreateDocumentInput} {docs : List DocumentVersion} {new : DocumentVersion} {code : String}

lemma documentReasons_congr {documentTypes : List DocumentTypeDefinition} {docs docs' : List DocumentVersion}
    (h : ∀ code ∈ requiredComplianceCodes, isApproved documentTypes docs' code = isApproved documentTypes docs code) :
    documentReasons documentTypes docs' = documentReasons documentTypes docs := by
  unfold documentReasons
  rw [List.filter_congr (fun code hcode => congrArg _ (h code hcode))]

def approvedAs (id : Uuid) (v : DocumentVersion) : Bool := v.id == id && v.reviewStatus == some .approved

lemma insuranceReasons_congr {documents documents' : List DocumentVersion} {records : List CarrierInsurance}
    (h : ∀ r ∈ records, documents'.any (approvedAs r.coiDocumentId) = documents.any (approvedAs r.coiDocumentId)) :
    insuranceReasons now documents' records = insuranceReasons now documents records := by
  have hcovered (coverageType : InsuranceCoverageType) :
      isCovered now documents' records coverageType = isCovered now documents records coverageType := by
    unfold approvedAs at h
    rw [Bool.eq_iff_iff, isCovered, isCovered, List.any_eq_true, List.any_eq_true]
    exact exists_congr (fun r => and_congr_right (fun hr => by rw [h r hr]))
  simp only [insuranceReasons, hcovered]

lemma withStore_coherent
    (hdocs : ∀ docs, Answer (isComplianceDocument d.documentTypes carrierId) byUploadedAtDesc d.documents.rows docs →
      ∃ docs', Answer (isComplianceDocument d.documentTypes carrierId) byUploadedAtDesc s.documents.rows docs' ∧
        ∀ code ∈ requiredComplianceCodes, isApproved d.documentTypes docs' code = isApproved d.documentTypes docs code)
    (hinsured : ∀ r ∈ d.insuranceRecords, r.carrierId = carrierId →
      s.documents.rows.any (approvedAs r.coiDocumentId) = d.documents.rows.any (approvedAs r.coiDocumentId))
    (hd : d.CoherentAt now carrierId) : (d.withStore s).CoherentAt now carrierId := by
  intro c hc hid
  subst hid
  obtain ⟨reasons, ⟨docs, hanswer, verifications, hverifications, rfl⟩, hrow⟩ := hd c hc rfl
  obtain ⟨docs', hanswer', happroved⟩ := hdocs docs hanswer
  refine ⟨_, ⟨docs', hanswer', verifications, hverifications, ?_⟩, hrow⟩
  rw [show (d.withStore s).documentTypes = d.documentTypes from rfl, documentReasons_congr happroved]
  congr 3
  refine (insuranceReasons_congr (fun r hr => ?_)).symm
  obtain ⟨hr, hcarrier⟩ := List.mem_filter.mp hr
  exact hinsured r hr (beq_iff_eq.mp hcarrier)

lemma keepsRow_codeOf {f : DocumentVersion → DocumentVersion} (h : KeepsRow f)
    (documentTypes : List DocumentTypeDefinition) (v : DocumentVersion) :
    codeOf documentTypes (f v) = codeOf documentTypes v := by
  have htype : (f v).documentTypeId = v.documentTypeId := congrArg (fun o => o.2.2) (h.owner v)
  rw [CarrierEligibilityService.codeOf, CarrierEligibilityService.codeOf, htype]

lemma keepsRow_isComplianceDocument {f : DocumentVersion → DocumentVersion} (h : KeepsRow f)
    (documentTypes : List DocumentTypeDefinition) (carrierId : Uuid) (v : DocumentVersion) :
    isComplianceDocument documentTypes carrierId (f v) = isComplianceDocument documentTypes carrierId v := by
  have htype : (f v).entityType = v.entityType := congrArg (fun o => o.1) (h.owner v)
  have hid : (f v).entityId = v.entityId := congrArg (fun o => o.2.1) (h.owner v)
  rw [CarrierEligibilityService.isComplianceDocument, CarrierEligibilityService.isComplianceDocument, htype, hid,
    h.current, keepsRow_codeOf h]

lemma insured_of_kept (hkept : ∀ u ∈ d.documents.rows, (∃ r ∈ d.insuranceRecords, r.coiDocumentId = u.id) →
      ∃ v ∈ s.documents.rows, v.id = u.id ∧ v.owner = u.owner) (hd : d.Insured) : (d.withStore s).Insured := by
  intro r hr
  obtain ⟨u, hu, hid, htype, hcarrier⟩ := hd r hr
  obtain ⟨v, hv, hsame, howner⟩ := hkept u hu ⟨r, hr, hid.symm⟩
  refine ⟨v, hv, hsame.trans hid, ?_, ?_⟩
  · exact (congrArg (fun o => o.1) howner).trans htype
  · exact (congrArg (fun o => o.2.1) howner).trans hcarrier

lemma keepsRow_insured {f : DocumentVersion → DocumentVersion} (h : KeepsRow f)
    (hs : s.documents.rows = d.documents.rows.map f) (hd : d.Insured) : (d.withStore s).Insured := by
  refine insured_of_kept (fun u hu _ => ⟨f u, ?_, h.id u, h.owner u⟩) hd
  rw [hs]
  exact List.mem_map_of_mem hu

lemma keepsRow_wellFormed {f : DocumentVersion → DocumentVersion} (h : KeepsRow f)
    (hs : s.documents.rows = d.documents.rows.map f) (hd : d.WellFormed now) : (d.withStore s).WellFormed now := by
  refine ⟨fun v hv => ?_, keepsRow_insured h hs hd.insured⟩
  change v ∈ s.documents.rows at hv
  rw [hs] at hv
  obtain ⟨u, hu, rfl⟩ := List.mem_map.mp hv
  rw [h.uploadedAt]
  exact hd.past u hu

lemma keepsReview_coherent {f : DocumentVersion → DocumentVersion} (h : KeepsRow f)
    (hreview : ∀ v, (f v).reviewStatus = v.reviewStatus) (hs : s.documents.rows = d.documents.rows.map f)
    (hd : d.CoherentAt now carrierId) : (d.withStore s).CoherentAt now carrierId := by
  refine withStore_coherent (fun docs hanswer => ⟨docs.map f, ?_, fun code _ => ?_⟩) (fun r _ _ => ?_) hd
  · rw [hs]
    refine hanswer.map (keepsRow_isComplianceDocument h _ _) (fun a b hab => ?_)
    rwa [byUploadedAtDesc, h.uploadedAt, h.uploadedAt]
  · simp only [isApproved, List.find?_map, Option.any_map, Function.comp_def, keepsRow_codeOf h, hreview]
  · simp only [hs, List.any_map, Function.comp_def, approvedAs, h.id, hreview]
    rfl

lemma otherRow_coherent {f : DocumentVersion → DocumentVersion} (h : KeepsRow f) {document : DocumentVersion}
    (hmem : document ∈ d.documents.rows) (hother : document.entityType = .carrier → document.entityId ≠ carrierId)
    (hs : s.documents.rows = d.documents.rows.map (fun v => if v.id = document.id then f v else v))
    (hwell : d.WellFormed now) (hd : d.CoherentAt now carrierId) : (d.withStore s).CoherentAt now carrierId := by
  have hf := h.on (fun v => v.id = document.id)
  have hnot {v : DocumentVersion} (hv : v ∈ d.documents.rows) (htype : v.entityType = .carrier)
      (hcarrier : v.entityId = carrierId) : v.id ≠ document.id := by
    intro heq
    obtain rfl := d.documents.eq_of_key hv hmem heq
    exact hother htype hcarrier
  have hfilter : s.documents.rows.filter (isComplianceDocument d.documentTypes carrierId) =
      d.documents.rows.filter (isComplianceDocument d.documentTypes carrierId) := by
    rw [hs, List.filter_map, Function.comp_def]
    simp only [keepsRow_isComplianceDocument hf]
    refine (List.map_congr_left (fun v hv => if_neg ?_)).trans (List.map_id _)
    obtain ⟨hv, hp⟩ := List.mem_filter.mp hv
    simp only [isComplianceDocument, Bool.and_eq_true, beq_iff_eq] at hp
    exact hnot hv hp.1.1.1 hp.1.1.2
  refine withStore_coherent (fun docs hanswer => ⟨docs, (answer_congr hfilter).mpr hanswer, fun _ _ => rfl⟩)
    (fun r hr hcarrier => ?_) hd
  obtain ⟨v, hv, hid, htype, hentity⟩ := hwell.insured r hr
  have hcoi : document.id ≠ r.coiDocumentId := fun heq => hnot hv htype (hentity.trans hcarrier) (hid.trans heq.symm)
  rw [hs, List.any_map]
  congr 1
  funext w
  simp only [Function.comp_apply, approvedAs]
  split_ifs with hw
  · rw [h.id, hw, beq_eq_false_iff_ne.mpr hcoi, Bool.false_and, Bool.false_and]
  · rfl

lemma review_coherent {documentId : Uuid} {decision : ReviewDecision}
    (h : d.review x q documentId decision = .ok t) (hwell : d.WellFormed q.now) (hd : d.CoherentAt q.now carrierId) :
    t.CoherentAt q.now carrierId ∧ t.WellFormed q.now := by
  simp only [CarrierDb.review, bind_eq_ok] at h
  obtain ⟨⟨store, document⟩, hreview, hrest⟩ := h
  obtain ⟨hmem, rfl⟩ := review_found hreview
  have hrows := review_rows hreview
  have hkeeps := keepsRow_decided q decision
  have hstore := keepsRow_wellFormed (hkeeps.on (fun v => v.id = document.id)) hrows hwell
  have hother (hne : document.entityType = .carrier → document.entityId ≠ carrierId) :=
    otherRow_coherent hkeeps hmem hne hrows hwell hd
  dsimp only at hrest
  split at hrest
  next hcarrier =>
    obtain ⟨result, hrun⟩ := Txn.exec_eq_ok.mp hrest
    have honly := run_about (writes_recalculate (routine_about document.entityId) q) hrun
    refine ⟨?_, hstore.of_same honly.documents honly.insurance⟩
    by_cases hid : document.entityId = carrierId
    · exact hid ▸ recalculate_coherent q document.entityId _ _ _ hrun
    · exact (honly.others carrierId (Ne.symm hid)).coherent (hother (fun _ => hid))
  next hcarrier =>
    obtain rfl := pure_eq_ok.mp hrest
    exact ⟨hother (fun htype => absurd htype hcarrier), hstore⟩

lemma isApproved_enter {documentTypes : List DocumentTypeDefinition} (hnew : new.reviewStatus ≠ some .approved)
    (docs : List DocumentVersion) (code : String) :
    isApproved documentTypes (new :: docs) code =
      (!(codeOf documentTypes new == some code) && isApproved documentTypes docs code) := by
  unfold isApproved
  rw [List.find?_cons]
  split
  next h =>
    rw [h]
    simpa using hnew
  next h =>
    rw [h]
    rfl

lemma enter_coherent (new : DocumentVersion) {gone : DocumentVersion → Bool} {added : String → Bool}
    (hd : d.CoherentAt now carrierId) (hgone : Undisturbed d carrierId gone added) (hnew : new.reviewStatus ≠ some .approved)
    (hlatest : ∀ v ∈ d.documents.rows, v.uploadedAt ≤ new.uploadedAt)
    (hadded : ∀ code ∈ requiredComplianceCodes, added code =
      (isComplianceDocument d.documentTypes carrierId new && codeOf d.documentTypes new == some code))
    (hrows : ∀ p : DocumentVersion → Bool, (∀ v, p v → v.isCurrentVersion) →
      s.documents.rows.filter p = (d.documents.rows.filter p).filter (fun v => !gone v) ++ [new].filter p)
    (hinsured : ∀ id, s.documents.rows.any (approvedAs id) = d.documents.rows.any (approvedAs id)) :
    (d.withStore s).CoherentAt now carrierId := by
  refine withStore_coherent (fun docs hanswer => ?_) (fun r _ _ => hinsured r.coiDocumentId) hd
  have hcurrent (v : DocumentVersion) (hv : isComplianceDocument d.documentTypes carrierId v) : v.isCurrentVersion := by
    simp only [isComplianceDocument, Bool.and_eq_true] at hv
    exact hv.1.2
  have hfilter := hrows _ hcurrent
  cases hcompliance : isComplianceDocument d.documentTypes carrierId new with
  | false =>
    have hleft : s.documents.rows.filter (isComplianceDocument d.documentTypes carrierId) =
        (d.documents.rows.filter (isComplianceDocument d.documentTypes carrierId)).filter (fun v => !gone v) := by
      rw [hfilter, List.filter_cons_of_neg (by simp [hcompliance]), List.filter_nil, List.append_nil]
    refine ⟨docs.filter (fun v => !gone v), hanswer.keep hleft, fun code hcode => ?_⟩
    rw [hgone docs hanswer code hcode, hadded code hcode, hcompliance]
    rfl
  | true =>
    have hleft : Answer (isComplianceDocument d.documentTypes carrierId) byUploadedAtDesc
        (d.documents.rows.filter (fun v => !gone v)) (docs.filter (fun v => !gone v)) :=
      hanswer.keep (by simp [List.filter_filter, Bool.and_comm])
    refine ⟨new :: docs.filter (fun v => !gone v), hleft.enter ?_ ?_, fun code hcode => ?_⟩
    · rw [hfilter, List.filter_cons_of_pos hcompliance, List.filter_nil, List.filter_filter, List.filter_filter]
      simp only [Bool.and_comm]
    · exact fun v hv => hlatest v (List.mem_filter.mp hv).1
    · rw [isApproved_enter hnew, hgone docs hanswer code hcode, hadded code hcode, hcompliance, Bool.true_and]

lemma uploaded_notApproved {type : DocumentTypeDefinition} {family : Uuid} {n : ℕ} :
    (uploaded x q dto type family n).reviewStatus ≠ some .approved := by
  simp only [uploaded, ne_eq, Option.some.injEq]
  split <;> rintro ⟨⟩

lemma suppliesTo_uploaded {type : DocumentTypeDefinition} {family : Uuid} {n : ℕ}
    (hcode : code ∈ requiredComplianceCodes) :
    suppliesTo d dto carrierId code =
      (isComplianceDocument d.documentTypes carrierId (uploaded x q dto type family n) &&
        codeOf d.documentTypes (uploaded x q dto type family n) == some code) := by
  have hrequired : requiredComplianceCodes.contains code = true := List.contains_iff_mem.mpr hcode
  change (_ && codeOf d.documentTypes (uploaded x q dto type family n) == some code) = _
  by_cases hof : codeOf d.documentTypes (uploaded x q dto type family n) = some code
  · simp only [isComplianceDocument, hof, Option.any_some, hrequired, Bool.and_true, beq_self_eq_true]
    exact (Bool.and_true _).symm
  · rw [beq_eq_false_iff_ne.mpr hof, Bool.and_false, Bool.and_false]

lemma any_approvedAs_enter {rows : List DocumentVersion} (hnew : new.reviewStatus ≠ some .approved) (id : Uuid) :
    (rows ++ [new]).any (approvedAs id) = rows.any (approvedAs id) := by
  rw [List.any_append, List.any_cons, approvedAs, beq_eq_false_iff_ne.mpr hnew, Bool.and_false]
  exact Bool.or_false _

lemma upload_wellFormed {type : DocumentTypeDefinition} {family : Uuid} {n : ℕ} {left : List DocumentVersion}
    (hrows : s.documents.rows = left ++ [uploaded x q dto type family n])
    (hold : ∀ v ∈ left, ∃ u ∈ d.documents.rows, v.uploadedAt = u.uploadedAt) (hinsured : (d.withStore s).Insured)
    (hwell : d.WellFormed q.now) : (d.withStore s).WellFormed q.now := by
  refine ⟨fun v hv => ?_, hinsured⟩
  change v ∈ s.documents.rows at hv
  rw [hrows] at hv
  rcases List.mem_append.mp hv with hleft | hnew
  · obtain ⟨u, hu, heq⟩ := hold v hleft
    exact heq ▸ hwell.past u hu
  · obtain rfl := List.mem_singleton.mp hnew
    exact le_rfl

lemma upload_insured (hup : Uploaded x q d.toDocumentStore dto s) (hd : d.Insured) : (d.withStore s).Insured := by
  refine insured_of_kept (fun u hu _ => ?_) hd
  cases hup with
  | first type hnone hrows =>
    rw [hrows]
    exact ⟨u, List.mem_append_left _ hu, rfl, rfl⟩
  | @version type family current front back hexisting hfound hbefore hrows =>
    rw [hbefore] at hu
    rw [hrows, List.append_assoc]
    rcases List.mem_append.mp hu with hfront | hrest
    · exact ⟨u, List.mem_append_left _ hfront, rfl, rfl⟩
    · rcases List.mem_cons.mp hrest with rfl | hback
      · exact ⟨superseded u, List.mem_append_right _ List.mem_cons_self, rfl, rfl⟩
      · exact ⟨u, List.mem_append_right _ (List.mem_cons_of_mem _ (List.mem_append_left _ hback)), rfl, rfl⟩

lemma upload_coherent (hup : Uploaded x q d.toDocumentStore dto s) (hwell : d.WellFormed q.now)
    (hd : d.CoherentAt q.now carrierId)
    (hgone : UploadUndisturbed carrierId d dto) :
    (d.withStore s).CoherentAt q.now carrierId ∧ (d.withStore s).WellFormed q.now := by
  have hinsured := upload_insured hup hwell.insured
  unfold UploadUndisturbed at hgone
  cases hup with
  | first type hnone hrows =>
    rw [hnone] at hgone
    constructor
    · refine enter_coherent (uploaded x q dto type (q.uuid 1) 1) hd hgone uploaded_notApproved hwell.past
        (fun _ hcode => suppliesTo_uploaded hcode) (fun p _ => ?_) (fun id => ?_)
      · rw [hrows, List.filter_append]
        exact congrArg (fun rows => rows ++ _) (List.filter_eq_self.mpr (fun _ _ => rfl)).symm
      · rw [hrows, any_approvedAs_enter uploaded_notApproved]
    · exact upload_wellFormed hrows (fun v hv => ⟨v, hv, rfl⟩) hinsured hwell
  | @version type family current front back hexisting hfound hbefore hrows =>
    rw [hexisting] at hgone
    obtain ⟨hmem, hfamily, hcurrent⟩ := currentVersion_some hfound
    constructor
    · refine enter_coherent (uploaded x q dto type family (current.versionNumber + 1)) hd
        (hgone current hmem hfamily hcurrent) uploaded_notApproved hwell.past
        (fun _ hcode => suppliesTo_uploaded hcode) (fun p hp => ?_) (fun id => ?_)
      · have hsuperseded : p (superseded current) = false := by
          by_contra h
          exact absurd (hp _ (Bool.not_eq_false _ ▸ h)) (by simp [superseded])
        rw [hrows, List.filter_filter, List.filter_append, List.filter_append,
          List.filter_cons_of_neg (by simp [hsuperseded]), ← List.filter_append,
          ← d.documents.filter_key_ne hbefore, List.filter_filter]
        simp only [Bool.and_comm]
      · rw [hrows, any_approvedAs_enter uploaded_notApproved, hbefore, List.any_append, List.any_append]
        rfl
    · refine upload_wellFormed hrows (fun v hv => ?_) hinsured hwell
      rcases List.mem_append.mp hv with hfront | hrest
      · exact ⟨v, hbefore ▸ List.mem_append_left _ hfront, rfl⟩
      · rcases List.mem_cons.mp hrest with rfl | hback
        · exact ⟨current, hmem, rfl⟩
        · exact ⟨v, hbefore ▸ List.mem_append_right _ (List.mem_cons_of_mem _ hback), rfl⟩

def Unreferenced (d : CarrierDb) (family : Uuid) : Prop :=
  ∀ v ∈ d.documents.rows, v.documentFamilyId = family → ∀ r ∈ d.insuranceRecords, r.coiDocumentId ≠ v.id

lemma deletion_insured {family : Uuid}
    (hrows : s.documents.rows = d.documents.rows.filter (fun v => v.documentFamilyId != family))
    (hfree : Unreferenced d family) (hd : d.Insured) : (d.withStore s).Insured := by
  refine insured_of_kept (fun u hu ⟨r, hr, hid⟩ => ⟨u, ?_, rfl, rfl⟩) hd
  rw [hrows, List.mem_filter, bne_iff_ne]
  exact ⟨hu, fun hfamily => hfree u hu hfamily r hr hid⟩

lemma deletion_coherent {family : Uuid}
    (hrows : s.documents.rows = d.documents.rows.filter (fun v => v.documentFamilyId != family))
    (hinsurance : Unreferenced d family)
    (hgone : Undisturbed d carrierId (fun v => v.documentFamilyId == family) (fun _ => false))
    (hwell : d.WellFormed now) (hd : d.CoherentAt now carrierId) :
    (d.withStore s).CoherentAt now carrierId ∧ (d.withStore s).WellFormed now := by
  refine ⟨?_, fun v hv => ?_, deletion_insured hrows hinsurance hwell.insured⟩
  · refine withStore_coherent (fun docs hanswer => ?_) (fun r hr _ => ?_) hd
    · refine ⟨docs.filter (fun v => !(v.documentFamilyId == family)), hanswer.keep ?_, fun code hcode => ?_⟩
      · rw [hrows, List.filter_filter, List.filter_filter]
        simp only [Bool.and_comm, bne]
      · rw [hgone docs hanswer code hcode]
        rfl
    · rw [hrows, List.any_filter, Bool.eq_iff_iff, List.any_eq_true, List.any_eq_true]
      refine exists_congr (fun v => and_congr_right (fun hv => ?_))
      simp only [approvedAs, bne_iff_ne, Bool.and_eq_true, beq_iff_eq, ne_eq, and_iff_right_iff_imp]
      exact fun happroved hfamily => hinsurance v hv hfamily r hr happroved.1.symm
  · change v ∈ s.documents.rows at hv
    rw [hrows] at hv
    exact hwell.past v (List.mem_filter.mp hv).1

lemma unreferenced_of {context : DocumentContext} {family : Uuid}
    (h : ∀ v ∈ d.documents.rows, v.documentFamilyId = family →
      context.inLoadDraft v.id = false ∧ (d.documentContext context).inInsurance v.id = false) :
    Unreferenced d family :=
  fun v hv hfamily r hr hcoi => List.any_eq_false.mp (h v hv hfamily).2 r hr (beq_iff_eq.mpr hcoi)

end Documents

section Runs

variable {d t : CarrierDb} {c : EligibilityCall} {calls : List EligibilityCall} {carrierId : Uuid} {now : Instant}

lemma recalculated_step {q : Request} {other : Uuid} (h : Recalculated q other d t) (hwell : d.WellFormed q.now)
    (hd : d.CoherentAt q.now carrierId) : t.CoherentAt q.now carrierId ∧ t.WellFormed q.now := by
  refine ⟨?_, h.wellFormed q.now hwell⟩
  by_cases hid : other = carrierId
  · exact hid ▸ h.coherent
  · exact (h.others carrierId (Ne.symm hid)).coherent hd

lemma exec_coherent (hleaves : LeavesApproval carrierId d c) (hwell : d.WellFormed c.request.now)
    (hd : d.CoherentAt c.request.now carrierId) (hok : c.exec d = .ok t) :
    t.CoherentAt c.request.now carrierId ∧ t.WellFormed c.request.now := by
  obtain ⟨x, q, op⟩ := c
  cases op with
  | initiateUpload dto =>
    obtain ⟨s, hupload, rfl⟩ := map_eq_ok.mp hok
    obtain ⟨huploaded, hcheck⟩ := initiateUpload_ok hupload
    exact upload_coherent huploaded hwell hd (hleaves hcheck)
  | review documentId decision => exact review_coherent hok hwell hd
  | applyScanResult documentId result =>
    obtain rfl := Except.ok.inj hok
    have hrows := applyScanResult_rows (d.documentContext x) q d.toDocumentStore documentId result
    have hkeeps := (keepsRow_scanned q result).on (fun v => v.id = documentId)
    refine ⟨keepsReview_coherent hkeeps (fun v => ?_) hrows hd, keepsRow_wellFormed hkeeps hrows hwell⟩
    split <;> rfl
  | deleteDocumentFamily documentId =>
    obtain ⟨s, hdelete, rfl⟩ := map_eq_ok.mp hok
    obtain ⟨hrole, document, hmem, hid, hfree, hrows⟩ := deleteDocumentFamily_ok hdelete
    exact deletion_coherent hrows (unreferenced_of hfree) (hleaves hrole document hmem hid hfree) hwell hd
  | addInsurance other dto =>
    obtain ⟨_, hrun⟩ := Txn.exec_eq_ok.mp hok
    exact recalculated_step (addInsurance_recalculates hrun) hwell hd
  | addFmcsaVerification other dto =>
    obtain ⟨_, hrun⟩ := Txn.exec_eq_ok.mp hok
    exact recalculated_step (addFmcsaVerification_recalculates hrun) hwell hd
  | activate other =>
    obtain ⟨_, hrun⟩ := Txn.exec_eq_ok.mp hok
    exact recalculated_step (activate_recalculates hrun) hwell hd
  | blockCarrier other dto =>
    obtain ⟨_, hrun⟩ := Txn.exec_eq_ok.mp hok
    exact recalculated_step (blockCarrier_recalculates hrun) hwell hd
  | deactivateCarrier other dto =>
    obtain ⟨_, hrun⟩ := Txn.exec_eq_ok.mp hok
    exact recalculated_step (deactivateCarrier_recalculates hrun) hwell hd
  | reactivateCarrier other dto =>
    obtain ⟨_, hrun⟩ := Txn.exec_eq_ok.mp hok
    exact recalculated_step (reactivateCarrier_recalculates hrun) hwell hd

theorem eligibility_coherent (hwell : d.WellFormed now) (hd : d.CoherentAt now carrierId)
    (hclock : ∀ c ∈ calls, c.request.now = now)
    (h : Run (Guarded (Serving EligibilityCall.exec) (LeavesApproval carrierId)) d calls t) :
    t.CoherentAt now carrierId := by
  induction h with
  | nil => exact hd
  | @cons a b _ c _ he _ ih =>
    obtain ⟨rfl, hleaves⟩ := he
    obtain ⟨hnow, hrest⟩ := List.forall_mem_cons.mp hclock
    subst hnow
    rcases attempt_cases EligibilityCall.exec a c with hrefused | hok
    · rw [hrefused] at ih
      exact ih hwell hd hrest
    · obtain ⟨hcoherent, hstill⟩ := exec_coherent hleaves hwell hd hok
      exact ih hstill hcoherent hrest

end Runs

section Decisions

variable {now : Instant} {d : CarrierDb} {carrierId : Uuid} {dto : CreateDocumentInput} {c : EligibilityCall}

instance {c : Carrier} {reasons : List String} : Decidable (d.Computes now c reasons) := by
  unfold CarrierDb.Computes
  infer_instance

instance : Decidable (d.CoherentAt now carrierId) :=
  decidable_of_iff (∀ c ∈ d.carriers.rows, c.id = carrierId → ∃ reasons ∈ c.ineligibilityReasons.toList,
      d.Computes now c reasons ∧ c = c.withEligibility reasons.isEmpty reasons)
    (forall_congr' (fun c => imp_congr_right (fun _ => imp_congr_right (fun _ => exists_congr (fun reasons => by
      rw [Option.mem_toList, and_iff_right_iff_imp]
      exact fun h => congrArg Carrier.ineligibilityReasons h.2)))))

instance {gone : DocumentVersion → Bool} {added : String → Bool} : Decidable (Undisturbed d carrierId gone added) := by
  unfold Undisturbed
  infer_instance

instance : Decidable (UploadUndisturbed carrierId d dto) := by
  unfold UploadUndisturbed
  split <;> infer_instance

instance : Decidable (LeavesApproval carrierId d c) := by
  unfold LeavesApproval
  split <;> infer_instance

end Decisions

namespace Sample

def eligibilityCall (n : ℕ) (op : EligibilityOp) : EligibilityCall where
  context := { organizationId := 1, roles := [.admin], documentTypes := [] }
  request := { request n with now := 50 }
  op

def documentFor (documentTypeId : Uuid) (family : Option Uuid) : CreateDocumentInput where
  fileName := "document.pdf"
  mimeType := .pdf
  fileSizeBytes := 1
  existingDocumentFamilyId := family
  entityType := .carrier
  entityId := 5
  documentTypeId := documentTypeId

def withCarrier (c : Carrier) : CarrierDb := { compliant with carriers := ⟨[c], List.nodup_singleton _⟩ }

def readyToActivate : CarrierDb := withCarrier
  { id := 5, mcNumber := "MC-5", dotNumber := "DOT-5", ineligibilityReasons := some ["Carrier status is not Active"] }

def activeCarrier : CarrierDb := withCarrier
  { id := 5, mcNumber := "MC-5", dotNumber := "DOT-5", status := .active, assignmentEligible := true
    ineligibilityReasons := some [] }

def certificateCalls : List EligibilityCall :=
  [eligibilityCall 1 (.activate 5), eligibilityCall 2 (.initiateUpload (documentFor 4 none)),
    eligibilityCall 3 (.review 200 .approved), eligibilityCall 4 (.deleteDocumentFamily 200)]

def newW9 : EligibilityCall := eligibilityCall 1 (.initiateUpload (documentFor 2 (some 22)))

end Sample

open Sample

lemma sample_wellFormed (c : Carrier) : (withCarrier c).WellFormed 50 := by
  have hcompliant : compliant.WellFormed 50 := ⟨by decide, by unfold CarrierDb.Insured; decide⟩
  exact hcompliant.of_same rfl rfl

theorem eligibility_coherent_sample :
    (certificateCalls.foldl (attempt EligibilityCall.exec) readyToActivate).CoherentAt 50 5 ∧
    (certificateCalls.foldl (attempt EligibilityCall.exec) readyToActivate).carriers.rows.map
      (fun c => (c.status, c.assignmentEligible, c.ineligibilityReasons)) = [(.active, true, some [])] := by
  refine ⟨?_, by decide⟩
  exact eligibility_coherent (sample_wellFormed _) (by decide) (by decide) (run_total_checked (by decide))

/-- The new version waits for its review, and the carrier stays eligible. -/
theorem superseded_w9_stays_eligible :
    activeCarrier.WellFormed 50 ∧ activeCarrier.CoherentAt 50 5 ∧ newW9.request.now = 50 ∧
      ¬ (attempt EligibilityCall.exec activeCarrier newW9).CoherentAt 50 5 :=
  ⟨sample_wellFormed _, by decide, rfl, by decide⟩

end Truckmaster.Carriers
