import Truckmaster.Documents.DocumentFamilies

namespace Truckmaster.Documents

open Common Fallible Runs Tables QuoteLoad DocumentService

inductive DocumentOp
  | initiateUpload (dto : CreateDocumentInput)
  | initiatePodUpload (loadId : Uuid) (sequence : ℤ) (dto : UploadInput)
  | initiatePopUpload (loadId : Uuid) (sequence : ℤ) (dto : UploadInput)
  | review (documentId : Uuid) (decision : ReviewDecision)
  | applyScanResult (documentId : Uuid) (result : MalwareScanResult)
  | deleteDocumentFamily (documentId : Uuid)

structure DocumentCall where
  context : DocumentContext
  request : Request
  op : DocumentOp

namespace DocumentCall

def exec (c : DocumentCall) (s : DocumentStore) : Except AppError DocumentStore :=
  match c.op with
  | .initiateUpload dto => DocumentService.initiateUpload c.context c.request s dto
  | .initiatePodUpload loadId sequence dto =>
    DocumentService.initiatePodUpload c.context c.request s loadId sequence dto
  | .initiatePopUpload loadId sequence dto =>
    DocumentService.initiatePopUpload c.context c.request s loadId sequence dto
  | .review documentId decision => Prod.fst <$> DocumentService.review c.context c.request s documentId decision
  | .applyScanResult documentId result =>
    .ok (DocumentService.applyScanResult c.context c.request s documentId result).1
  | .deleteDocumentFamily documentId => DocumentService.deleteDocumentFamily c.context c.request s documentId

/-- The upload that the call asks for, where it asks for one and finds its stop and type. -/
def upload (c : DocumentCall) : Option CreateDocumentInput :=
  match c.op with
  | .initiateUpload dto => some dto
  | .initiatePodUpload loadId sequence dto => (stopUpload "POD" c.context c.request loadId sequence dto).toOption
  | .initiatePopUpload loadId sequence dto => (stopUpload "POP" c.context c.request loadId sequence dto).toOption
  | _ => none

end DocumentCall

abbrev Owner := DocumentEntityType × Uuid × Uuid

def DocumentVersion.owner (v : DocumentVersion) : Owner := (v.entityType, v.entityId, v.documentTypeId)

def CreateDocumentInput.owner (dto : CreateDocumentInput) : Owner := (dto.entityType, dto.entityId, dto.documentTypeId)

structure Versioned (family : List DocumentVersion) : Prop where
  current : ∃ c, family.filter (fun v => v.isCurrentVersion) = [c] ∧ c.versionNumber = family.length
  numbers : (family.map DocumentVersion.versionNumber).Perm (List.range' 1 family.length)
  owners : ∀ a ∈ family, ∀ b ∈ family, a.owner = b.owner

namespace DocumentStore

def family (s : DocumentStore) (id : Uuid) : List DocumentVersion :=
  s.documents.rows.filter (fun v => v.documentFamilyId == id)

def FamiliesVersioned (s : DocumentStore) : Prop :=
  ∀ v ∈ s.documents.rows, Versioned (s.family v.documentFamilyId)

end DocumentStore

variable {s t : DocumentStore} {x : DocumentContext} {q : Request} {c : DocumentCall} {dto : CreateDocumentInput}
  {v new current : DocumentVersion} {front back family : List DocumentVersion}

def FreshIds (s : DocumentStore) (c : DocumentCall) : Prop :=
  c.request.uuid 0 ∉ s.documents.rows.map (fun v => v.id) ∧
    c.request.uuid 1 ∉ s.documents.rows.map (fun v => v.documentFamilyId)

/-- An upload that passes its checks names a family only if its owner is that of the current version. -/
def SameOwner (s : DocumentStore) (c : DocumentCall) : Prop :=
  ∀ dto ∈ c.upload, (checkUpload c.context c.request dto).toOption.isSome →
    ∀ v ∈ s.documents.rows, some v.documentFamilyId = dto.existingDocumentFamilyId → v.isCurrentVersion →
      dto.owner = v.owner

structure Keeps (f : DocumentVersion → DocumentVersion) : Prop where
  family : ∀ v, (f v).documentFamilyId = v.documentFamilyId
  owner : ∀ v, (f v).owner = v.owner
  number : ∀ v, (f v).versionNumber = v.versionNumber
  current : ∀ v, (f v).isCurrentVersion = v.isCurrentVersion

lemma Keeps.on {f : DocumentVersion → DocumentVersion} (h : Keeps f) (p : DocumentVersion → Prop) [DecidablePred p] :
    Keeps (fun v => if p v then f v else v) := by
  refine ⟨fun v => ?_, fun v => ?_, fun v => ?_, fun v => ?_⟩ <;> split_ifs
  · exact h.family v
  · rfl
  · exact h.owner v
  · rfl
  · exact h.number v
  · rfl
  · exact h.current v
  · rfl

lemma Keeps.versioned {f : DocumentVersion → DocumentVersion} (h : Keeps f) (hfamily : Versioned family) :
    Versioned (family.map f) := by
  obtain ⟨⟨c, hcurrent, hlast⟩, hnumbers, howners⟩ := hfamily
  refine ⟨⟨f c, ?_, ?_⟩, ?_, ?_⟩
  · rw [List.filter_map]
    simp only [Function.comp_def, h.current, hcurrent, List.map_singleton]
  · rw [h.number, List.length_map, hlast]
  · rw [List.map_map, List.length_map]
    simp only [Function.comp_def, h.number]
    exact hnumbers
  · simp only [List.forall_mem_map, h.owner]
    exact howners

lemma Keeps.family_map {f : DocumentVersion → DocumentVersion} (h : Keeps f)
    (ht : t.documents.rows = s.documents.rows.map f) (id : Uuid) : t.family id = (s.family id).map f := by
  rw [DocumentStore.family, DocumentStore.family, ht, List.filter_map]
  simp only [Function.comp_def, h.family]

lemma Keeps.familiesVersioned {f : DocumentVersion → DocumentVersion} (h : Keeps f)
    (ht : t.documents.rows = s.documents.rows.map f) (hs : s.FamiliesVersioned) : t.FamiliesVersioned := by
  intro v hv
  rw [ht] at hv
  obtain ⟨u, hu, rfl⟩ := List.mem_map.mp hv
  rw [h.family_map ht, h.family]
  exact h.versioned (hs u hu)

lemma filter_single_split {α : Type} {p : α → Bool} {front back : List α} {a c : α}
    (h : (front ++ a :: back).filter p = [c]) (ha : p a = true) :
    a = c ∧ front.filter p = [] ∧ back.filter p = [] := by
  rw [List.filter_append, List.filter_cons_of_pos ha] at h
  cases hfront : front.filter p with
  | nil =>
    rw [hfront, List.nil_append, List.cons.injEq] at h
    exact ⟨h.1, rfl, h.2⟩
  | cons b rest =>
    have hlength := congrArg List.length h
    simp [hfront] at hlength

lemma range'_append_next {numbers : List ℕ} {n : ℕ} (h : numbers.Perm (List.range' 1 n)) :
    (numbers ++ [n + 1]).Perm (List.range' 1 (n + 1)) := by
  rw [List.range'_1_concat, Nat.add_comm 1 n]
  exact h.append_right [n + 1]

lemma versioned_upload (h : Versioned (front ++ current :: back)) (hcurrent : current.isCurrentVersion = true)
    (hnew : new.isCurrentVersion = true) (hnumber : new.versionNumber = current.versionNumber + 1) :
    Versioned (front ++ superseded current :: back ++ [new]) ↔ new.owner = current.owner := by
  obtain ⟨⟨c, hsingle, hlast⟩, hnumbers, howners⟩ := h
  obtain ⟨rfl, hfront, hback⟩ := filter_single_split hsingle hcurrent
  have hlength : (front ++ superseded current :: back ++ [new]).length = (front ++ current :: back).length + 1 := by
    simp only [List.length_append, List.length_cons, List.length_nil, Nat.add_assoc]
  constructor
  · intro h
    have hmem : superseded current ∈ front ++ superseded current :: back ++ [new] := by simp
    exact (h.owners new (by simp) (superseded current) hmem).trans rfl
  · intro howner
    refine ⟨⟨new, ?_, ?_⟩, ?_, ?_⟩
    · simp [List.filter_append, hfront, hback, superseded, hnew]
    · rw [hlength, hnumber, hlast]
    · have hsame : (front ++ superseded current :: back ++ [new]).map DocumentVersion.versionNumber =
          (front ++ current :: back).map DocumentVersion.versionNumber ++ [new.versionNumber] := by
        simp [superseded]
      rw [hsame, hlength, hnumber, hlast]
      exact range'_append_next hnumbers
    · have hall : ∀ a ∈ front ++ superseded current :: back ++ [new], a.owner = current.owner := by
        intro a ha
        simp only [List.mem_append, List.mem_cons, List.not_mem_nil, or_false] at ha
        rcases ha with (hfront | rfl | hback) | rfl
        · exact howners a (by simp [hfront]) current (by simp)
        · rfl
        · exact howners a (by simp [hback]) current (by simp)
        · exact howner
      intro a ha b hb
      rw [hall a ha, hall b hb]

lemma versioned_first (hnew : new.isCurrentVersion = true) (hnumber : new.versionNumber = 1) : Versioned [new] := by
  refine ⟨⟨new, by simp [hnew], hnumber⟩, by simp [hnumber], fun a ha b hb => ?_⟩
  rw [List.mem_singleton.mp ha, List.mem_singleton.mp hb]

inductive Uploaded (x : DocumentContext) (q : Request) (s : DocumentStore) (dto : CreateDocumentInput)
    (t : DocumentStore) : Prop
  | first (type : DocumentTypeDefinition) (family : dto.existingDocumentFamilyId = none)
    (rows : t.documents.rows = s.documents.rows ++ [uploaded x q dto type (q.uuid 1) 1])
  | version (type : DocumentTypeDefinition) {family : Uuid} {current : DocumentVersion}
    {front back : List DocumentVersion} (existing : dto.existingDocumentFamilyId = some family)
    (found : s.currentVersion (q.order 1) family = some current)
    (before : s.documents.rows = front ++ current :: back)
    (rows : t.documents.rows =
      front ++ superseded current :: back ++ [uploaded x q dto type family (current.versionNumber + 1)])

lemma currentVersion_some {o : RowOrder} {id : Uuid} (h : s.currentVersion o id = some current) :
    current ∈ s.documents.rows ∧ current.documentFamilyId = id ∧ current.isCurrentVersion = true := by
  obtain ⟨hmem, hcond⟩ := findFirst_some h
  rw [Bool.and_eq_true, beq_iff_eq] at hcond
  exact ⟨hmem, hcond.1, hcond.2⟩

lemma initiateUpload_ok (h : initiateUpload x q s dto = .ok t) :
    Uploaded x q s dto t ∧ (checkUpload x q dto).toOption.isSome := by
  simp only [initiateUpload, bind_eq_ok, require_eq_ok, pure_eq_ok] at h
  obtain ⟨type, hcheck, ⟨mid, family, number⟩, hsupersede, documents, hinsert, rfl⟩ := h
  refine ⟨?_, by rw [hcheck]; rfl⟩
  cases hexisting : dto.existingDocumentFamilyId with
  | none =>
    rw [hexisting] at hsupersede
    simp only [supersede, pure_eq_ok, Prod.mk.injEq] at hsupersede
    obtain ⟨rfl, rfl, rfl⟩ := hsupersede
    exact .first type hexisting (Table.insert_rows hinsert)
  | some id =>
    rw [hexisting] at hsupersede
    simp only [supersede, bind_eq_ok, require_eq_ok, pure_eq_ok, Prod.mk.injEq] at hsupersede
    obtain ⟨current, hfound, rfl, rfl, rfl⟩ := hsupersede
    obtain ⟨front, back, hbefore, hafter⟩ := s.documents.update_split (currentVersion_some hfound).1 superseded
      (fun _ => rfl)
    refine .version type hexisting hfound hbefore ?_
    rw [← hafter]
    exact Table.insert_rows hinsert

lemma initiateUpload_accepts (hcheck : (checkUpload x q dto).toOption.isSome)
    (hid : q.uuid 0 ∉ s.documents.rows.map (fun v => v.id)) {id : Uuid}
    (hexisting : dto.existingDocumentFamilyId = some id)
    (hfound : s.currentVersion (q.order 1) id = some current) : ∃ t, initiateUpload x q s dto = .ok t := by
  have hcheck' := eq_accepted hcheck
  set type := accepted (checkUpload x q dto) hcheck
  let mid := s.updateDocument current.id superseded (fun _ => rfl)
  have hsupersede : supersede q s (some id) = .ok (mid, id, current.versionNumber + 1) := by
    simp only [supersede, bind_eq_ok, require_eq_ok, pure_eq_ok]
    exact ⟨current, hfound, rfl⟩
  have hmid : q.uuid 0 ∉ mid.documents.rows.map (fun v => v.id) := by
    have hsame : mid.documents.rows.map (fun v => v.id) = s.documents.rows.map (fun v => v.id) := by
      rw [show mid.documents.rows = _ from s.documents.update_rows current.id superseded (fun _ => rfl), List.map_map]
      apply List.map_congr_left
      intro a _
      by_cases h : a.id = current.id <;> simp [h, superseded]
    rwa [hsame]
  obtain ⟨documents, hinsert, _⟩ := Table.insert_of_new (t := mid.documents)
    (a := uploaded x q dto type id (current.versionNumber + 1)) hmid
  simp only [initiateUpload, bind_eq_ok, require_eq_ok, pure_eq_ok, hexisting]
  exact ⟨_, type, hcheck', _, hsupersede, documents, hinsert, rfl⟩

lemma family_append (rows : List DocumentVersion) (ht : t.documents.rows = s.documents.rows ++ rows) (id : Uuid) :
    t.family id = s.family id ++ rows.filter (fun v => v.documentFamilyId == id) := by
  rw [DocumentStore.family, ht, List.filter_append]
  rfl

lemma first_versioned {type : DocumentTypeDefinition} (hs : s.FamiliesVersioned)
    (hfresh : q.uuid 1 ∉ s.documents.rows.map (fun v => v.documentFamilyId))
    (ht : t.documents.rows = s.documents.rows ++ [uploaded x q dto type (q.uuid 1) 1]) : t.FamiliesVersioned := by
  intro v hv
  rw [ht] at hv
  rw [family_append _ ht]
  rcases List.mem_append.mp hv with hold | hnew
  · have hother : v.documentFamilyId ≠ q.uuid 1 := fun heq => hfresh (heq ▸ List.mem_map_of_mem hold)
    have hnone : [uploaded x q dto type (q.uuid 1) 1].filter
        (fun w => w.documentFamilyId == v.documentFamilyId) = [] := by
      simp [uploaded, Ne.symm hother]
    rw [hnone, List.append_nil]
    exact hs v hold
  · obtain rfl := List.mem_singleton.mp hnew
    have hempty : s.family (q.uuid 1) = [] := by
      refine List.filter_eq_nil_iff.mpr (fun w hw => ?_)
      simp only [beq_iff_eq]
      exact fun heq => hfresh (heq ▸ List.mem_map_of_mem hw)
    rw [show (uploaded x q dto type (q.uuid 1) 1).documentFamilyId = q.uuid 1 from rfl, hempty, List.nil_append,
      List.filter_cons_of_pos (by simp [uploaded]), List.filter_nil]
    exact versioned_first rfl rfl

lemma version_versioned (hs : s.FamiliesVersioned) (hcurrent : current.isCurrentVersion = true)
    (hbefore : s.documents.rows = front ++ current :: back)
    (ht : t.documents.rows = front ++ superseded current :: back ++ [new])
    (hfamily : new.documentFamilyId = current.documentFamilyId) (hnew : new.isCurrentVersion = true)
    (hnumber : new.versionNumber = current.versionNumber + 1) :
    t.FamiliesVersioned ↔ new.owner = current.owner := by
  have hold : Versioned (s.family current.documentFamilyId) := hs current (by simp [hbefore])
  have hsplit : s.family current.documentFamilyId =
      front.filter (fun v => v.documentFamilyId == current.documentFamilyId) ++
        current :: back.filter (fun v => v.documentFamilyId == current.documentFamilyId) := by
    simp [DocumentStore.family, hbefore, List.filter_append]
  have hafter : t.family current.documentFamilyId =
      front.filter (fun v => v.documentFamilyId == current.documentFamilyId) ++
        superseded current :: back.filter (fun v => v.documentFamilyId == current.documentFamilyId) ++ [new] := by
    simp [DocumentStore.family, ht, List.filter_append, superseded, hfamily]
  have hother (id : Uuid) (hid : id ≠ current.documentFamilyId) : t.family id = s.family id := by
    simp [DocumentStore.family, ht, hbefore, List.filter_append, superseded, hfamily, Ne.symm hid]
  rw [hsplit] at hold
  constructor
  · intro h
    have hversioned := h new (by simp [ht])
    rw [hfamily, hafter] at hversioned
    exact (versioned_upload hold hcurrent hnew hnumber).mp hversioned
  · intro howner v hv
    by_cases hid : v.documentFamilyId = current.documentFamilyId
    · rw [hid, hafter]
      exact (versioned_upload hold hcurrent hnew hnumber).mpr howner
    · rw [hother _ hid]
      apply hs
      rw [ht] at hv
      rw [hbefore]
      simp only [List.mem_append, List.mem_cons, List.not_mem_nil, or_false] at hv ⊢
      rcases hv with (hfront | rfl | hback) | rfl
      · exact Or.inl hfront
      · exact absurd rfl hid
      · exact Or.inr (Or.inr hback)
      · exact absurd hfamily hid

lemma deleted_versioned {id : Uuid} (hs : s.FamiliesVersioned)
    (ht : t.documents.rows = s.documents.rows.filter (fun v => v.documentFamilyId != id)) : t.FamiliesVersioned := by
  intro v hv
  rw [ht] at hv
  obtain ⟨hold, hid⟩ := List.mem_filter.mp hv
  have hsame : t.family v.documentFamilyId = s.family v.documentFamilyId := by
    rw [DocumentStore.family, ht, List.filter_filter]
    apply List.filter_congr
    intro w _
    by_cases hw : w.documentFamilyId = v.documentFamilyId
    · rw [hw, hid, Bool.and_true]
    · simp [hw]
  rw [hsame]
  exact hs v hold

lemma keeps_decided (q : Request) (decision : ReviewDecision) : Keeps (decided q decision) := by
  cases decision <;> exact ⟨fun _ => rfl, fun _ => rfl, fun _ => rfl, fun _ => rfl⟩

lemma keeps_scanned (q : Request) (result : MalwareScanResult) : Keeps (scanned q result) :=
  ⟨fun _ => rfl, fun _ => rfl, fun _ => rfl, fun _ => rfl⟩

structure KeepsRow (f : DocumentVersion → DocumentVersion) : Prop extends Keeps f where
  id : ∀ v, (f v).id = v.id
  uploadedAt : ∀ v, (f v).uploadedAt = v.uploadedAt

lemma keepsRow_decided (q : Request) (decision : ReviewDecision) : KeepsRow (decided q decision) := by
  refine ⟨keeps_decided q decision, decided_id q decision, ?_⟩
  cases decision <;> exact fun _ => rfl

lemma keepsRow_scanned (q : Request) (result : MalwareScanResult) : KeepsRow (scanned q result) :=
  ⟨keeps_scanned q result, fun _ => rfl, fun _ => rfl⟩

lemma KeepsRow.on {f : DocumentVersion → DocumentVersion} (h : KeepsRow f) (p : DocumentVersion → Prop)
    [DecidablePred p] : KeepsRow (fun v => if p v then f v else v) := by
  refine ⟨h.toKeeps.on p, fun v => ?_, fun v => ?_⟩ <;> split_ifs
  · exact h.id v
  · rfl
  · exact h.uploadedAt v
  · rfl

@[simp] lemma notifyOnce_documents (s : DocumentStore) (adminUserIds : List Uuid) (document : DocumentVersion)
    (type message : String) : (s.notifyOnce adminUserIds document type message).documents = s.documents := by
  unfold DocumentStore.notifyOnce
  split <;> rfl

lemma review_rows {documentId : Uuid} {decision : ReviewDecision} {document : DocumentVersion}
    (h : DocumentService.review x q s documentId decision = .ok (t, document)) :
    t.documents.rows = s.documents.rows.map (fun v => if v.id = documentId then decided q decision v else v) := by
  simp only [DocumentService.review, bind_eq_ok, require_eq_ok, ensure_eq_ok] at h
  obtain ⟨_, _, _, _, _, _, _, _, h⟩ := h
  have hrows := s.documents.update_rows documentId (decided q decision) (decided_id q decision)
  cases decision with
  | approved =>
    obtain rfl := congrArg Prod.fst (pure_eq_ok.mp h)
    exact hrows
  | rejected reason filled =>
    obtain rfl := congrArg Prod.fst (pure_eq_ok.mp h)
    rw [notifyOnce_documents]
    exact hrows

lemma review_found {documentId : Uuid} {decision : ReviewDecision} {document : DocumentVersion}
    (h : DocumentService.review x q s documentId decision = .ok (t, document)) :
    document ∈ s.documents.rows ∧ document.id = documentId := by
  simp only [DocumentService.review, bind_eq_ok, require_eq_ok, ensure_eq_ok] at h
  obtain ⟨found, hfound, _, _, _, _, _, _, h⟩ := h
  have hdocument : found = document := by
    cases decision <;> exact congrArg Prod.snd (pure_eq_ok.mp h)
  obtain ⟨hmem, hid⟩ := findFirst_some (hdocument ▸ hfound)
  exact ⟨hmem, beq_iff_eq.mp hid⟩

lemma applyScanResult_rows (x : DocumentContext) (q : Request) (s : DocumentStore) (documentId : Uuid)
    (result : MalwareScanResult) :
    (DocumentService.applyScanResult x q s documentId result).1.documents.rows =
      s.documents.rows.map (fun v => if v.id = documentId then scanned q result v else v) := by
  unfold DocumentService.applyScanResult
  have hrows := s.documents.update_rows documentId (scanned q result) (fun _ => rfl)
  split
  next hnone =>
    have hall := findFirst_none.mp hnone
    have hsame : s.documents.rows.map (fun v => if v.id = documentId then scanned q result v else v) =
        s.documents.rows.map id := List.map_congr_left (fun v hv => if_neg (by simpa using hall v hv))
    rw [hsame, List.map_id]
  next document hsome =>
    dsimp only
    split
    · exact hrows
    · rw [notifyOnce_documents]
      exact hrows

lemma applyScanResult_found {documentId : Uuid} {result : MalwareScanResult} {document : DocumentVersion}
    (h : (DocumentService.applyScanResult x q s documentId result).2 = some document) :
    document ∈ s.documents.rows ∧ document.id = documentId := by
  unfold DocumentService.applyScanResult at h
  split at h
  next hnone => cases h
  next found hsome =>
    obtain rfl := Option.some.inj h
    obtain ⟨hmem, hid⟩ := findFirst_some hsome
    exact ⟨hmem, beq_iff_eq.mp hid⟩

lemma applyScanResult_missing {documentId : Uuid} {result : MalwareScanResult}
    (h : (DocumentService.applyScanResult x q s documentId result).2 = none) :
    (DocumentService.applyScanResult x q s documentId result).1 = s := by
  unfold DocumentService.applyScanResult at h ⊢
  split at h
  next hnone => rfl
  next found hsome => cases h

lemma deleteDocumentFamily_ok {documentId : Uuid} (h : DocumentService.deleteDocumentFamily x q s documentId = .ok t) :
    includesRole podUploadRoles x.roles ∧ ∃ document ∈ s.documents.rows, document.id = documentId ∧
      (∀ v ∈ s.documents.rows, v.documentFamilyId = document.documentFamilyId →
        x.inLoadDraft v.id = false ∧ x.inInsurance v.id = false) ∧
      t.documents.rows = s.documents.rows.filter (fun v => v.documentFamilyId != document.documentFamilyId) := by
  simp only [DocumentService.deleteDocumentFamily, bind_eq_ok, require_eq_ok, ensure_eq_ok, pure_eq_ok] at h
  obtain ⟨_, hrole, document, hfound, _, hdraft, _, hinsurance, rfl⟩ := h
  obtain ⟨hmem, hid⟩ := findFirst_some hfound
  refine ⟨hrole, document, hmem, beq_iff_eq.mp hid, fun v hv hfamily => ?_, rfl⟩
  have hversion : v ∈ findMany (q.order 1) (fun v => v.documentFamilyId == document.documentFamilyId)
      s.documents.rows := mem_findMany.mpr ⟨hv, beq_iff_eq.mpr hfamily⟩
  exact ⟨hdraft v hversion, hinsurance v hversion⟩

lemma exec_upload (h : c.upload = some dto) : c.exec s = initiateUpload c.context c.request s dto := by
  obtain ⟨x, q, op⟩ := c
  have hbind {e : Except AppError CreateDocumentInput} (h : e.toOption = some dto) : e = .ok dto := by
    cases e with
    | error _ => cases h
    | ok d => exact congrArg _ (Option.some.inj h)
  cases op with
  | initiateUpload d =>
    obtain rfl := Option.some.inj h
    rfl
  | initiatePodUpload loadId sequence d =>
    simp only [DocumentCall.exec, initiatePodUpload]
    rw [hbind h]
    rfl
  | initiatePopUpload loadId sequence d =>
    simp only [DocumentCall.exec, initiatePopUpload]
    rw [hbind h]
    rfl
  | review documentId decision => cases h
  | applyScanResult documentId result => cases h
  | deleteDocumentFamily documentId => cases h

lemma exec_other (h : c.upload = none) (hs : s.FamiliesVersioned) (hok : c.exec s = .ok t) : t.FamiliesVersioned := by
  obtain ⟨x, q, op⟩ := c
  have hbind {e : Except AppError CreateDocumentInput} {f : CreateDocumentInput → Except AppError DocumentStore}
      (h : e.toOption = none) : (e >>= f) ≠ .ok t := by
    cases e with
    | error _ => nofun
    | ok d => cases h
  cases op with
  | initiateUpload d => cases h
  | initiatePodUpload loadId sequence d => exact absurd hok (hbind h)
  | initiatePopUpload loadId sequence d => exact absurd hok (hbind h)
  | review documentId decision =>
    obtain ⟨⟨t', document⟩, hreview, rfl⟩ := map_eq_ok.mp hok
    exact ((keeps_decided q decision).on (fun v => v.id = documentId)).familiesVersioned (review_rows hreview) hs
  | applyScanResult documentId result =>
    obtain rfl := Except.ok.inj hok
    exact ((keeps_scanned q result).on (fun v => v.id = documentId)).familiesVersioned
      (applyScanResult_rows x q s documentId result) hs
  | deleteDocumentFamily documentId =>
    obtain ⟨_, document, _, _, _, hrows⟩ := deleteDocumentFamily_ok hok
    exact deleted_versioned hs hrows

lemma upload_versioned (hs : s.FamiliesVersioned)
    (hfresh : q.uuid 1 ∉ s.documents.rows.map (fun v => v.documentFamilyId)) (hup : Uploaded x q s dto t) :
    t.FamiliesVersioned ↔
      ∀ id current, dto.existingDocumentFamilyId = some id → s.currentVersion (q.order 1) id = some current →
        dto.owner = current.owner := by
  cases hup with
  | first type hnone hrows =>
    refine ⟨fun _ id _ hsome => ?_, fun _ => first_versioned hs hfresh hrows⟩
    rw [hnone] at hsome
    cases hsome
  | @version type id current front back hexisting hfound hbefore hrows =>
    obtain ⟨_, hfamily, hcurrent⟩ := currentVersion_some hfound
    have hiff := version_versioned hs hcurrent hbefore hrows hfamily.symm rfl rfl
    refine hiff.trans ⟨fun howner id' current' hid hfound' => ?_, fun howner => howner id current hexisting hfound⟩
    obtain rfl := Option.some.inj (hexisting.symm.trans hid)
    obtain rfl := Option.some.inj (hfound.symm.trans hfound')
    exact howner

lemma current_unique (hs : s.FamiliesVersioned) {u v : DocumentVersion} (hu : u ∈ s.documents.rows)
    (hv : v ∈ s.documents.rows) (hfamily : u.documentFamilyId = v.documentFamilyId) (hucur : u.isCurrentVersion)
    (hvcur : v.isCurrentVersion) : u = v := by
  obtain ⟨c, hsingle, _⟩ := (hs v hv).current
  have hmem (w : DocumentVersion) (hw : w ∈ s.documents.rows) (hid : w.documentFamilyId = v.documentFamilyId)
      (hcur : w.isCurrentVersion) : w = c := by
    have hin : w ∈ (s.family v.documentFamilyId).filter (fun v => v.isCurrentVersion) :=
      List.mem_filter.mpr ⟨List.mem_filter.mpr ⟨hw, beq_iff_eq.mpr hid⟩, hcur⟩
    rw [hsingle] at hin
    exact List.mem_singleton.mp hin
  rw [hmem u hu hfamily hucur, hmem v hv rfl hvcur]

lemma sameOwner_keeps (hs : s.FamiliesVersioned) (hfresh : FreshIds s c) (hsame : SameOwner s c)
    (hok : c.exec s = .ok t) : t.FamiliesVersioned := by
  cases hup : c.upload with
  | none => exact exec_other hup hs hok
  | some dto =>
    rw [exec_upload hup] at hok
    obtain ⟨huploaded, hcheck⟩ := initiateUpload_ok hok
    refine (upload_versioned hs hfresh.2 huploaded).mpr (fun id current hexisting hfound => ?_)
    obtain ⟨hmem, hfamily, hcurrent⟩ := currentVersion_some hfound
    exact hsame dto hup hcheck current hmem (hexisting ▸ congrArg some hfamily) hcurrent

lemma otherOwner_breaks (hs : s.FamiliesVersioned) (hfresh : FreshIds s c) (hother : ¬ SameOwner s c) :
    ∃ t, c.exec s = .ok t ∧ ¬ t.FamiliesVersioned := by
  simp only [SameOwner, not_forall] at hother
  obtain ⟨dto, hup, hcheck, v, hv, hnamed, hcurrent, howner⟩ := hother
  have hexisting : dto.existingDocumentFamilyId = some v.documentFamilyId := hnamed.symm
  cases hfound : s.currentVersion (c.request.order 1) v.documentFamilyId with
  | none =>
    have hno := findFirst_none.mp hfound v hv
    simp [hcurrent] at hno
  | some current =>
    obtain ⟨t, hok⟩ := initiateUpload_accepts hcheck hfresh.1 hexisting hfound
    refine ⟨t, (exec_upload hup).trans hok, fun ht => howner ?_⟩
    obtain ⟨hmem, hfamily, hcur⟩ := currentVersion_some hfound
    obtain rfl := current_unique hs hmem hv hfamily hcur hcurrent
    exact (upload_versioned hs hfresh.2 (initiateUpload_ok hok).1).mp ht _ current hexisting hfound

theorem families_versioned_iff {calls : List DocumentCall} (hs : s.FamiliesVersioned)
    (h : Run (Guarded (Serving DocumentCall.exec) FreshIds) s calls t) :
    (∀ ds, ds <+: calls → (ds.foldl (attempt DocumentCall.exec) s).FamiliesVersioned) ↔
      Run (Guarded (Serving DocumentCall.exec) SameOwner) s calls t := by
  refine lawful_iff_guarded_of_fair (J := fun _ => True) (fun _ _ _ _ => trivial)
    (fun a c _ ha hfresh hsame => ?_) (fun a c _ ha hfresh hother => ?_) trivial hs h
  · rcases attempt_cases DocumentCall.exec a c with hrefused | hok
    · rwa [hrefused]
    · exact sameOwner_keeps ha hfresh hsame hok
  · obtain ⟨t, hok, hbroken⟩ := otherOwner_breaks ha hfresh hother
    rwa [attempt_of_ok hok]

instance (s : DocumentStore) (c : DocumentCall) : Decidable (FreshIds s c) := inferInstanceAs (Decidable (_ ∧ _))

instance (s : DocumentStore) (c : DocumentCall) : Decidable (SameOwner s c) := by
  unfold SameOwner
  infer_instance

namespace Sample

def agreement : DocumentTypeDefinition := ⟨⟨9, none, "CARRIER_AGREEMENT"⟩, true⟩

def carriers : DocumentContext where
  organizationId := 1
  roles := [.admin]
  documentTypes := [agreement]
  entityExists entityType id := decide (entityType = .carrier ∧ (id = 5 ∨ id = 6))

def agreementFor (carrierId : Uuid) (family : Option Uuid) : CreateDocumentInput where
  fileName := "agreement.pdf"
  mimeType := .pdf
  fileSizeBytes := 1
  existingDocumentFamilyId := family
  entityType := .carrier
  entityId := carrierId
  documentTypeId := agreement.id

/-- The n-th call is made by user n and creates its Document as 100 n, in family 100 n + 1. -/
def documentCalls (ops : List DocumentOp) : List DocumentCall :=
  ops.mapIdx (fun n op => ⟨carriers, ⟨n, fun i => 100 * n + i, fun _ => .stored, n⟩, op⟩)

def noDocuments : DocumentStore := { documents := .empty }

def documentsAfter (ops : List DocumentOp) : DocumentStore :=
  (documentCalls ops).foldl (attempt DocumentCall.exec) noDocuments

def replaced : List DocumentOp :=
  [.initiateUpload (agreementFor 5 none), .applyScanResult 0 ⟨.clean, "clamav"⟩,
    .initiateUpload (agreementFor 5 (some 1)), .review 200 .approved, .initiateUpload (agreementFor 6 none),
    .deleteDocumentFamily 400]

def replacedByOther : List DocumentOp :=
  [.initiateUpload (agreementFor 5 none), .initiateUpload (agreementFor 6 (some 1))]

end Sample

open Sample

lemma noDocuments_versioned : noDocuments.FamiliesVersioned := fun _ hv => absurd hv List.not_mem_nil

theorem families_versioned_sample : (documentsAfter replaced).FamiliesVersioned ∧
    (documentsAfter replaced).documents.rows.map (fun v => (v.id, v.versionNumber, v.isCurrentVersion)) =
      [(0, 1, false), (200, 2, true)] := by
  refine ⟨?_, by decide⟩
  refine (families_versioned_iff (s := noDocuments) noDocuments_versioned (run_total_checked (by decide))).mpr ?_
    (documentCalls replaced) List.prefix_rfl
  exact run_total_checked (by decide)

theorem family_of_two_carriers :
    Run (Guarded (Serving DocumentCall.exec) FreshIds) noDocuments (documentCalls replacedByOther)
      (documentsAfter replacedByOther) ∧
    ((documentsAfter replacedByOther).family 1).map (fun v => (v.entityId, v.versionNumber, v.isCurrentVersion)) =
      [(5, 1, false), (6, 2, true)] ∧
    ¬ (documentsAfter replacedByOther).FamiliesVersioned := by
  refine ⟨run_total_checked (by decide), by decide, fun h => ?_⟩
  have howners := (h _ (List.head_mem (by decide : (documentsAfter replacedByOther).documents.rows ≠ []))).owners
  exact absurd howners (by decide)

end Truckmaster.Documents
