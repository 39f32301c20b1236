import Truckmaster.QuoteLoad.PodStatus

namespace Truckmaster.QuoteLoad

open Common Documents DispatchTrackingService DocumentService Fallible LoadPodStatusService Runs Tables

structure PodDb where
  rows : LoadRows
  store : DocumentStore
  documentTypes : List DocumentTypeDefinition

inductive PodOp
  | updateStops (dto : UpdateStopsInput)
  | initiateReturn (dto : InitiateReturnInput)
  | document (op : DocumentOp)

structure PodCall where
  context : DocumentContext
  request : Request
  op : PodOp

namespace PodDb

def findStop (d : PodDb) (id : Uuid) : Option Stop := d.rows.stops.rows.find? (fun s => s.id == id)

def documentContext (d : PodDb) (q : Request) (x : DocumentContext) : DocumentContext :=
  { x with
    documentTypes := d.documentTypes
    entityExists := fun entityType id => (entityType == .stop && (d.findStop id).isSome) || x.entityExists entityType id
    stopType := fun id => ((d.findStop id).map Stop.stopType).or (x.stopType id)
    stopAt := fun loadId sequence =>
      if loadId = d.rows.load.id then
        (DispatchTrackingService.findStop (q.order 3) d.rows sequence).map Stop.id
      else x.stopAt loadId sequence }

def applyScanResult (x : DocumentContext) (q : Request) (d : PodDb) (documentId : Uuid) (result : MalwareScanResult) :
    PodDb :=
  let (store, found) := DocumentService.applyScanResult (d.documentContext q x) q d.store documentId result
  if found.any (fun document => document.entityType == .stop && (d.findStop document.entityId).isSome) then
    { d with store, rows := recalculatePodStatus d.documentTypes store.documents.rows d.rows }
  else { d with store }

end PodDb

namespace PodCall

def documentCall (c : PodCall) (d : PodDb) (op : DocumentOp) : DocumentCall :=
  ⟨d.documentContext c.request c.context, c.request, op⟩

def exec (c : PodCall) (d : PodDb) : Except AppError PodDb :=
  match c.op with
  | .updateStops dto => (fun rows => { d with rows }) <$> updateStops c.request (some d.rows) dto
  | .initiateReturn dto => (fun rows => { d with rows }) <$> initiateReturn c.request (some d.rows) dto
  | .document (.applyScanResult documentId result) => .ok (d.applyScanResult c.context c.request documentId result)
  | .document op => (fun store => { d with store }) <$> (c.documentCall d op).exec d.store

end PodCall

def ofStops (stops : List Stop) (entityType : DocumentEntityType) (entityId : Uuid) : Prop :=
  entityType = .stop ∧ entityId ∈ stops.map Stop.id

/-- A Document of the stops that has not been scanned shares its family with another one. -/
def Unsettled (documents : List DocumentVersion) (stops : List Stop) : Prop :=
  ∃ v ∈ documents, ofStops stops v.entityType v.entityId ∧ v.scanStatus = .pending ∧
    ∃ w ∈ documents, w.documentFamilyId = v.documentFamilyId ∧ w.id ≠ v.id

def SamePods (documentTypes : List DocumentTypeDefinition) (documents : List DocumentVersion) (stops : List Stop)
    (documents' : List DocumentVersion) (stops' : List Stop) : Prop :=
  (SomePod documentTypes documents' stops' ↔ SomePod documentTypes documents stops) ∧
    (SomePod documentTypes documents stops →
      (EveryPod documentTypes documents' stops' ↔ EveryPod documentTypes documents stops))

def PodCoherent (d : PodDb) : Prop :=
  (∀ v ∈ d.store.documents.rows, ofStops d.rows.stops.rows v.entityType v.entityId → v.scanStatus ≠ .pending) →
    d.rows.load.podStatus = derivePodStatus d.documentTypes d.store.documents.rows d.rows.stops.rows

/-- An accepted edit of the stops, deletion, or upload for something else that takes over a family of the Load's,
leaves as it is whether some and whether every standard delivery stop has a POD. -/
def KeepsPods (d : PodDb) (c : PodCall) : Prop :=
  let documents := d.store.documents.rows
  let stops := d.rows.stops.rows
  match c.op with
  | .updateStops dto =>
    (∀ item ∈ dto.stops, ∃ s ∈ stops, s.sequence = item.sequence) → ¬ Unsettled documents stops →
      SamePods d.documentTypes documents stops documents (editedStops c.request 0 dto.stops stops)
  | .initiateReturn _ => True
  | .document (.deleteDocumentFamily documentId) =>
    includesRole podUploadRoles c.context.roles → ∀ v ∈ documents, v.id = documentId →
      (∀ w ∈ documents, w.documentFamilyId = v.documentFamilyId →
        c.context.inLoadDraft w.id = false ∧ c.context.inInsurance w.id = false) →
      let left := documents.filter (fun w => w.documentFamilyId != v.documentFamilyId)
      ¬ Unsettled left stops → ¬ Unsettled documents stops ∧ SamePods d.documentTypes documents stops left stops
  | .document op =>
    ∀ dto ∈ (c.documentCall d op).upload, (checkUpload (d.documentContext c.request c.context) c.request dto).toOption.isSome →
      ¬ ofStops stops dto.entityType dto.entityId → ∀ v ∈ documents,
        some v.documentFamilyId = dto.existingDocumentFamilyId → v.isCurrentVersion → ¬ Unsettled documents stops →
          SamePods d.documentTypes documents stops (documents.filter (fun w => !(w.id == v.id))) stops

variable {d t : PodDb} {c : PodCall} {q : Request} {documentTypes : List DocumentTypeDefinition}
  {documents documents' : List DocumentVersion} {stops stops' : List Stop}

lemma derivePodStatus_congr (hstops : (stops.map Stop.id).Nodup) (hstops' : (stops'.map Stop.id).Nodup)
    (h : SamePods documentTypes documents stops documents' stops') :
    derivePodStatus documentTypes documents' stops' = derivePodStatus documentTypes documents stops := by
  rw [derivePodStatus_eq hstops, derivePodStatus_eq hstops']
  simp only [h.1]
  split_ifs with hsome hevery hevery' hevery'
  · rfl
  · exact absurd ((h.2 hsome).mp hevery) hevery'
  · exact absurd ((h.2 hsome).mpr hevery') hevery
  · rfl
  · rfl

/-- The stored status is the derived one, unless an upload has replaced a version and is still to be scanned. -/
def PodCurrent (d : PodDb) : Prop :=
  Unsettled d.store.documents.rows d.rows.stops.rows ∨
    d.rows.load.podStatus = derivePodStatus d.documentTypes d.store.documents.rows d.rows.stops.rows

lemma PodCurrent.coherent (h : PodCurrent d) : PodCoherent d := by
  intro hsettled
  rcases h with ⟨v, hv, hof, hpending, _⟩ | hderived
  · exact absurd hpending (hsettled v hv hof)
  · exact hderived

structure KeepsStatus (d t : PodDb) : Prop where
  podStatus : t.rows.load.podStatus = d.rows.load.podStatus
  documentTypes : t.documentTypes = d.documentTypes
  pods : ¬ Unsettled t.store.documents.rows t.rows.stops.rows →
    ¬ Unsettled d.store.documents.rows d.rows.stops.rows ∧
      SamePods d.documentTypes d.store.documents.rows d.rows.stops.rows t.store.documents.rows t.rows.stops.rows

lemma KeepsStatus.current (h : KeepsStatus d t) (hd : PodCurrent d) : PodCurrent t := by
  by_cases hunsettled : Unsettled t.store.documents.rows t.rows.stops.rows
  · exact Or.inl hunsettled
  · obtain ⟨hsettled, hsame⟩ := h.pods hunsettled
    refine Or.inr ?_
    rw [h.podStatus, h.documentTypes, derivePodStatus_congr d.rows.stops.nodup t.rows.stops.nodup hsame]
    exact hd.resolve_left hsettled

lemma keepsStatus_of {store : DocumentStore}
    (hunsettled : Unsettled d.store.documents.rows d.rows.stops.rows →
      Unsettled store.documents.rows d.rows.stops.rows)
    (hpods : SamePods d.documentTypes d.store.documents.rows d.rows.stops.rows store.documents.rows
      d.rows.stops.rows) : KeepsStatus d { d with store } :=
  ⟨rfl, rfl, fun hsettled => ⟨fun h => hsettled (hunsettled h), hpods⟩⟩

lemma samePods_of (h : ∀ s ∈ stops, HasPod documentTypes documents' s ↔ HasPod documentTypes documents s) :
    SamePods documentTypes documents stops documents' stops := by
  have hdelivery (s : Stop) (hs : s ∈ deliveryStops stops) := h s (List.mem_of_mem_filter hs)
  refine ⟨?_, fun _ => ?_⟩
  · exact exists_congr (fun s => and_congr_right (hdelivery s))
  · exact forall_congr' (fun s => imp_congr_right (hdelivery s))

lemma ofStops_keeps {f : DocumentVersion → DocumentVersion} (hf : KeepsRow f) (v : DocumentVersion) :
    ofStops stops (f v).entityType (f v).entityId ↔ ofStops stops v.entityType v.entityId := by
  have htype : (f v).entityType = v.entityType := congrArg (fun o => o.1) (hf.owner v)
  have hid : (f v).entityId = v.entityId := congrArg (fun o => o.2.1) (hf.owner v)
  rw [htype, hid]

lemma isCleanPod_keeps {f : DocumentVersion → DocumentVersion} (hf : KeepsRow f) {v : DocumentVersion}
    (hscan : v.entityType = .stop → (f v).scanStatus = v.scanStatus) :
    isCleanPod documentTypes (f v) = isCleanPod documentTypes v := by
  have htype : (f v).entityType = v.entityType := congrArg (fun o => o.1) (hf.owner v)
  have hdocumentType : (f v).documentTypeId = v.documentTypeId := congrArg (fun o => o.2.2) (hf.owner v)
  simp only [isCleanPod, htype, hdocumentType, hf.current]
  by_cases hstop : v.entityType = .stop
  · rw [hscan hstop]
  · rw [beq_eq_false_iff_ne.mpr hstop]
    simp only [Bool.false_and]

lemma mapped_keepsStatus {f : DocumentVersion → DocumentVersion} (hf : KeepsRow f) {store : DocumentStore}
    (hrows : store.documents.rows = d.store.documents.rows.map f)
    (hscan : ∀ v ∈ d.store.documents.rows, ofStops d.rows.stops.rows v.entityType v.entityId →
      (f v).scanStatus = v.scanStatus) : KeepsStatus d { d with store } := by
  refine keepsStatus_of ?_ (samePods_of (fun s hs => ?_)) <;> rw [hrows]
  · rintro ⟨v, hv, hof, hpending, w, hw, hfamily, hne⟩
    refine ⟨f v, List.mem_map_of_mem hv, (ofStops_keeps hf v).mpr hof, (hscan v hv hof).trans hpending,
      f w, List.mem_map_of_mem hw, ?_, ?_⟩
    · rw [hf.family, hf.family, hfamily]
    · rw [hf.id, hf.id]
      exact hne
  · have hentity (v : DocumentVersion) : (f v).entityId = v.entityId := congrArg (fun o => o.2.1) (hf.owner v)
    have hclean {v : DocumentVersion} (hv : v ∈ d.store.documents.rows) (hid : v.entityId = s.id) :
        isCleanPod d.documentTypes (f v) = isCleanPod d.documentTypes v :=
      isCleanPod_keeps hf (fun hstop => hscan v hv ⟨hstop, hid ▸ List.mem_map_of_mem hs⟩)
    constructor
    · rintro ⟨_, hmem, hpod, hid⟩
      obtain ⟨v, hv, rfl⟩ := List.mem_map.mp hmem
      rw [hentity] at hid
      exact ⟨v, hv, hclean hv hid ▸ hpod, hid⟩
    · rintro ⟨v, hv, hpod, hid⟩
      exact ⟨f v, List.mem_map_of_mem hv, (hclean hv hid).symm ▸ hpod, (hentity v).trans hid⟩

lemma hasPod_without {v : DocumentVersion} {front back : List DocumentVersion}
    (hv : isCleanPod documentTypes v = false) (s : Stop) :
    HasPod documentTypes (front ++ v :: back) s ↔ HasPod documentTypes (front ++ back) s := by
  simp only [HasPod, List.mem_append, List.mem_cons, or_and_right, exists_or, exists_eq_left, hv, Bool.false_eq_true,
    false_and, false_or]

lemma hasPod_enter {new : DocumentVersion} (hnew : new.scanStatus ≠ .clean) (s : Stop) :
    HasPod documentTypes (documents ++ [new]) s ↔ HasPod documentTypes documents s := by
  have hnot : isCleanPod documentTypes new = false := by
    rw [isCleanPod, beq_eq_false_iff_ne.mpr hnew, Bool.and_false, Bool.false_and]
  rw [hasPod_without hnot, List.append_nil]

lemma SamePods.trans {documents'' : List DocumentVersion} {stops'' : List Stop}
    (h : SamePods documentTypes documents stops documents' stops')
    (h' : SamePods documentTypes documents' stops' documents'' stops'') :
    SamePods documentTypes documents stops documents'' stops'' :=
  ⟨h'.1.trans h.1, fun hsome => (h'.2 (h.1.mpr hsome)).trans (h.2 hsome)⟩

lemma unsettled_of (h : ∀ v ∈ documents, ∃ v' ∈ documents', v'.toDocument = v.toDocument ∧
      v'.documentFamilyId = v.documentFamilyId) (hunsettled : Unsettled documents stops) :
    Unsettled documents' stops := by
  obtain ⟨v, hv, ⟨htype, hid⟩, hpending, w, hw, hfamily, hne⟩ := hunsettled
  obtain ⟨v', hv', hv'doc, hv'family⟩ := h v hv
  obtain ⟨w', hw', hw'doc, hw'family⟩ := h w hw
  refine ⟨v', hv', ⟨(congrArg Document.entityType hv'doc).trans htype, ?_⟩,
    (congrArg Document.scanStatus hv'doc).trans hpending, w', hw', ?_, ?_⟩
  · exact (congrArg Document.entityId hv'doc) ▸ hid
  · rw [hw'family, hv'family, hfamily]
  · intro heq
    exact hne ((congrArg Document.id hw'doc).symm.trans (heq.trans (congrArg Document.id hv'doc)))

lemma upload_keepsStatus {x : DocumentContext} {dto : CreateDocumentInput} {store : DocumentStore}
    (hup : Uploaded x q d.store dto store)
    (hguard : ¬ ofStops d.rows.stops.rows dto.entityType dto.entityId → ∀ v ∈ d.store.documents.rows,
      some v.documentFamilyId = dto.existingDocumentFamilyId → v.isCurrentVersion →
        ¬ Unsettled d.store.documents.rows d.rows.stops.rows →
          SamePods d.documentTypes d.store.documents.rows d.rows.stops.rows
            (d.store.documents.rows.filter (fun w => !(w.id == v.id))) d.rows.stops.rows) :
    KeepsStatus d { d with store } := by
  have hpending (type : DocumentTypeDefinition) (family : Uuid) (n : ℕ) :
      (uploaded x q dto type family n).scanStatus ≠ .clean := nofun
  cases hup with
  | first type hnone hrows =>
    refine keepsStatus_of (unsettled_of (fun v hv => ⟨v, hrows ▸ List.mem_append_left _ hv, rfl, rfl⟩))
      (samePods_of (fun s _ => ?_))
    rw [hrows]
    exact hasPod_enter (hpending _ _ _) s
  | @version type family current front back hexisting hfound hbefore hrows =>
    obtain ⟨hmem, hfamily, hcurrent⟩ := currentVersion_some hfound
    have hkept : ∀ v ∈ d.store.documents.rows, ∃ v' ∈ store.documents.rows, v'.toDocument = v.toDocument ∧
        v'.documentFamilyId = v.documentFamilyId := by
      intro v hv
      rw [hbefore] at hv
      rw [hrows]
      rcases List.mem_append.mp hv with hfront | hrest
      · exact ⟨v, List.mem_append_left _ (List.mem_append_left _ hfront), rfl, rfl⟩
      · rcases List.mem_cons.mp hrest with rfl | hback
        · exact ⟨superseded v, by simp, rfl, rfl⟩
        · exact ⟨v, by simp [hback], rfl, rfl⟩
    refine ⟨rfl, rfl, fun hsettled => ?_⟩
    have hsettled' := fun h => hsettled (unsettled_of hkept h)
    have hof : ¬ ofStops d.rows.stops.rows dto.entityType dto.entityId := by
      intro hof
      have hnodup := store.documents.nodup
      rw [hrows, List.map_append, List.nodup_append] at hnodup
      have hne := hnodup.2.2 (superseded current).id (List.mem_map_of_mem (by simp))
        (uploaded x q dto type family (current.versionNumber + 1)).id (by simp)
      refine hsettled ⟨uploaded x q dto type family (current.versionNumber + 1),
        hrows ▸ List.mem_append_right _ List.mem_cons_self, hof, rfl, superseded current, ?_, hfamily, hne⟩
      rw [hrows]
      simp
    refine ⟨hsettled', (hguard hof current hmem (hfamily ▸ hexisting.symm) hcurrent hsettled').trans
      (samePods_of (fun s _ => ?_))⟩
    have hsuperseded : isCleanPod d.documentTypes (superseded current) = false := by simp [isCleanPod, superseded]
    rw [hrows, hasPod_enter (hpending _ _ _), hasPod_without hsuperseded, d.store.documents.filter_key_ne hbefore]

lemma findStop_isSome {id : Uuid} : (d.findStop id).isSome ↔ id ∈ d.rows.stops.rows.map Stop.id := by
  simp [PodDb.findStop]

lemma applyScanResult_current {x : DocumentContext} {documentId : Uuid} {result : MalwareScanResult}
    (hd : PodCurrent d) : PodCurrent (d.applyScanResult x q documentId result) := by
  unfold PodDb.applyScanResult
  have hrows := applyScanResult_rows (d.documentContext q x) q d.store documentId result
  rcases hscan : DocumentService.applyScanResult (d.documentContext q x) q d.store documentId result with ⟨store, found⟩
  rw [hscan] at hrows
  dsimp only
  split
  next hstop =>
    refine Or.inr ?_
    rw [recalculatePodStatus_podStatus, recalculatePodStatus_stops]
  next hother =>
    cases found with
    | none =>
      have hsame := applyScanResult_missing (congrArg Prod.snd hscan)
      rw [hscan] at hsame
      obtain rfl : store = d.store := hsame
      exact hd
    | some document =>
      obtain ⟨hmem, rfl⟩ := applyScanResult_found (congrArg Prod.snd hscan)
      have hkeeps := (keepsRow_scanned q result).on (fun v => v.id = document.id)
      refine KeepsStatus.current (mapped_keepsStatus hkeeps hrows (fun v hv hof => ?_)) hd
      have hne : v.id ≠ document.id := by
        intro heq
        obtain rfl := d.store.documents.eq_of_key hv hmem heq
        refine hother ?_
        rw [Option.any_some, Bool.and_eq_true, beq_iff_eq, findStop_isSome]
        exact hof
      rw [if_neg hne]

lemma editedStops_map {α : Type} {f : Stop → α} (hf : ∀ (item : UpdateStopItem) (s : Stop), f (item.nextValues s) = f s)
    (k : ℕ) (items : List UpdateStopItem) (stops : List Stop) :
    (editedStops q k items stops).map f = stops.map f := by
  induction items generalizing k stops with
  | nil => rfl
  | cons item items ih =>
    rw [editedStops, ih]
    split
    · rw [List.map_map]
      apply List.map_congr_left
      intro s _
      rw [Function.comp_apply]
      split
      · exact hf item s
      · rfl
    · rfl

lemma editStops_found {k : ℕ} {items : List UpdateStopItem} {rows rows' : LoadRows}
    (h : editStops q k items rows = .ok rows') :
    ∀ item ∈ items, ∃ s ∈ rows.stops.rows, s.sequence = item.sequence := by
  induction items generalizing k rows with
  | nil => exact nofun
  | cons item items ih =>
    obtain ⟨mid, hmid, hrest⟩ := bind_eq_ok.mp h
    obtain ⟨_, stop, hstop, hrows⟩ := editStop_ok hmid
    refine List.forall_mem_cons.mpr ⟨⟨stop, findStop_some hstop⟩, fun other hother => ?_⟩
    obtain ⟨s, hs, hsequence⟩ := ih hrest other hother
    rw [hrows] at hs
    obtain ⟨s', hs', rfl⟩ := List.mem_map.mp hs
    refine ⟨s', hs', ?_⟩
    split at hsequence <;> exact hsequence

lemma unsettled_congr (hstops : stops'.map Stop.id = stops.map Stop.id) :
    Unsettled documents stops' ↔ Unsettled documents stops := by
  simp only [Unsettled, ofStops, hstops]

lemma updateStops_keepsStatus {dto : UpdateStopsInput} {rows : LoadRows}
    (h : updateStops q (some d.rows) dto = .ok rows)
    (hguard : (∀ item ∈ dto.stops, ∃ s ∈ d.rows.stops.rows, s.sequence = item.sequence) →
      ¬ Unsettled d.store.documents.rows d.rows.stops.rows →
        SamePods d.documentTypes d.store.documents.rows d.rows.stops.rows d.store.documents.rows
          (editedStops q 0 dto.stops d.rows.stops.rows)) : KeepsStatus d { d with rows } := by
  have hterms : rows.terms = d.rows.terms :=
    exec_terms (c := ⟨{ organizationId := 0 }, q, .updateStops dto⟩) h id
  have hstops := (updateStops_ok h).2
  have hids : rows.stops.rows.map Stop.id = d.rows.stops.rows.map Stop.id := by
    rw [hstops]
    exact editedStops_map (fun _ _ => rfl) 0 dto.stops d.rows.stops.rows
  refine ⟨LoadRows.terms_load hterms Load.podStatus (fun _ => rfl), rfl, fun hsettled => ?_⟩
  have hsettled' := fun hunsettled => hsettled ((unsettled_congr hids).mpr hunsettled)
  refine ⟨hsettled', ?_⟩
  change SamePods _ _ _ _ rows.stops.rows
  rw [hstops]
  obtain ⟨_, hfound, hrest⟩ := bind_eq_ok.mp h
  obtain rfl := Except.ok.inj hfound
  obtain ⟨edited, hedited, _⟩ := bind_eq_ok.mp hrest
  exact hguard (editStops_found hedited) hsettled'

lemma initiateReturn_keepsStatus {dto : InitiateReturnInput} {rows : LoadRows}
    (h : initiateReturn q (some d.rows) dto = .ok rows) : KeepsStatus d { d with rows } := by
  have hterms : rows.terms = d.rows.terms :=
    exec_terms (c := ⟨{ organizationId := 0 }, q, .initiateReturn dto⟩) h id
  simp only [initiateReturn, LoadRows.found_some, bind_eq_ok, Except.ok.injEq, exists_eq_left', ensure_eq_ok,
    pure_eq_ok] at h
  obtain ⟨_, _, _, _, withPickup, hpickup, withPair, hpair, rfl⟩ := h
  obtain ⟨_, hrows, _⟩ := LoadRows.createStop_ok hpickup
  obtain ⟨_, hrows', _⟩ := LoadRows.createStop_ok hpair
  refine ⟨LoadRows.terms_load hterms Load.podStatus (fun _ => rfl), rfl, fun hsettled => ?_⟩
  simp only [reEvaluateLoadStatus_stops, LoadRows.recordLoad_stops, hrows', hrows, List.append_assoc,
    List.singleton_append] at hsettled ⊢
  constructor
  · rintro ⟨v, hv, ⟨htype, hid⟩, hpending, hother⟩
    refine hsettled ⟨v, hv, ⟨htype, ?_⟩, hpending, hother⟩
    rw [List.map_append]
    exact List.mem_append_left _ hid
  · have hdelivery (a b : Stop) (ha : a.stopPurpose = .returnLeg) (hb : b.stopPurpose = .returnLeg) :
        deliveryStops (d.rows.stops.rows ++ [a, b]) = deliveryStops d.rows.stops.rows := by
      simp [deliveryStops, List.filter_append, isDeliveryStop, ha, hb]
    have hsame := hdelivery (returnStop dto.pickupStop (q.uuid 0) (nextSequence (q.order 0) d.rows) .pickup)
      (returnStop dto.deliveryStop (q.uuid 1) (nextSequence (q.order 0) d.rows + 1) .delivery) rfl rfl
    simp only [SamePods, SomePod, EveryPod, hsame, iff_self, implies_true, and_self]

lemma upload_current (op : DocumentOp) {dto : CreateDocumentInput} {store : DocumentStore} (hd : PodCurrent d)
    (hup : (c.documentCall d op).upload = some dto) (hok : (c.documentCall d op).exec d.store = .ok store)
    (hguard : ∀ dto ∈ (c.documentCall d op).upload,
      (checkUpload (d.documentContext c.request c.context) c.request dto).toOption.isSome →
        ¬ ofStops d.rows.stops.rows dto.entityType dto.entityId → ∀ v ∈ d.store.documents.rows,
          some v.documentFamilyId = dto.existingDocumentFamilyId → v.isCurrentVersion →
            ¬ Unsettled d.store.documents.rows d.rows.stops.rows →
              SamePods d.documentTypes d.store.documents.rows d.rows.stops.rows
                (d.store.documents.rows.filter (fun w => !(w.id == v.id))) d.rows.stops.rows) :
    PodCurrent { d with store } := by
  rw [exec_upload hup] at hok
  obtain ⟨huploaded, hcheck⟩ := initiateUpload_ok hok
  exact (upload_keepsStatus huploaded (hguard dto hup hcheck)).current hd

lemma exec_current (hkeeps : KeepsPods d c) (hd : PodCurrent d) (hok : c.exec d = .ok t) : PodCurrent t := by
  obtain ⟨x, q, op⟩ := c
  cases op with
  | updateStops dto =>
    obtain ⟨rows, hrows, rfl⟩ := map_eq_ok.mp hok
    exact (updateStops_keepsStatus hrows hkeeps).current hd
  | initiateReturn dto =>
    obtain ⟨rows, hrows, rfl⟩ := map_eq_ok.mp hok
    exact (initiateReturn_keepsStatus hrows).current hd
  | document op =>
    cases op with
    | initiateUpload dto =>
      obtain ⟨store, hstore, rfl⟩ := map_eq_ok.mp hok
      exact upload_current (.initiateUpload dto) hd rfl hstore hkeeps
    | initiatePodUpload loadId sequence dto =>
      obtain ⟨store, hstore, rfl⟩ := map_eq_ok.mp hok
      obtain ⟨created, hcreated, _⟩ := bind_eq_ok.mp hstore
      exact upload_current (.initiatePodUpload loadId sequence dto) hd (congrArg Except.toOption hcreated) hstore hkeeps
    | initiatePopUpload loadId sequence dto =>
      obtain ⟨store, hstore, rfl⟩ := map_eq_ok.mp hok
      obtain ⟨created, hcreated, _⟩ := bind_eq_ok.mp hstore
      exact upload_current (.initiatePopUpload loadId sequence dto) hd (congrArg Except.toOption hcreated) hstore hkeeps
    | review documentId decision =>
      obtain ⟨store, hstore, rfl⟩ := map_eq_ok.mp hok
      obtain ⟨⟨_, document⟩, hreview, rfl⟩ := map_eq_ok.mp hstore
      have hf := (keepsRow_decided q decision).on (fun v => v.id = documentId)
      refine (mapped_keepsStatus hf (review_rows hreview) (fun v _ _ => ?_)).current hd
      split
      · cases decision <;> rfl
      · rfl
    | applyScanResult documentId result =>
      obtain rfl := Except.ok.inj hok
      exact applyScanResult_current hd
    | deleteDocumentFamily documentId =>
      obtain ⟨store, hdelete, rfl⟩ := map_eq_ok.mp hok
      obtain ⟨hrole, document, hmem, hid, hfree, hrows⟩ := deleteDocumentFamily_ok hdelete
      have hguard := hkeeps hrole document hmem hid hfree
      dsimp only at hguard
      rw [← hrows] at hguard
      exact KeepsStatus.current (d := d) ⟨rfl, rfl, hguard⟩ hd

lemma Booked.podStatus {sequences : List ℤ} {rows : LoadRows} (h : Booked sequences rows) :
    rows.load.podStatus = .notReceived := by
  cases h with
  | direct h =>
    simp only [LoadService.createDirect, bind_eq_ok] at h
    obtain ⟨_, _, _, _, _, _, _, _, hbooking⟩ := h
    rw [(createFromBooking_ok hbooking).1]
    rfl
  | converted h h' =>
    simp only [QuoteService.convert, bind_eq_ok, pure_eq_ok, Prod.mk.injEq] at h'
    obtain ⟨_, _, _, _, _, _, _, _, load, hbooking, _, rfl⟩ := h'
    rw [(createFromBooking_ok hbooking).1]
    rfl

lemma booked_current {sequences : List ℤ} (hbooked : Booked sequences d.rows)
    (hfresh : ∀ v ∈ d.store.documents.rows, ¬ ofStops d.rows.stops.rows v.entityType v.entityId) : PodCurrent d := by
  refine Or.inr ?_
  have hnone : ¬ SomePod d.documentTypes d.store.documents.rows d.rows.stops.rows := by
    rintro ⟨s, hs, v, hv, hclean, hid⟩
    simp only [isCleanPod, Bool.and_eq_true, beq_iff_eq] at hclean
    exact hfresh v hv ⟨hclean.1.1.1, hid ▸ List.mem_map_of_mem (List.mem_of_mem_filter hs)⟩
  rw [hbooked.podStatus, derivePodStatus_eq d.rows.stops.nodup, if_neg hnone]

theorem pod_status_coherent {sequences : List ℤ} {calls : List PodCall} (hbooked : Booked sequences d.rows)
    (hfresh : ∀ v ∈ d.store.documents.rows, ¬ ofStops d.rows.stops.rows v.entityType v.entityId)
    (h : Run (Guarded (Serving PodCall.exec) KeepsPods) d calls t) : PodCoherent t := by
  have hcurrent : PodCurrent t := by
    refine h.invariant (fun a c b ha hb => ?_) (booked_current hbooked hfresh)
    obtain ⟨rfl, hkeeps⟩ := hb
    rcases attempt_cases PodCall.exec a c with hrefused | hok
    · rwa [hrefused]
    · exact exec_current hkeeps ha hok
  exact hcurrent.coherent

instance : DecidablePred PodCoherent := by
  unfold PodCoherent ofStops
  infer_instance

instance (documents : List DocumentVersion) (stops : List Stop) : Decidable (Unsettled documents stops) := by
  unfold Unsettled ofStops
  infer_instance

instance : Decidable (SamePods documentTypes documents stops documents' stops') := by
  unfold SamePods
  infer_instance

instance (d : PodDb) (c : PodCall) : Decidable (KeepsPods d c) := by
  unfold KeepsPods ofStops
  split <;> infer_instance

namespace Sample

def podType : DocumentTypeDefinition := ⟨⟨9, none, "POD"⟩, false⟩

def bookedPod : PodDb := ⟨booked, { documents := .empty }, [podType]⟩

def podFile : UploadInput where
  fileName := "pod.pdf"
  mimeType := .pdf
  fileSizeBytes := 1

def podCalls (ops : List PodOp) : List PodCall :=
  ops.mapIdx (fun n op => ⟨{ organizationId := 1, roles := [.admin], documentTypes := [] }, request (n + 2), op⟩)

def podAfter (ops : List PodOp) : PodDb := (podCalls ops).foldl (attempt PodCall.exec) bookedPod

lemma podAfter_run (ops : List PodOp) : Run (Serving PodCall.exec) bookedPod (podCalls ops) (podAfter ops) :=
  run_total _ _ _

def received : List PodOp :=
  [.document (.initiatePodUpload booked.load.id 2 podFile), .document (.applyScanResult 200 ⟨.clean, "clamav"⟩),
    .document (.initiatePodUpload booked.load.id 2 { podFile with existingDocumentFamilyId := some 201 }),
    .document (.applyScanResult 400 ⟨.clean, "clamav"⟩),
    .updateStops { stops := [{ details with sequence := 2, stopType := .delivery }] }]

def deleted : List PodOp := received ++ [.document (.deleteDocumentFamily 400)]

end Sample

open Sample

theorem pod_status_coherent_sample :
    PodCoherent (podAfter received) ∧ (podAfter received).rows.load.podStatus = .complete := by
  refine ⟨?_, by decide⟩
  exact pod_status_coherent (d := bookedPod) (.direct booked_eq) (fun _ hv => absurd hv List.not_mem_nil)
    (run_total_checked (by decide))

theorem deleted_pod_stays_received :
    Booked [1, 2] bookedPod.rows ∧ bookedPod.store.documents.rows = [] ∧
    Run (Serving PodCall.exec) bookedPod (podCalls deleted) (podAfter deleted) ∧
    (podAfter deleted).store.documents.rows = [] ∧ (podAfter deleted).rows.load.podStatus = .complete ∧
    ¬ PodCoherent (podAfter deleted) :=
  ⟨.direct booked_eq, rfl, podAfter_run deleted, by decide, by decide, by decide⟩

end Truckmaster.QuoteLoad
