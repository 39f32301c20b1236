import Truckmaster.Library.Sweeps
import Truckmaster.Carriers.Eligibility

namespace Truckmaster.Carriers

open Common Documents Tables Transactions Sweeps CarrierEligibilityService

namespace CarrierComplianceExpirationSweepService

def expirableDocumentCodes : List String := ["MC_AUTHORITY", "CARRIER_AGREEMENT"]

def isStale (now : Instant) (documentTypes : List DocumentTypeDefinition) (v : DocumentVersion) : Bool :=
  v.entityType == .carrier && v.isCurrentVersion && v.reviewStatus == some .approved &&
    v.expirationDate.any (fun t => decide (t < dateOf now)) &&
    (codeOf documentTypes v).any (fun code => expirableDocumentCodes.contains code)

def loadStaleDocs (o : RowOrder) (now : Instant) (d : CarrierDb) : List DocumentVersion :=
  findMany o (isStale now d.documentTypes) d.documents.rows

def loadActiveCarriers (o : RowOrder) (d : CarrierDb) : List Carrier :=
  findMany o (fun c => c.status == .active) d.carriers.rows

def expired (v : DocumentVersion) : DocumentVersion := { v with reviewStatus := some .expired }

def expireDocument (id : Uuid) (d : CarrierDb) : Option CarrierDb :=
  if (d.documents.get id).isSome then
    some { d with
      documents := d.documents.update id expired (fun _ => rfl)
      audit := d.audit ++ [⟨"Compliance Item Expired", "Document", id, none, .system, none⟩] }
  else none

/-- The clock, the orders of the rows and the failures that the pass over one organization meets. -/
structure Circumstances where
  loadedAt : Instant
  documentOrder : RowOrder
  carrierOrder : RowOrder
  recalculation : Uuid → Request
  documentsFail : Bool
  documentFails : Uuid → Bool
  carriersFail : Bool
  carrierFails : Uuid → Bool

def recalculateCarrier (x : Circumstances) (id : Uuid) (d : CarrierDb) : Option CarrierDb :=
  ((recalculate (x.recalculation id) id).exec CarrierDb.write d).toOption

structure Summary where
  orgsScanned : ℕ := 0
  documents : Tally := {}
  carriers : Tally := {}
  deriving DecidableEq, Repr

def runOrganization (x : Circumstances) (d : CarrierDb) (s : Summary) : CarrierDb × Summary :=
  let staleDocs := if x.documentsFail then [] else (loadStaleDocs x.documentOrder x.loadedAt d).map (fun v => v.id)
  let (d, documents) := sweep x.documentFails expireDocument staleDocs d s.documents
  if x.carriersFail then (d, { s with orgsScanned := s.orgsScanned + 1, documents })
  else
    let activeCarriers := (loadActiveCarriers x.carrierOrder d).map Carrier.id
    let (d, carriers) := sweep x.carrierFails (recalculateCarrier x) activeCarriers d s.carriers
    (d, { orgsScanned := s.orgsScanned + 1, documents, carriers })

def run : List (Circumstances × CarrierDb) → Summary → List CarrierDb × Summary
  | [], s => ([], s)
  | (x, d) :: rest, s =>
    let (d, s) := runOrganization x d s
    let (others, s) := run rest s
    (d :: others, s)

def Circumstances.expires (x : Circumstances) (d : CarrierDb) (v : DocumentVersion) : Bool :=
  !x.documentsFail && isStale x.loadedAt d.documentTypes v && !x.documentFails v.id

def Circumstances.recalculates (x : Circumstances) (c : Carrier) : Bool :=
  !x.carriersFail && c.status == .active && !x.carrierFails c.id

end CarrierComplianceExpirationSweepService

open CarrierComplianceExpirationSweepService

namespace CarrierDb

structure SameInputs (d t : CarrierDb) : Prop where
  documentTypes : t.documentTypes = d.documentTypes
  insurance : t.insuranceRecords = d.insuranceRecords
  fmcsa : t.fmcsaVerifications = d.fmcsaVerifications
  carriers : t.carriers.rows.map (fun c => (c.id, c.status)) = d.carriers.rows.map (fun c => (c.id, c.status))

end CarrierDb

open CarrierDb

variable {d t u : CarrierDb} {x : Circumstances} {s : Summary} {q : Request}

lemma CarrierDb.SameInputs.refl (d : CarrierDb) : SameInputs d d := ⟨rfl, rfl, rfl, rfl⟩

lemma CarrierDb.SameInputs.trans (h : SameInputs d t) (h' : SameInputs t u) : SameInputs d u where
  documentTypes := h'.documentTypes.trans h.documentTypes
  insurance := h'.insurance.trans h.insurance
  fmcsa := h'.fmcsa.trans h.fmcsa
  carriers := h'.carriers.trans h.carriers

lemma CarrierDb.SameInputs.mem (h : SameInputs d t) {c : Carrier} (hc : c ∈ t.carriers.rows) :
    ∃ b ∈ d.carriers.rows, b.id = c.id ∧ b.status = c.status := by
  have hpair : (c.id, c.status) ∈ d.carriers.rows.map (fun c => (c.id, c.status)) := by
    rw [← h.carriers]
    exact List.mem_map_of_mem hc
  obtain ⟨b, hb, heq⟩ := List.mem_map.mp hpair
  exact ⟨b, hb, Prod.mk.inj heq⟩

section Documents

def documentsSwept (x : Circumstances) (d : CarrierDb) (s : Summary) : CarrierDb × Tally :=
  sweep x.documentFails expireDocument
    (if x.documentsFail then [] else (loadStaleDocs x.documentOrder x.loadedAt d).map (fun v => v.id)) d s.documents

def carriersSwept (x : Circumstances) (d : CarrierDb) (s : Summary) : CarrierDb × Tally :=
  if x.carriersFail then (d, s.carriers)
  else sweep x.carrierFails (recalculateCarrier x) ((loadActiveCarriers x.carrierOrder d).map Carrier.id) d s.carriers

lemma runOrganization_eq (x : Circumstances) (d : CarrierDb) (s : Summary) : runOrganization x d s =
    ((carriersSwept x (documentsSwept x d s).1 s).1,
      ⟨s.orgsScanned + 1, (documentsSwept x d s).2, (carriersSwept x (documentsSwept x d s).1 s).2⟩) := by
  rw [runOrganization, carriersSwept, documentsSwept]
  cases x.carriersFail <;> rfl

def expiredAmong (ids : List Uuid) (fails : Uuid → Bool) (v : DocumentVersion) : DocumentVersion :=
  if v.id ∈ ids ∧ fails v.id = false then expired v else v

lemma expireDocument_some {id : Uuid} (h : expireDocument id d = some t) :
    t.documents.rows = d.documents.rows.map (fun v => if v.id = id then expired v else v) ∧ t.carriers = d.carriers ∧
      SameInputs d t := by
  rw [expireDocument] at h
  split at h
  · obtain rfl := Option.some.inj h
    exact ⟨d.documents.update_rows id expired (fun _ => rfl), rfl, rfl, rfl, rfl, rfl⟩
  · cases h

lemma expireDocument_ok {id : Uuid} (h : id ∈ d.documents.rows.map (fun v => v.id)) :
    ∃ t, expireDocument id d = some t := by
  obtain ⟨v, hv, rfl⟩ := List.mem_map.mp h
  have hget : d.documents.get v.id = some v := Table.get_eq_some.mpr ⟨hv, rfl⟩
  exact ⟨_, by rw [expireDocument, hget]; rfl⟩

lemma expireDocument_none {id : Uuid} (h : expireDocument id d = none) : ∀ v ∈ d.documents.rows, v.id ≠ id := by
  rintro v hv rfl
  obtain ⟨t, ht⟩ := expireDocument_ok (List.mem_map_of_mem (f := fun v : DocumentVersion => v.id) hv)
  rw [h] at ht
  cases ht

lemma step_documents (fails : Uuid → Bool) (y : CarrierDb × Tally) (id : Uuid) :
    (step fails expireDocument y id).1.documents.rows = y.1.documents.rows.map (expiredAmong [id] fails) := by
  have hkept (h : ∀ v ∈ y.1.documents.rows, v.id = id → fails id = true) :
      y.1.documents.rows = y.1.documents.rows.map (expiredAmong [id] fails) := by
    refine (List.map_id _).symm.trans (List.map_congr_left (fun v hv => ?_))
    refine (if_neg ?_).symm
    rintro ⟨hid, hfails⟩
    obtain rfl := List.mem_singleton.mp hid
    rw [h v hv rfl] at hfails
    cases hfails
  cases hfails : fails id with
  | true =>
    rw [step_failed hfails]
    exact hkept (fun _ _ _ => hfails)
  | false =>
    cases hexpire : expireDocument id y.1 with
    | none =>
      have hstep : (step fails expireDocument y id).1 = y.1 := by simp [step, hfails, hexpire]
      rw [hstep]
      exact hkept (fun v hv hid => absurd hid (expireDocument_none hexpire v hv))
    | some t =>
      rw [step_ok hfails hexpire, (expireDocument_some hexpire).1]
      refine List.map_congr_left (fun v _ => ?_)
      by_cases hid : v.id = id
      · rw [if_pos hid, expiredAmong, if_pos ⟨List.mem_singleton.mpr hid, hid ▸ hfails⟩]
      · rw [if_neg hid, expiredAmong, if_neg (fun h => hid (List.mem_singleton.mp h.1))]

lemma expiredAmong_cons (id : Uuid) (ids : List Uuid) (fails : Uuid → Bool) (v : DocumentVersion) :
    expiredAmong ids fails (expiredAmong [id] fails v) = expiredAmong (id :: ids) fails v := by
  by_cases hid : v.id = id
  · subst hid
    cases hfails : fails v.id with
    | true => simp [expiredAmong, hfails]
    | false => simp [expiredAmong, expired, hfails]
  · simp [expiredAmong, hid]

lemma foldl_documents (fails : Uuid → Bool) (ids : List Uuid) (y : CarrierDb × Tally) :
    (ids.foldl (step fails expireDocument) y).1.documents.rows =
      y.1.documents.rows.map (expiredAmong ids fails) := by
  induction ids generalizing y with
  | nil =>
    have hnone : expiredAmong [] fails = id := by
      funext v
      exact if_neg (fun h => List.not_mem_nil h.1)
    rw [hnone, List.map_id, List.foldl_nil]
  | cons id ids ih =>
    rw [List.foldl_cons, ih, step_documents, List.map_map]
    exact List.map_congr_left (fun v _ => expiredAmong_cons id ids fails v)

lemma mem_staleIds {v : DocumentVersion} (hv : v ∈ d.documents.rows) :
    v.id ∈ (loadStaleDocs x.documentOrder x.loadedAt d).map (fun v => v.id) ↔
      isStale x.loadedAt d.documentTypes v = true := by
  constructor
  · intro h
    obtain ⟨w, hw, hid⟩ := List.mem_map.mp h
    obtain ⟨hmem, hstale⟩ := mem_findMany.mp hw
    obtain rfl := d.documents.eq_of_key hmem hv hid
    exact hstale
  · exact fun hstale => List.mem_map_of_mem (f := fun v : DocumentVersion => v.id) (mem_findMany.mpr ⟨hv, hstale⟩)

lemma documentsSwept_documents (x : Circumstances) (d : CarrierDb) (s : Summary) :
    (documentsSwept x d s).1.documents.rows =
      d.documents.rows.map (fun v => if x.expires d v then expired v else v) := by
  rw [documentsSwept, sweep, foldl_documents]
  refine List.map_congr_left (fun v hv => ?_)
  rw [expiredAmong, Circumstances.expires]
  cases hload : x.documentsFail with
  | true => simp
  | false => simp [mem_staleIds hv]

lemma documentsSwept_inputs (x : Circumstances) (d : CarrierDb) (s : Summary) :
    (documentsSwept x d s).1.carriers = d.carriers ∧ SameInputs d (documentsSwept x d s).1 := by
  refine foldl_invariant (x := (d, _)) (P := fun t => t.carriers = d.carriers ∧ SameInputs d t) ?_ ⟨rfl, .refl d⟩
  intro id _ _ t u ht hexpire
  obtain ⟨_, hcarriers, hinputs⟩ := expireDocument_some hexpire
  exact ⟨hcarriers.trans ht.1, ht.2.trans hinputs⟩

end Documents

section Recalculations

lemma findCarrier_of_mem {c : Carrier} (hc : c ∈ d.carriers.rows) (o : RowOrder) : d.findCarrier o c.id = some c := by
  cases hfound : d.findCarrier o c.id with
  | none => exact absurd (beq_iff_eq.mpr rfl) (Bool.eq_false_iff.mp (findFirst_none.mp hfound c hc))
  | some b =>
    obtain ⟨hb, hid⟩ := findFirst_some hfound
    rw [d.carriers.eq_of_key hb hc (beq_iff_eq.mp hid)]

lemma recalculated_inputs (q : Request) (d : CarrierDb) (c : Carrier) : SameInputs d (recalculated q d c) := by
  refine ⟨rfl, rfl, rfl, ?_⟩
  have hrows := d.carriers.update_rows c.id
    (.withEligibility (ineligibilityReasons q d c).isEmpty (ineligibilityReasons q d c)) (fun _ => rfl)
  refine (congrArg (List.map _) hrows).trans ?_
  rw [List.map_map]
  refine List.map_congr_left (fun b _ => ?_)
  simp only [Function.comp_apply]
  split <;> rfl

structure RecalculatedIn (x : Circumstances) (id : Uuid) (d t : CarrierDb) : Prop where
  inputs : SameInputs d t
  documents : t.documents = d.documents
  coherent : t.CoherentAt (x.recalculation id).now id
  others : ∀ other, other ≠ id → SameFor other d t

lemma recalculateCarrier_ok (x : Circumstances) {c : Carrier} (hc : c ∈ d.carriers.rows) :
    ∃ t, recalculateCarrier x c.id d = some t ∧ RecalculatedIn x c.id d t := by
  have hrun := run_recalculate (findCarrier_of_mem hc ((x.recalculation c.id).order 13))
  have honly := run_about (writes_recalculate (routine_about c.id) (x.recalculation c.id)) hrun
  refine ⟨recalculated (x.recalculation c.id) d c, ?_, recalculated_inputs _ d c, honly.documents,
    recalculate_coherent _ _ _ _ _ hrun, honly.others⟩
  rw [recalculateCarrier, Txn.exec, hrun]
  rfl

lemma mem_activeIds {c : Carrier} (hc : c ∈ d.carriers.rows) :
    c.id ∈ (loadActiveCarriers x.carrierOrder d).map Carrier.id ↔ c.status = .active := by
  constructor
  · intro h
    obtain ⟨b, hb, hid⟩ := List.mem_map.mp h
    obtain ⟨hmem, hactive⟩ := mem_findMany.mp hb
    obtain rfl := d.carriers.eq_of_key hmem hc hid
    exact beq_iff_eq.mp hactive
  · exact fun hactive => List.mem_map_of_mem (mem_findMany.mpr ⟨hc, beq_iff_eq.mpr hactive⟩)

lemma activeIds_nodup : ((loadActiveCarriers x.carrierOrder d).map Carrier.id).Nodup :=
  ((findMany_perm _ _ _).map Carrier.id).nodup_iff.mpr (d.carriers.nodup.sublist (List.filter_sublist.map Carrier.id))

lemma active_present {id : Uuid} (hid : id ∈ (loadActiveCarriers x.carrierOrder d).map Carrier.id)
    (ht : SameInputs d t) : ∃ c ∈ t.carriers.rows, c.id = id := by
  obtain ⟨b, hb, rfl⟩ := List.mem_map.mp hid
  have hpair : (b.id, b.status) ∈ t.carriers.rows.map (fun c => (c.id, c.status)) := by
    rw [ht.carriers]
    exact List.mem_map_of_mem (f := fun c : Carrier => (c.id, c.status)) (mem_findMany.mp hb).1
  obtain ⟨c, hc, heq⟩ := List.mem_map.mp hpair
  exact ⟨c, hc, (Prod.mk.inj heq).1⟩

lemma active_ok {id : Uuid} (hid : id ∈ (loadActiveCarriers x.carrierOrder d).map Carrier.id) (ht : SameInputs d t) :
    ∃ u, recalculateCarrier x id t = some u ∧ RecalculatedIn x id t u := by
  obtain ⟨c, hc, rfl⟩ := active_present hid ht
  exact recalculateCarrier_ok x hc

lemma active_recalculated {id : Uuid} (hid : id ∈ (loadActiveCarriers x.carrierOrder d).map Carrier.id)
    (ht : SameInputs d t) (h : recalculateCarrier x id t = some u) : RecalculatedIn x id t u := by
  obtain ⟨v, hv, hrecalculated⟩ := active_ok hid ht
  rwa [Option.some.inj (h.symm.trans hv)]

lemma carriersSwept_inputs (x : Circumstances) (d : CarrierDb) (s : Summary) :
    (carriersSwept x d s).1.documents = d.documents ∧ SameInputs d (carriersSwept x d s).1 := by
  rw [carriersSwept]
  split
  · exact ⟨rfl, .refl d⟩
  · refine foldl_invariant (x := (d, _)) (P := fun t => t.documents = d.documents ∧ SameInputs d t) ?_ ⟨rfl, .refl d⟩
    intro id hid _ t u ht hu
    have hrecalculated := active_recalculated hid ht.2 hu
    exact ⟨hrecalculated.documents.trans ht.1, ht.2.trans hrecalculated.inputs⟩

lemma carriersSwept_coherent {c : Carrier} (hc : c ∈ d.carriers.rows) (h : x.recalculates c = true) :
    (carriersSwept x d s).1.CoherentAt (x.recalculation c.id).now c.id := by
  simp only [Circumstances.recalculates, Bool.and_eq_true, Bool.not_eq_true', beq_iff_eq] at h
  obtain ⟨⟨hload, hactive⟩, hfails⟩ := h
  rw [carriersSwept]
  rw [if_neg (by simp [hload])]
  refine foldl_establishes (P := SameInputs d) (Q := fun id t => t.CoherentAt (x.recalculation id).now id)
    (fun id hid t ht => ?_) (fun j id hid hj t u ht hu hcoherent => ?_) activeIds_nodup (.refl d) c.id
    ((mem_activeIds hc).mpr hactive) hfails
  · obtain ⟨u, hu, hrecalculated⟩ := active_ok hid ht
    exact ⟨u, hu, ht.trans hrecalculated.inputs, hrecalculated.coherent⟩
  · exact ((active_recalculated hid ht hu).others j hj).coherent hcoherent

lemma carriersSwept_others {c : Carrier} (hc : c ∈ d.carriers.rows) (h : x.recalculates c = false) :
    c ∈ (carriersSwept x d s).1.carriers.rows := by
  rw [carriersSwept]
  split
  · exact hc
  · rename_i hload
    refine (foldl_invariant (P := fun t => SameInputs d t ∧ c ∈ t.carriers.rows) ?_ ⟨.refl d, hc⟩).2
    intro id hid hfails t u ht hu
    have hrecalculated := active_recalculated hid ht.1 hu
    have hne : c.id ≠ id := by
      rintro rfl
      have hactive := (mem_activeIds hc).mp hid
      simp [Circumstances.recalculates, hload, hactive, hfails] at h
    exact ⟨ht.1.trans hrecalculated.inputs, ((hrecalculated.others c.id hne).carriers c rfl).mpr ht.2⟩

end Recalculations

section Tallies

def documentTally (x : Circumstances) (d : CarrierDb) : Tally :=
  .ofRows (fun v => !x.documentsFail && isStale x.loadedAt d.documentTypes v) (fun v => x.documentFails v.id)
    d.documents.rows

def carrierTally (x : Circumstances) (d : CarrierDb) : Tally :=
  .ofRows (fun c => !x.carriersFail && c.status == .active) (fun c => x.carrierFails c.id) d.carriers.rows

lemma documentsSwept_tally (x : Circumstances) (d : CarrierDb) (s : Summary) :
    (documentsSwept x d s).2 = s.documents.plus (documentTally x d) := by
  have hids (t u : CarrierDb) (id : Uuid) (h : expireDocument id t = some u) :
      u.documents.rows.map (fun v => v.id) = t.documents.rows.map (fun v => v.id) := by
    rw [(expireDocument_some h).1, List.map_map]
    refine List.map_congr_left (fun v _ => ?_)
    simp only [Function.comp_apply]
    split <;> rfl
  refine (sweep_tally (P := fun t => t.documents.rows.map (fun v => v.id) = d.documents.rows.map (fun v => v.id))
    (fun id hid t ht => ?_) rfl).trans (congrArg _ ?_)
  · have hmem : id ∈ t.documents.rows.map (fun v => v.id) := by
      rw [ht]
      split at hid
      · exact absurd hid List.not_mem_nil
      · obtain ⟨v, hv, rfl⟩ := List.mem_map.mp hid
        exact List.mem_map_of_mem (f := fun v : DocumentVersion => v.id) (mem_findMany.mp hv).1
    obtain ⟨u, hu⟩ := expireDocument_ok hmem
    exact ⟨u, hu, (hids t u id hu).trans ht⟩
  · rw [documentTally]
    cases hload : x.documentsFail with
    | true => simp [Tally.ofRows]
    | false => exact Tally.ofRows_perm (findMany_perm _ _ _)

lemma carriersSwept_tally (x : Circumstances) (d : CarrierDb) (s : Summary) :
    (carriersSwept x d s).2 = s.carriers.plus (carrierTally x d) := by
  rw [carriersSwept, carrierTally]
  cases hload : x.carriersFail with
  | true => simp [Tally.ofRows, Tally.plus]
  | false =>
    refine (sweep_tally (P := SameInputs d) (fun id hid t ht => ?_) (.refl d)).trans (congrArg _ ?_)
    · obtain ⟨u, hu, hrecalculated⟩ := active_ok hid ht
      exact ⟨u, hu, ht.trans hrecalculated.inputs⟩
    · exact Tally.ofRows_perm (findMany_perm _ _ _)

end Tallies

structure Swept (x : Circumstances) (d t : CarrierDb) : Prop where
  inputs : SameInputs d t
  documents : t.documents.rows = d.documents.rows.map (fun v => if x.expires d v then expired v else v)
  coherent : ∀ c ∈ d.carriers.rows, x.recalculates c = true → t.CoherentAt (x.recalculation c.id).now c.id
  others : ∀ c ∈ d.carriers.rows, x.recalculates c = false → c ∈ t.carriers.rows

lemma runOrganization_swept (x : Circumstances) (d : CarrierDb) (s : Summary) :
    Swept x d (runOrganization x d s).1 := by
  obtain ⟨hcarriers, hinputs⟩ := documentsSwept_inputs x d s
  obtain ⟨hdocuments, hinputs'⟩ := carriersSwept_inputs x (documentsSwept x d s).1 s
  rw [runOrganization_eq]
  refine ⟨hinputs.trans hinputs', ?_, fun c hc h => ?_, fun c hc h => ?_⟩
  · rw [hdocuments, documentsSwept_documents]
  · exact carriersSwept_coherent (hcarriers ▸ hc) h
  · exact carriersSwept_others (hcarriers ▸ hc) h

lemma runOrganization_tallies (x : Circumstances) (d : CarrierDb) (s : Summary) : (runOrganization x d s).2 =
    ⟨s.orgsScanned + 1, s.documents.plus (documentTally x d), s.carriers.plus (carrierTally x d)⟩ := by
  have hrows : carrierTally x (documentsSwept x d s).1 = carrierTally x d := by
    rw [carrierTally, carrierTally, (documentsSwept_inputs x d s).1]
  rw [runOrganization_eq, documentsSwept_tally, carriersSwept_tally, hrows]

lemma run_each {R : Circumstances × CarrierDb → CarrierDb → Prop}
    (h : ∀ o s, R o (runOrganization o.1 o.2 s).1) (orgs : List (Circumstances × CarrierDb)) (s : Summary) :
    List.Forall₂ R orgs (run orgs s).1 := by
  induction orgs generalizing s with
  | nil => exact .nil
  | cons o orgs ih => exact .cons (h o s) (ih _)

lemma run_tallies (orgs : List (Circumstances × CarrierDb)) (s : Summary) : (run orgs s).2 =
    ⟨s.orgsScanned + orgs.length, s.documents.plus (.total (fun o => documentTally o.1 o.2) orgs),
      s.carriers.plus (.total (fun o => carrierTally o.1 o.2) orgs)⟩ := by
  induction orgs generalizing s with
  | nil => rfl
  | cons o orgs ih =>
    have hrest := ih (runOrganization o.1 o.2 s).2
    rw [runOrganization_tallies] at hrest
    refine (show (run (o :: orgs) s).2 = (run orgs (runOrganization o.1 o.2 s).2).2 from rfl).trans ?_
    rw [runOrganization_tallies, hrest]
    simp [Tally.total, Tally.plus_assoc, Nat.add_assoc, Nat.add_comm 1]

theorem organizations_swept (orgs : List (Circumstances × CarrierDb)) :
    List.Forall₂ (fun o t => Swept o.1 o.2 t) orgs (run orgs {}).1 ∧
      (run orgs {}).2 = ⟨orgs.length, .total (fun o => documentTally o.1 o.2) orgs,
        .total (fun o => carrierTally o.1 o.2) orgs⟩ := by
  refine ⟨run_each (fun o s => runOrganization_swept o.1 o.2 s) orgs {}, ?_⟩
  rw [run_tallies, Tally.none_plus, Tally.none_plus, Nat.zero_add]

section Current

variable {c : Carrier}

structure Current (x : Circumstances) (t : CarrierDb) (c : Carrier) : Prop where
  documents : ∀ code ∈ requiredComplianceCodes, ∃ v ∈ t.documents.rows, v.entityType = .carrier ∧ v.entityId = c.id ∧
    v.isCurrentVersion = true ∧ codeOf t.documentTypes v = some code ∧ v.reviewStatus = some .approved ∧
    (code ∈ expirableDocumentCodes → x.documentFails v.id = false → ∀ date ∈ v.expirationDate, dateOf x.loadedAt ≤ date)
  insurance : ∀ coverageType, ∃ r ∈ t.insuranceRecords, r.carrierId = c.id ∧ r.coverageType = coverageType ∧
    (x.recalculation c.id).now ≤ r.expirationDate ∧
    ∃ v ∈ t.documents.rows, v.id = r.coiDocumentId ∧ v.reviewStatus = some .approved

lemma documentReasons_nil {documentTypes : List DocumentTypeDefinition} {docs : List DocumentVersion}
    (h : documentReasons documentTypes docs = []) {code : String} (hcode : code ∈ requiredComplianceCodes) :
    ∃ v ∈ docs, codeOf documentTypes v = some code ∧ v.reviewStatus = some .approved := by
  have happroved : isApproved documentTypes docs code = true := by
    have hnone := List.filter_eq_nil_iff.mp (List.map_eq_nil_iff.mp h) code hcode
    simpa using hnone
  obtain ⟨v, hfound, hstatus⟩ := (Option.any_eq_true _ _).mp happroved
  exact ⟨v, List.mem_of_find?_eq_some hfound, by simpa using List.find?_some hfound, by simpa using hstatus⟩

lemma insuranceReasons_nil {now : Instant} {documents : List DocumentVersion} {records : List CarrierInsurance}
    (h : insuranceReasons now documents records = []) (coverageType : InsuranceCoverageType) :
    isCovered now documents records coverageType = true := by
  have hnone := List.filter_eq_nil_iff.mp (List.map_eq_nil_iff.mp h) coverageType (by cases coverageType <;> decide)
  simpa using hnone

lemma Swept.approved (h : Swept x d t) (hload : x.documentsFail = false) {v : DocumentVersion}
    (hv : v ∈ t.documents.rows) (hstatus : v.reviewStatus = some .approved) (hfails : x.documentFails v.id = false) :
    isStale x.loadedAt t.documentTypes v = false := by
  rw [h.documents] at hv
  obtain ⟨u, _, rfl⟩ := List.mem_map.mp hv
  rw [h.inputs.documentTypes]
  cases hexpires : x.expires d u with
  | true =>
    rw [if_pos hexpires] at hstatus
    cases hstatus
  | false =>
    rw [if_neg (Bool.eq_false_iff.mp hexpires)] at hfails
    simpa [Circumstances.expires, hload, hfails] using hexpires

lemma Swept.current (h : Swept x d t) (hload : x.documentsFail = false) (hc : c ∈ t.carriers.rows)
    (hrecalculates : x.recalculates c = true) (heligible : c.assignmentEligible = true) : Current x t c := by
  obtain ⟨b, hb, hid, hstatus⟩ := h.inputs.mem hc
  have hb' : x.recalculates b = true := by
    rw [← hrecalculates, Circumstances.recalculates, Circumstances.recalculates, hid, hstatus]
  have hcoherent := h.coherent b hb hb'
  rw [hid] at hcoherent
  obtain ⟨reasons, ⟨docs, hdocs, _, _, rfl⟩, hrow⟩ := hcoherent c hc rfl
  rw [hrow] at heligible
  have hnone := List.isEmpty_iff.mp heligible
  obtain ⟨hcompliance, _⟩ := List.append_eq_nil_iff.mp (List.append_eq_nil_iff.mp hnone).2
  obtain ⟨hdocuments, hinsurance⟩ := List.append_eq_nil_iff.mp hcompliance
  refine ⟨fun code hcode => ?_, fun coverageType => ?_⟩
  · obtain ⟨v, hv, hof, happroved⟩ := documentReasons_nil hdocuments hcode
    obtain ⟨hmem, hcompliance⟩ := hdocs.mem_iff.mp hv
    simp only [isComplianceDocument, Bool.and_eq_true, beq_iff_eq] at hcompliance
    obtain ⟨⟨⟨hcarrier, hentity⟩, hcurrent⟩, _⟩ := hcompliance
    refine ⟨v, hmem, hcarrier, hentity, hcurrent, hof, happroved, fun hexpirable hfails date hdate => ?_⟩
    have hstale := h.approved hload hmem happroved hfails
    by_contra hpast
    have hexpired : isStale x.loadedAt t.documentTypes v = true := by
      simp [isStale, hcarrier, hcurrent, happroved, Option.mem_def.mp hdate, hof, hexpirable, not_le.mp hpast]
    exact Bool.false_ne_true (hstale.symm.trans hexpired)
  · have hcovered := insuranceReasons_nil hinsurance coverageType
    obtain ⟨r, hr, hmatch⟩ := List.any_eq_true.mp hcovered
    obtain ⟨hrecord, howner⟩ := List.mem_filter.mp hr
    simp only [Bool.and_eq_true, beq_iff_eq, decide_eq_true_eq, List.any_eq_true] at hmatch
    obtain ⟨⟨htype, hdate⟩, v, hv, hcoi, happroved⟩ := hmatch
    exact ⟨r, hrecord, beq_iff_eq.mp howner, htype, hdate, v, hv, hcoi, happroved⟩

end Current

theorem eligible_carriers_current (orgs : List (Circumstances × CarrierDb)) :
    List.Forall₂ (fun o t => o.1.documentsFail = false → ∀ c ∈ t.carriers.rows, o.1.recalculates c = true →
      c.assignmentEligible = true → Current o.1 t c) orgs (run orgs {}).1 :=
  run_each (fun o s hload _ hc hrecalculates heligible =>
    (runOrganization_swept o.1 o.2 s).current hload hc hrecalculates heligible) orgs {}

namespace Sample

def noonOf (day : ℕ) : ℕ := 86400000 * day + 43200000

def lapsingAuthority : CarrierDb :=
  { compliant with
    documents := compliant.documents.update 13 (fun v => { v with expirationDate := some (86400000 * 10) }) (fun _ => rfl)
    carriers := compliant.carriers.update 5
      (fun c => { c with status := .active, assignmentEligible := true, ineligibilityReasons := some [] })
      (fun _ => rfl) }

def sweepAt (n : ℕ) : Circumstances where
  loadedAt := n
  documentOrder := .stored
  carrierOrder := .stored
  recalculation _ := request n
  documentsFail := false
  documentFails _ := false
  carriersFail := false
  carrierFails _ := false

def sweptOn (days : List ℕ) : CarrierDb :=
  days.foldl (fun d day => (runOrganization (sweepAt (noonOf day)) d {}).1) lapsingAuthority

end Sample

open Sample in
theorem eligible_carriers_current_sample :
    (∀ c ∈ (sweptOn [10]).carriers.rows, c.assignmentEligible = true ∧ Current (sweepAt (noonOf 10)) (sweptOn [10]) c) ∧
    ∀ c ∈ (sweptOn [10, 11]).carriers.rows, c.ineligibilityReasons = some ["MC Authority is not approved"] := by
  have heligible : ∀ c ∈ (sweptOn [10]).carriers.rows,
      (sweepAt (noonOf 10)).recalculates c = true ∧ c.assignmentEligible = true := by decide
  have hcurrent := (List.forall₂_cons.mp (eligible_carriers_current [(sweepAt (noonOf 10), lapsingAuthority)])).1 rfl
  refine ⟨fun c hc => ?_, by decide⟩
  obtain ⟨hrecalculates, hyes⟩ := heligible c hc
  exact ⟨hyes, hcurrent c hc hrecalculates hyes⟩

end Truckmaster.Carriers
