import Truckmaster.Carriers.CarrierEffects

namespace Truckmaster.Carriers

open Common Documents Fallible Tables Transactions CarrierEligibilityService

namespace CarrierDb

/-- The service computes `reasons` for the carrier if the database answers its ordered queries so. -/
def Computes (now : Instant) (d : CarrierDb) (c : Carrier) (reasons : List String) : Prop :=
  ∃ docs, Answer (isComplianceDocument d.documentTypes c.id) byUploadedAtDesc d.documents.rows docs ∧
  ∃ verifications, Answer (fun v => v.carrierId == c.id) byVerificationDateDesc d.fmcsaVerifications verifications ∧
    reasons = statusReasons c.status ++ (documentReasons d.documentTypes docs ++
      insuranceReasons now d.documents.rows (d.insuranceRecords.filter (fun r => r.carrierId == c.id)) ++
      fmcsaReasons verifications.head?)

def CoherentAt (now : Instant) (d : CarrierDb) (carrierId : Uuid) : Prop :=
  ∀ c ∈ d.carriers.rows, c.id = carrierId →
    ∃ reasons, d.Computes now c reasons ∧ c = c.withEligibility reasons.isEmpty reasons

def Insured (d : CarrierDb) : Prop :=
  ∀ r ∈ d.insuranceRecords, ∃ v ∈ d.documents.rows,
    v.id = r.coiDocumentId ∧ v.entityType = .carrier ∧ v.entityId = r.carrierId

structure WellFormed (now : Instant) (d : CarrierDb) : Prop where
  past : ∀ v ∈ d.documents.rows, v.uploadedAt ≤ now
  insured : d.Insured

end CarrierDb

variable {d t u : CarrierDb} {q : Request} {carrierId : Uuid} {now : Instant}

instance : Std.Total byUploadedAtDesc := ⟨fun a b => le_total b.uploadedAt a.uploadedAt⟩

instance : IsTrans DocumentVersion byUploadedAtDesc := ⟨fun _ _ _ hab hbc => le_trans hbc hab⟩

instance : Std.Total byVerificationDateDesc := ⟨fun a b => le_total b.verificationDate a.verificationDate⟩

instance : IsTrans CarrierFmcsaVerification byVerificationDateDesc := ⟨fun _ _ _ hab hbc => le_trans hbc hab⟩

lemma insuranceReasons_perm {documents : List DocumentVersion} {records records' : List CarrierInsurance}
    (h : records.Perm records') : insuranceReasons now documents records = insuranceReasons now documents records' := by
  have hcovered (coverageType : InsuranceCoverageType) :
      isCovered now documents records coverageType = isCovered now documents records' coverageType := h.any_eq
  simp only [insuranceReasons, hcovered]

lemma ineligibilityReasons_computes (q : Request) (d : CarrierDb) (c : Carrier) :
    d.Computes q.now c (ineligibilityReasons q d c) := by
  refine ⟨_, findManyBy_answer (q.order 10) _ _ _, _, findManyBy_answer (q.order 12) _ _ _, ?_⟩
  rw [ineligibilityReasons, complianceReasons, insuranceReasons_perm (findMany_perm (q.order 11) _ _)]
  rfl

lemma recalculate_ok {result : EligibilityResult}
    (h : (recalculate q carrierId).run CarrierDb.write d = (.ok result, t)) :
    ∃ c ∈ d.carriers.rows, c.id = carrierId ∧ d.Computes q.now c result.reasons ∧
      ∃ events, t = { d.write (.setEligibility carrierId result.reasons.isEmpty result.reasons) with
        audit := d.audit ++ events } := by
  cases hfound : d.findCarrier (q.order 13) carrierId with
  | none =>
    rw [run_recalculate_missing hfound] at h
    cases h
  | some c =>
    obtain ⟨hmem, hid⟩ := findFirst_some hfound
    obtain rfl := beq_iff_eq.mp hid
    rw [run_recalculate hfound] at h
    obtain ⟨hresult, rfl⟩ := Prod.mk.inj h
    obtain rfl := Except.ok.inj hresult
    exact ⟨c, hmem, rfl, ineligibilityReasons_computes q d c, _, rfl⟩

structure SameFor (carrierId : Uuid) (d t : CarrierDb) : Prop where
  documents : t.documents = d.documents
  documentTypes : t.documentTypes = d.documentTypes
  carriers : ∀ c, c.id = carrierId → (c ∈ t.carriers.rows ↔ c ∈ d.carriers.rows)
  insurance : t.insuranceRecords.filter (fun r => r.carrierId == carrierId) =
    d.insuranceRecords.filter (fun r => r.carrierId == carrierId)
  fmcsa : t.fmcsaVerifications.filter (fun v => v.carrierId == carrierId) =
    d.fmcsaVerifications.filter (fun v => v.carrierId == carrierId)

lemma SameFor.refl (carrierId : Uuid) (d : CarrierDb) : SameFor carrierId d d :=
  ⟨rfl, rfl, fun _ _ => Iff.rfl, rfl, rfl⟩

lemma SameFor.trans (h : SameFor carrierId d t) (h' : SameFor carrierId t u) : SameFor carrierId d u where
  documents := h'.documents.trans h.documents
  documentTypes := h'.documentTypes.trans h.documentTypes
  carriers c hc := (h'.carriers c hc).trans (h.carriers c hc)
  insurance := h'.insurance.trans h.insurance
  fmcsa := h'.fmcsa.trans h.fmcsa

lemma SameFor.computes {c : Carrier} {reasons : List String} (h : SameFor c.id d t) :
    t.Computes now c reasons ↔ d.Computes now c reasons := by
  simp only [CarrierDb.Computes, h.documents, h.documentTypes, h.insurance, answer_congr h.fmcsa]

lemma SameFor.coherent (h : SameFor carrierId d t) (hd : d.CoherentAt now carrierId) : t.CoherentAt now carrierId := by
  intro c hc hid
  subst hid
  obtain ⟨reasons, hcomputes, hrow⟩ := hd c ((h.carriers c rfl).mp hc) rfl
  exact ⟨reasons, h.computes.mpr hcomputes, hrow⟩

namespace CarrierWrite

def About (carrierId : Uuid) : CarrierWrite → Prop
  | .setStatus id _ => id = carrierId
  | .setEligibility id _ _ => id = carrierId
  | .insertFmcsa v => v.carrierId = carrierId
  | .record _ => True
  | _ => False

end CarrierWrite

lemma routine_about (carrierId : Uuid) : Routine (CarrierWrite.About carrierId) carrierId :=
  ⟨fun _ _ => rfl, fun _ => trivial⟩

lemma mem_update_other (f : Carrier → Carrier) (hf : ∀ c, (f c).id = c.id) {other : Uuid} (hother : carrierId ≠ other)
    (c : Carrier) (hc : c.id = carrierId) :
    c ∈ (d.carriers.update other f hf).rows ↔ c ∈ d.carriers.rows := by
  rw [Table.mem_update]
  constructor
  · rintro (⟨b, _, hb, rfl⟩ | ⟨hmem, _⟩)
    · exact absurd (hc.symm.trans ((hf b).trans hb)) hother
    · exact hmem
  · exact fun hmem => Or.inr ⟨hmem, fun heq => hother (hc.symm.trans heq)⟩

structure OnlyAbout (carrierId : Uuid) (d t : CarrierDb) : Prop where
  others : ∀ other, other ≠ carrierId → SameFor other d t
  documents : t.documents = d.documents
  insurance : t.insuranceRecords = d.insuranceRecords

lemma OnlyAbout.trans (h : OnlyAbout carrierId d t) (h' : OnlyAbout carrierId t u) : OnlyAbout carrierId d u where
  others other hother := (h.others other hother).trans (h'.others other hother)
  documents := h'.documents.trans h.documents
  insurance := h'.insurance.trans h.insurance

lemma write_about {w : CarrierWrite} (hw : w.About carrierId) : OnlyAbout carrierId d (d.write w) := by
  cases w with
  | setStatus id status =>
    obtain rfl := hw
    refine ⟨fun other hother => ⟨rfl, rfl, ?_, rfl, rfl⟩, rfl, rfl⟩
    exact mem_update_other (.withStatus status) (fun _ => rfl) hother
  | setEligibility id eligible reasons =>
    obtain rfl := hw
    refine ⟨fun other hother => ⟨rfl, rfl, ?_, rfl, rfl⟩, rfl, rfl⟩
    exact mem_update_other (.withEligibility eligible reasons) (fun _ => rfl) hother
  | insertFmcsa v =>
    obtain rfl := hw
    refine ⟨fun other hother => ⟨rfl, rfl, fun _ _ => Iff.rfl, rfl, ?_⟩, rfl, rfl⟩
    simp [CarrierDb.write, List.filter_append, Ne.symm hother]
  | record event => exact ⟨fun _ _ => ⟨rfl, rfl, fun _ _ => Iff.rfl, rfl, rfl⟩, rfl, rfl⟩
  | _ => exact hw.elim

lemma run_about {α : Type} {p : CarrierTx α} {x : Except AppError α} (hp : p.Writes (CarrierWrite.About carrierId))
    (h : p.run CarrierDb.write d = (x, t)) : OnlyAbout carrierId d t := by
  have honly := hp.run CarrierDb.write (P := OnlyAbout carrierId d) (fun w u hw hu => hu.trans (write_about hw))
    ⟨fun other _ => .refl other d, rfl, rfl⟩
  rwa [h] at honly

lemma CarrierDb.WellFormed.of_same (hd : d.WellFormed now) (hdocuments : t.documents = d.documents)
    (hinsurance : t.insuranceRecords = d.insuranceRecords) : t.WellFormed now := by
  constructor
  · rw [hdocuments]
    exact hd.past
  · rw [CarrierDb.Insured, hdocuments, hinsurance]
    exact hd.insured

lemma recalculate_coherent (q : Request) (carrierId : Uuid) :
    (recalculate q carrierId).Establishes CarrierDb.write (fun t => t.CoherentAt q.now carrierId) := by
  intro d result t h
  obtain ⟨c, hmem, rfl, hcomputes, _, rfl⟩ := recalculate_ok h
  intro b hb hid
  rcases (d.carriers.mem_update c.id (.withEligibility result.reasons.isEmpty result.reasons) (fun _ => rfl)).mp hb
    with ⟨a, ha, hac, rfl⟩ | ⟨_, hne⟩
  · obtain rfl := d.carriers.eq_of_key ha hmem hac
    exact ⟨result.reasons, hcomputes, rfl⟩
  · exact absurd hid hne

structure Recalculated (q : Request) (carrierId : Uuid) (d t : CarrierDb) : Prop where
  coherent : t.CoherentAt q.now carrierId
  others : ∀ other, other ≠ carrierId → SameFor other d t
  wellFormed : ∀ now, d.WellFormed now → t.WellFormed now

lemma recalculated_of {p : CarrierTx Unit} {x : Unit}
    (hends : p.Establishes CarrierDb.write (fun t => t.CoherentAt q.now carrierId))
    (hwrites : p.Writes (CarrierWrite.About carrierId)) (h : p.run CarrierDb.write d = (.ok x, t)) :
    Recalculated q carrierId d t := by
  have honly := run_about hwrites h
  exact ⟨hends d x t h, honly.others, fun now hd => hd.of_same honly.documents honly.insurance⟩

lemma addFmcsaVerification_recalculates {dto : AddFmcsaVerificationInput} {x : Unit}
    (h : (CarrierService.addFmcsaVerification q carrierId dto).run CarrierDb.write d = (.ok x, t)) :
    Recalculated q carrierId d t := by
  refine recalculated_of (.bind (fun _ => .bind (fun _ => .bind (fun _ => ?_)))) ?_ h
  · exact .ignore (recalculate_coherent q carrierId)
  · refine .bind (writes_requireCarrier _ _) (fun _ => .bind (.write rfl) (fun _ => ?_))
    refine .bind (writes_record (fun _ => trivial) _ _ _ _ _) (fun _ => ?_)
    exact .bind (writes_recalculate (routine_about carrierId) q) (fun _ => .pure _)

lemma activate_recalculates {x : Unit}
    (h : (CarrierService.activate q carrierId).run CarrierDb.write d = (.ok x, t)) :
    Recalculated q carrierId d t := by
  refine recalculated_of ?_ (writes_activate (routine_about carrierId) rfl q) h
  refine .bind (fun _ => .bind (fun _ => .bind (fun _ => .bind (fun _ => .bind (fun _ => ?_)))))
  exact .bind (fun _ => .bind (fun _ => .ignore (recalculate_coherent q carrierId)))

lemma blockCarrier_recalculates {dto : CarrierLifecycleReasonInput} {x : Unit}
    (h : (CarrierService.blockCarrier q carrierId dto).run CarrierDb.write d = (.ok x, t)) :
    Recalculated q carrierId d t :=
  recalculated_of (.bind (fun _ => .ignore (recalculate_coherent q carrierId)))
    (writes_blockCarrier (routine_about carrierId) rfl q dto) h

lemma deactivateCarrier_recalculates {dto : CarrierLifecycleReasonInput} {x : Unit}
    (h : (CarrierService.deactivateCarrier q carrierId dto).run CarrierDb.write d = (.ok x, t)) :
    Recalculated q carrierId d t :=
  recalculated_of (.bind (fun _ => .ignore (recalculate_coherent q carrierId)))
    (writes_deactivateCarrier (routine_about carrierId) rfl q dto) h

lemma reactivateCarrier_recalculates {dto : CarrierLifecycleReasonInput} {x : Unit}
    (h : (CarrierService.reactivateCarrier q carrierId dto).run CarrierDb.write d = (.ok x, t)) :
    Recalculated q carrierId d t :=
  recalculated_of (.bind (fun _ => .bind (fun _ => .ignore (recalculate_coherent q carrierId))))
    (writes_reactivateCarrier (routine_about carrierId) rfl q dto) h

lemma addInsurance_ok {dto : AddCarrierInsuranceInput} {x : Unit}
    (h : (CarrierService.addInsurance q carrierId dto).run CarrierDb.write d = (.ok x, t)) :
    dto.effectiveDate < dto.expirationDate ∧
    (∃ document ∈ d.documents.rows, document.id = dto.coiDocumentId ∧ document.entityType = .carrier ∧
      document.entityId = carrierId) ∧
    ∃ u events result, u = { d with
        insuranceRecords := d.insuranceRecords ++ [⟨q.uuid 0, carrierId, dto.coverageType, dateOf dto.effectiveDate,
          dateOf dto.expirationDate, dto.coiDocumentId⟩]
        audit := d.audit ++ events } ∧ (recalculate q carrierId).run CarrierDb.write u = (.ok result, t) := by
  simp only [CarrierService.addInsurance, CarrierService.record, Txn.run_bind_ok, Txn.run_read, Txn.run_ensure,
    Txn.run_require, Txn.run_write, Txn.run_pure, Prod.mk.injEq, Except.ok.injEq, require_eq_ok, ensure_eq_ok] at h
  obtain ⟨_, _, hcarrier, _, _, ⟨hdates, rfl⟩, _, _, ⟨rfl, rfl⟩, document, _, ⟨hfound, rfl⟩, _, _, ⟨_, rfl⟩, _, _,
    ⟨_, rfl⟩, result, _, hrecalculate, _, rfl⟩ := h
  obtain ⟨_, _, rfl⟩ := requireCarrier_ok hcarrier
  obtain ⟨hmem, hcond⟩ := findFirst_some hfound
  simp only [Bool.and_eq_true, beq_iff_eq] at hcond
  exact ⟨hdates, ⟨document, hmem, hcond.1.1, hcond.1.2, hcond.2⟩, _, _, result, rfl, hrecalculate⟩

lemma insured_insert {r : CarrierInsurance} (hd : d.Insured) (hrecords : t.insuranceRecords = d.insuranceRecords ++ [r])
    (hdocuments : t.documents = d.documents)
    (hr : ∃ v ∈ d.documents.rows, v.id = r.coiDocumentId ∧ v.entityType = .carrier ∧ v.entityId = r.carrierId) :
    t.Insured := by
  intro r' hr'
  rw [hrecords] at hr'
  rw [hdocuments]
  rcases List.mem_append.mp hr' with hold | hnew
  · exact hd r' hold
  · exact List.mem_singleton.mp hnew ▸ hr

lemma addInsurance_recalculates {dto : AddCarrierInsuranceInput} {x : Unit}
    (h : (CarrierService.addInsurance q carrierId dto).run CarrierDb.write d = (.ok x, t)) :
    Recalculated q carrierId d t := by
  obtain ⟨_, hdocument, u, events, result, hu, hrecalculate⟩ := addInsurance_ok h
  have honly := run_about (writes_recalculate (routine_about carrierId) q) hrecalculate
  have hrecords : u.insuranceRecords = _ := congrArg CarrierDb.insuranceRecords hu
  refine ⟨recalculate_coherent q carrierId _ _ _ hrecalculate, fun other hother => ?_, fun now hd => ?_⟩
  · refine SameFor.trans ⟨?_, ?_, ?_, ?_, ?_⟩ (honly.others other hother) <;> rw [hu]
    · exact fun _ _ => Iff.rfl
    · simp [List.filter_append, Ne.symm hother]
  · refine CarrierDb.WellFormed.of_same ⟨?_, ?_⟩ honly.documents honly.insurance
    · rw [hu]
      exact hd.past
    · exact insured_insert hd.insured hrecords (by rw [hu]) hdocument

end Truckmaster.Carriers
