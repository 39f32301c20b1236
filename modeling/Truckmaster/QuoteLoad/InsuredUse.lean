import Truckmaster.Carriers.CarrierLimits
import Truckmaster.Carriers.EligibilityRuns
import Truckmaster.QuoteLoad.SerialLifecycle

/-! The insurance that stands behind an assignment and a dispatch, after any run of the carrier, document and
sourcing requests. -/

namespace Truckmaster.Carriers

open Common Documents DocumentService Fallible Tables Transactions CarrierEligibilityService

structure Certified (d : CarrierDb) : Prop where
  insured : d.Insured
  dates : ∀ r ∈ d.insuranceRecords, r.effectiveDate ≤ r.expirationDate

/-- A record of the type that has not expired, with a certificate that is approved. -/
def Covered (now : Instant) (d : CarrierDb) (carrierId : Uuid) (coverageType : InsuranceCoverageType) : Prop :=
  ∃ record ∈ d.insuranceRecords, record.carrierId = carrierId ∧ record.coverageType = coverageType ∧
    record.effectiveDate ≤ record.expirationDate ∧ now ≤ record.expirationDate ∧
    ∃ v ∈ d.documents.rows, v.id = record.coiDocumentId ∧ v.entityType = .carrier ∧ v.entityId = carrierId ∧
      v.reviewStatus = some .approved

def CarrierWrite.KeepsInsurance : CarrierWrite → Prop
  | .insertInsurance _ => False
  | _ => True

variable {d t : CarrierDb} {q : Request} {carrierId : Uuid}

lemma Certified.of_same (h : t.documents = d.documents ∧ t.insuranceRecords = d.insuranceRecords) (hd : Certified d) :
    Certified t := by
  obtain ⟨hdocuments, hrecords⟩ := h
  refine ⟨fun r hr => ?_, fun r hr => ?_⟩
  · rw [hrecords] at hr
    rw [hdocuments]
    exact hd.insured r hr
  · rw [hrecords] at hr
    exact hd.dates r hr

lemma routine_keepsInsurance (carrierId : Uuid) : Routine CarrierWrite.KeepsInsurance carrierId :=
  ⟨fun _ _ => trivial, fun _ => trivial⟩

lemma run_keepsInsurance {α : Type} {p : CarrierTx α} {x : Except AppError α}
    (hp : p.Writes CarrierWrite.KeepsInsurance) (h : p.run CarrierDb.write d = (x, t)) :
    t.documents = d.documents ∧ t.insuranceRecords = d.insuranceRecords := by
  have hkeeps := hp.run CarrierDb.write
    (P := fun u => u.documents = d.documents ∧ u.insuranceRecords = d.insuranceRecords) (fun w u hw hu => ?_) ⟨rfl, rfl⟩
  · rwa [h] at hkeeps
  · cases w with
    | insertInsurance record => exact hw.elim
    | _ => exact hu

lemma exec_certified {p : CarrierTx Unit} (hp : p.Writes CarrierWrite.KeepsInsurance)
    (hok : p.exec CarrierDb.write d = .ok t) (hd : Certified d) : Certified t := by
  obtain ⟨_, hrun⟩ := Txn.exec_eq_ok.mp hok
  exact hd.of_same (run_keepsInsurance hp hrun)

lemma dateOf_mono {a b : ℤ} (h : a ≤ b) : dateOf a ≤ dateOf b := by
  change a - a % 86400000 ≤ b - b % 86400000
  omega

lemma addInsurance_certified {dto : AddCarrierInsuranceInput}
    (hok : (CarrierService.addInsurance q carrierId dto).exec CarrierDb.write d = .ok t) (hd : Certified d) :
    Certified t := by
  obtain ⟨_, hrun⟩ := Txn.exec_eq_ok.mp hok
  obtain ⟨hdates, hdocument, u, events, result, hu, hrecalculate⟩ := addInsurance_ok hrun
  have hrecords : u.insuranceRecords = _ := congrArg CarrierDb.insuranceRecords hu
  refine Certified.of_same (run_keepsInsurance (writes_recalculate (routine_keepsInsurance carrierId) q) hrecalculate)
    ⟨insured_insert hd.insured hrecords (by rw [hu]) hdocument, fun r hr => ?_⟩
  rw [hrecords] at hr
  rcases List.mem_append.mp hr with hold | hnew
  · exact hd.dates r hold
  · rw [List.mem_singleton.mp hnew]
    exact dateOf_mono hdates.le

lemma writes_addFmcsaVerification (dto : AddFmcsaVerificationInput) :
    (CarrierService.addFmcsaVerification q carrierId dto).Writes CarrierWrite.KeepsInsurance := by
  refine .bind (writes_requireCarrier _ _) (fun _ => .bind (.write trivial) (fun _ => ?_))
  refine .bind (writes_record (fun _ => trivial) _ _ _ _ _) (fun _ => ?_)
  exact .bind (writes_recalculate (routine_keepsInsurance carrierId) q) (fun _ => .pure _)

lemma CarrierRequest.program_keepsInsurance (r : CarrierRequest) : r.program.Writes CarrierWrite.KeepsInsurance := by
  obtain ⟨q, op⟩ := r
  have hrecord (event : AuditEvent) : (CarrierWrite.record event).KeepsInsurance := trivial
  cases op with
  | create dto => exact writes_create hrecord (fun _ => trivial) q dto
  | activate carrierId => exact writes_activate (routine_keepsInsurance carrierId) trivial q
  | reactivateCarrier carrierId dto => exact writes_reactivateCarrier (routine_keepsInsurance carrierId) trivial q dto
  | blockCarrier carrierId dto => exact writes_blockCarrier (routine_keepsInsurance carrierId) trivial q dto
  | deactivateCarrier carrierId dto => exact writes_deactivateCarrier (routine_keepsInsurance carrierId) trivial q dto
  | addDriver carrierId dto => exact writes_addDriver hrecord (fun _ => trivial) q dto
  | reactivateDriver carrierId driverId dto => exact writes_reactivateDriver hrecord (fun _ => trivial) q driverId dto
  | deactivateDriver carrierId driverId dto =>
    exact writes_transitionDriverActive hrecord (fun _ => trivial) _ _ _ _ _

lemma EligibilityCall.exec_certified {c : EligibilityCall} (hok : c.exec d = .ok t) (hd : Certified d) :
    Certified t := by
  obtain ⟨x, q, op⟩ := c
  cases op with
  | initiateUpload dto =>
    obtain ⟨s, hupload, rfl⟩ := map_eq_ok.mp hok
    exact ⟨upload_insured (initiateUpload_ok hupload).1 hd.insured, hd.dates⟩
  | review documentId decision =>
    simp only [EligibilityCall.exec, CarrierDb.review, bind_eq_ok] at hok
    obtain ⟨⟨store, document⟩, hreview, hrest⟩ := hok
    have hkeeps := (keepsRow_decided q decision).on (fun v => v.id = documentId)
    have hstore : Certified (d.withStore store) := ⟨keepsRow_insured hkeeps (review_rows hreview) hd.insured, hd.dates⟩
    dsimp only at hrest
    split at hrest
    · obtain ⟨result, hrun⟩ := Txn.exec_eq_ok.mp hrest
      exact hstore.of_same (run_keepsInsurance (writes_recalculate (routine_keepsInsurance _) q) hrun)
    · exact pure_eq_ok.mp hrest ▸ hstore
  | applyScanResult documentId result =>
    obtain rfl := Except.ok.inj hok
    have hkeeps := (keepsRow_scanned q result).on (fun v => v.id = documentId)
    exact ⟨keepsRow_insured hkeeps (applyScanResult_rows ..) hd.insured, hd.dates⟩
  | deleteDocumentFamily documentId =>
    obtain ⟨s, hdelete, rfl⟩ := map_eq_ok.mp hok
    obtain ⟨_, document, _, _, hfree, hrows⟩ := deleteDocumentFamily_ok hdelete
    exact ⟨deletion_insured hrows (unreferenced_of hfree) hd.insured, hd.dates⟩
  | addInsurance carrierId dto => exact addInsurance_certified hok hd
  | addFmcsaVerification carrierId dto => exact Carriers.exec_certified (writes_addFmcsaVerification dto) hok hd
  | activate carrierId =>
    exact Carriers.exec_certified (CarrierRequest.program_keepsInsurance ⟨q, .activate carrierId⟩) hok hd
  | blockCarrier carrierId dto =>
    exact Carriers.exec_certified (CarrierRequest.program_keepsInsurance ⟨q, .blockCarrier carrierId dto⟩) hok hd
  | deactivateCarrier carrierId dto =>
    exact Carriers.exec_certified (CarrierRequest.program_keepsInsurance ⟨q, .deactivateCarrier carrierId dto⟩) hok hd
  | reactivateCarrier carrierId dto =>
    exact Carriers.exec_certified (CarrierRequest.program_keepsInsurance ⟨q, .reactivateCarrier carrierId dto⟩) hok hd

lemma covered_of_eligible {c : Carrier} (hd : Certified d) (h : ineligibilityReasons q d c = [])
    (coverageType : InsuranceCoverageType) : Covered q.now d c.id coverageType := by
  obtain ⟨_, hcompliance⟩ := List.append_eq_nil_iff.mp h
  obtain ⟨hinsurance, _⟩ := List.append_eq_nil_iff.mp hcompliance
  obtain ⟨_, hreasons⟩ := List.append_eq_nil_iff.mp hinsurance
  have hall := List.filter_eq_nil_iff.mp (List.map_eq_nil_iff.mp hreasons)
  have hcovered : isCovered q.now d.documents.rows
      (findMany (q.order 11) (fun r => r.carrierId == c.id) d.insuranceRecords) coverageType = true := by
    have hnot := hall coverageType (by cases coverageType <;> decide)
    simpa using hnot
  obtain ⟨record, hmem, hrecord⟩ := List.any_eq_true.mp hcovered
  obtain ⟨hstored, hcarrier⟩ := List.mem_filter.mp ((findMany_perm _ _ _).mem_iff.mp hmem)
  have hid := beq_iff_eq.mp hcarrier
  simp only [Bool.and_eq_true, beq_iff_eq, decide_eq_true_eq, List.any_eq_true] at hrecord
  obtain ⟨⟨htype, hexpires⟩, v, hv, hcoi, happroved⟩ := hrecord
  obtain ⟨v', hv', hcoi', howner, howned⟩ := hd.insured record hstored
  obtain rfl := d.documents.eq_of_key hv hv' (hcoi.trans hcoi'.symm)
  exact ⟨record, hstored, hid, htype, hd.dates record hstored, hexpires, v, hv, hcoi, howner, howned.trans hid,
    happroved⟩

end Truckmaster.Carriers

namespace Truckmaster.QuoteLoad

open Common Fallible Runs Tables Transactions
open Carriers (CarrierDb CarrierRequest CarrierWrite Certified Covered EligibilityCall InsuranceCoverageType)
open Carriers.CarrierEligibilityService (EligibilityResult ineligibilityReasons)

def SourcingWrite.KeepsInsurance : SourcingWrite → Prop
  | .carriers w => w.KeepsInsurance
  | _ => True

def LifecycleWrite.KeepsInsurance : LifecycleWrite → Prop
  | .sourcing w => w.KeepsInsurance
  | _ => True

namespace LifecycleTx

variable {r : Reference} {q : Request} {d t : SourcingDb}

lemma writes_ofSourcing {α : Type} {p : SourcingTx α} (hp : p.Writes SourcingWrite.KeepsInsurance) :
    (ofSourcing p).Writes LifecycleWrite.KeepsInsurance := hp.embed (fun _ hw => hw)

lemma writes_recalculate (q : Request) (carrierId : Uuid) :
    (CarrierSourcingTx.recalculate q carrierId).Writes SourcingWrite.KeepsInsurance :=
  (Carriers.writes_recalculate (Carriers.routine_keepsInsurance carrierId) q).embed (fun _ hw => hw)

lemma writes_findLoad (accepts : LoadStatus → Bool) (refusal : LoadStatus → AppError) :
    (findLoad accepts refusal).Writes LifecycleWrite.KeepsInsurance :=
  .bind (.read _) (fun _ => .bind (.lift _) (fun _ => .bind (.ensure _ _) (fun _ => .pure _)))

lemma writes_record (loadId : Uuid) (action : String) (reason : Option String) :
    (record q loadId action reason).Writes LifecycleWrite.KeepsInsurance := .write trivial

lemma writes_assignCarrier (dto : AssignCarrierInput) :
    (CarrierSourcingTx.assignCarrier r q dto).Writes SourcingWrite.KeepsInsurance := by
  refine .bind (.read _) (fun _ => .bind (.lift _) (fun rows => .bind (.ensure _ _) (fun _ => ?_)))
  refine .bind (.read _) (fun _ => .bind (.require _ _) (fun carrier => ?_))
  refine .bind (writes_recalculate q dto.carrierId) (fun result => .bind ?_ (fun _ => ?_))
  · unfold CarrierSourcingTx.refuseIneligible
    split
    · exact .pure _
    · exact .bind (.write trivial) (fun _ => trivial)
  · refine .bind (.ensure _ _) (fun _ => .bind (.write trivial) (fun _ => .bind (.update trivial) (fun _ => ?_)))
    refine .bind ?_ (fun _ => .bind (.write trivial) (fun _ => .bind (.read _) (fun existing => ?_)))
    · unfold CarrierSourcingTx.createOriginalCarrierLinehaulCharge
      split
      · exact .pure _
      · exact .write trivial
    · split
      · exact .pure _
      · exact .write trivial

lemma writes_carrierRejected (dto : CarrierRejectedInput) :
    (carrierRejected r q dto).Writes LifecycleWrite.KeepsInsurance := by
  refine .bind (writes_findLoad _ _) (fun _ => .bind (.read _) (fun attempt => .bind ?_ (fun _ => ?_)))
  · cases attempt with
    | none => exact .pure _
    | some attempt => exact .update trivial
  · refine .bind (.update trivial) (fun _ => .bind ?_ (fun _ => writes_record _ _ _))
    unfold removeOriginalCarrierLinehaulCharge
    split
    · exact .pure _
    · exact fun d => ⟨fun w hw => List.mem_singleton.mp hw ▸ trivial, .pure _⟩

lemma writes_dispatch (dto : DispatchLoadInput) : (dispatch r q dto).Writes LifecycleWrite.KeepsInsurance := by
  refine .bind (writes_findLoad _ _) (fun _ => .bind (.ensure _ _) (fun _ => .bind (.require _ _) (fun carrierId => ?_)))
  refine .bind (writes_ofSourcing (writes_recalculate q carrierId)) (fun _ => .bind (.ensure _ _) (fun _ => ?_))
  refine .bind (.read _) (fun _ => .bind (.require _ _) (fun _ => .bind (.lift _) (fun _ => ?_)))
  exact .bind (.insert trivial) (fun _ => .bind (.update trivial) (fun _ => writes_record _ _ _))

lemma writes_cancelLoad (dto : CancelLoadInput) : (cancelLoad r q dto).Writes LifecycleWrite.KeepsInsurance := by
  refine .bind (writes_findLoad _ _) (fun rows => .bind (.update trivial) (fun _ => .bind (writes_record _ _ _) ?_))
  intro _
  cases rows.load.assignedDispatcherId with
  | none => exact .pure _
  | some dispatcher =>
    refine .bind (.read _) (fun existing => ?_)
    split
    · exact .pure _
    · exact .write trivial

lemma transaction_keepsInsurance (c : LifecycleRequest) : c.transaction.Writes LifecycleWrite.KeepsInsurance := by
  obtain ⟨r, q, op⟩ := c
  cases op with
  | beginSourcing =>
    exact .bind (writes_findLoad _ _) (fun _ => .bind (.update trivial) (fun _ => writes_record _ _ _))
  | assignCarrier dto => exact writes_ofSourcing (writes_assignCarrier dto)
  | carrierRejected dto => exact writes_carrierRejected dto
  | generateRateConfirmation =>
    refine .bind (writes_findLoad _ _) (fun _ => .bind (.ensure _ _) (fun _ => .bind (.require _ _) (fun _ => ?_)))
    refine .bind (.require _ _) (fun _ => .bind (.write trivial) (fun _ => ?_))
    exact .bind (.update trivial) (fun _ => writes_record _ _ _)
  | dispatch dto => exact writes_dispatch dto
  | cancelLoad dto => exact writes_cancelLoad dto
  | closeLoad =>
    refine .bind (writes_findLoad _ _) (fun _ => .bind ?_ (fun _ => .bind (.update trivial) (fun _ =>
      writes_record _ _ _)))
    exact .bind (.read _) (fun _ => .bind (.read _) (fun _ => .bind (.read _) (fun _ => .bind (.read _) (fun _ =>
      .pure _))))

lemma transaction_certified {c : LifecycleRequest} (hok : c.transaction.exec SourcingDb.writeLifecycle d = .ok t)
    (hd : Certified d.carriers) : Certified t.carriers := by
  obtain ⟨_, hrun⟩ := Txn.exec_eq_ok.mp hok
  have hkeeps := (transaction_keepsInsurance c).run SourcingDb.writeLifecycle (P := fun u =>
    u.carriers.documents = d.carriers.documents ∧ u.carriers.insuranceRecords = d.carriers.insuranceRecords)
    (fun w u hw hu => ?_) ⟨rfl, rfl⟩
  · rw [hrun] at hkeeps
    exact hd.of_same hkeeps
  · cases w with
    | sourcing w =>
      cases w with
      | carriers w =>
        cases w with
        | insertInsurance record => exact hw.elim
        | _ => exact hu
      | _ => exact hu
    | _ => exact hu

end LifecycleTx

inductive UseOp
  | carrier (r : CarrierRequest)
  | eligibility (c : EligibilityCall)
  | lifecycle (c : LifecycleRequest)

namespace SourcingDb

def onCarriers (d : SourcingDb) (carriers : CarrierDb) : SourcingDb := { d with carriers }

end SourcingDb

def UseOp.exec : UseOp → SourcingDb → Except AppError SourcingDb
  | .carrier r, d => d.onCarriers <$> r.program.exec CarrierDb.write d.carriers
  | .eligibility c, d => d.onCarriers <$> c.exec d.carriers
  | .lifecycle c, d => c.transaction.exec SourcingDb.writeLifecycle d

/-- The request puts the carrier on the Load, or on the road. -/
def LifecycleRequest.Uses (c : LifecycleRequest) (d : SourcingDb) (carrierId : Uuid) : Prop :=
  match c.op with
  | .assignCarrier dto => dto.carrierId = carrierId
  | .dispatch _ => ∃ rows, d.load = some rows ∧ rows.load.assignedCarrierId = some carrierId
  | _ => False

section Use

variable {d t : SourcingDb} {r : Reference} {q : Request}

lemma UseOp.exec_certified {op : UseOp} (hok : op.exec d = .ok t) (hd : Certified d.carriers) :
    Certified t.carriers := by
  cases op with
  | carrier r =>
    obtain ⟨carriers, hcarriers, rfl⟩ := map_eq_ok.mp hok
    exact Carriers.exec_certified r.program_keepsInsurance hcarriers hd
  | eligibility c =>
    obtain ⟨carriers, hcarriers, rfl⟩ := map_eq_ok.mp hok
    exact c.exec_certified hcarriers hd
  | lifecycle c => exact LifecycleTx.transaction_certified hok hd

lemma recalculate_computes {carrierId : Uuid} {result : EligibilityResult}
    (h : (CarrierSourcingTx.recalculate q carrierId).run SourcingDb.write d = (.ok result, t)) :
    ∃ c : Carriers.Carrier, c.id = carrierId ∧ result.eligible = (ineligibilityReasons q d.carriers c).isEmpty := by
  rw [CarrierSourcingTx.recalculate, Txn.run_embed CarrierSourcingTx.write_carriers] at h
  obtain ⟨hresult, _⟩ := Prod.mk.inj h
  cases hfound : d.carriers.findCarrier (q.order 13) carrierId with
  | none =>
    have hmissing := Carriers.CarrierEligibilityService.run_recalculate_missing hfound
    cases (congrArg Prod.fst hmissing).symm.trans hresult
  | some c =>
    have hrun := Carriers.CarrierEligibilityService.run_recalculate hfound
    obtain rfl := Except.ok.inj ((congrArg Prod.fst hrun).symm.trans hresult)
    exact ⟨c, beq_iff_eq.mp (findFirst_some hfound).2, rfl⟩

lemma recalculate_covers {carrierId : Uuid} {result : EligibilityResult} (hd : Certified d.carriers)
    (h : (CarrierSourcingTx.recalculate q carrierId).run SourcingDb.write d = (.ok result, t))
    (heligible : result.eligible = true) (coverageType : InsuranceCoverageType) :
    Covered q.now d.carriers carrierId coverageType := by
  obtain ⟨c, rfl, hresult⟩ := recalculate_computes h
  rw [hresult] at heligible
  exact Carriers.covered_of_eligible hd (List.isEmpty_iff.mp heligible) coverageType

lemma assignCarrier_covers {dto : AssignCarrierInput} (hd : Certified d.carriers)
    (hok : (LifecycleTx.assignCarrier r q dto).exec SourcingDb.writeLifecycle d = .ok t)
    (coverageType : InsuranceCoverageType) : Covered q.now d.carriers dto.carrierId coverageType := by
  obtain ⟨_, hrun⟩ := Txn.exec_eq_ok.mp hok
  have hassign := (LifecycleTx.run_embed_sourcing _ d).symm.trans hrun
  simp only [CarrierSourcingTx.assignCarrier, Txn.run_bind_ok, Txn.run_read, Txn.run_lift, Txn.run_ensure,
    Txn.run_require, Prod.mk.injEq, Except.ok.injEq] at hassign
  obtain ⟨_, _, ⟨rfl, rfl⟩, rows, _, ⟨_, rfl⟩, _, _, ⟨_, rfl⟩, _, _, ⟨rfl, rfl⟩, carrier, _, ⟨_, rfl⟩, result, u,
    hrecalculate, _, _, hrefuse, _⟩ := hassign
  refine recalculate_covers hd hrecalculate ?_ coverageType
  by_contra hineligible
  rw [CarrierSourcingTx.refuseIneligible, if_neg hineligible] at hrefuse
  cases congrArg Prod.fst hrefuse

lemma dispatch_covers {dto : DispatchLoadInput} {rows : LoadRows} {carrierId : Uuid} (hd : Certified d.carriers)
    (hok : (LifecycleTx.dispatch r q dto).exec SourcingDb.writeLifecycle d = .ok t) (hload : d.load = some rows)
    (hcarrier : rows.load.assignedCarrierId = some carrierId) (coverageType : InsuranceCoverageType) :
    Covered q.now d.carriers carrierId coverageType := by
  obtain ⟨_, hrun⟩ := Txn.exec_eq_ok.mp hok
  obtain ⟨found, u, hfound, hrest⟩ := Txn.run_bind_ok.mp hrun
  obtain ⟨hload', _, rfl⟩ := LifecycleTx.findLoad_ok.mp hfound
  obtain rfl := Option.some.inj (hload.symm.trans hload')
  simp only [Txn.run_bind_ok, Txn.run_ensure, Txn.run_require, Prod.mk.injEq, ensure_eq_ok, require_eq_ok, and_assoc,
    exists_and_left, exists_eq_left', exists_const] at hrest
  obtain ⟨_, found, hfound, result, v, hrecalculate, heligible, _⟩ := hrest
  obtain rfl := Option.some.inj (hfound.symm.trans hcarrier)
  have hrun : (CarrierSourcingTx.recalculate q found).run SourcingDb.write d = (.ok result, v) :=
    (Txn.run_embed (fun _ _ => rfl)).symm.trans hrecalculate
  exact recalculate_covers hd hrun heligible coverageType

end Use

/-- After any run that starts without insurance records, an assignment or a dispatch goes through only for a carrier
whose insurance of both types has not expired and is approved. -/
theorem insured_use {d₀ d t : SourcingDb} {ops : List UseOp} {c : LifecycleRequest} {carrierId : Uuid}
    (hstart : d₀.carriers.insuranceRecords = []) (h : Run (Serving UseOp.exec) d₀ ops d)
    (hok : c.transaction.exec SourcingDb.writeLifecycle d = .ok t) (huses : c.Uses d carrierId)
    (coverageType : InsuranceCoverageType) : Covered c.q.now d.carriers carrierId coverageType := by
  have hnone (r) (hr : r ∈ d₀.carriers.insuranceRecords) : False := by
    rw [hstart] at hr
    exact List.not_mem_nil hr
  have hd₀ : Certified d₀.carriers := ⟨fun r hr => (hnone r hr).elim, fun r hr => (hnone r hr).elim⟩
  have hd : Certified d.carriers := serving_invariant (fun _ _ _ hs hok => UseOp.exec_certified hok hs) h hd₀
  obtain ⟨r, q, op⟩ := c
  cases op with
  | assignCarrier dto => exact huses ▸ assignCarrier_covers hd hok coverageType
  | dispatch dto =>
    obtain ⟨rows, hload, hcarrier⟩ := huses
    exact dispatch_covers hd hok hload hcarrier coverageType
  | _ => exact huses.elim

namespace Sample

def day (n : ℕ) : Instant := n * 86400000

def useCall (n : ℕ) (op : Carriers.EligibilityOp) : UseOp := .eligibility (Carriers.Sample.eligibilityCall n op)

def insure (n : ℕ) (coverageType : InsuranceCoverageType) (effective expiration : ℕ) : UseOp :=
  useCall n (.addInsurance 5 ⟨coverageType, day effective, day expiration, 14⟩)

def uninsured : SourcingDb :=
  let d := sourcingDb sourced
  { d with carriers := { d.carriers with insuranceRecords := [] } }

def afterUse (ops : List UseOp) : SourcingDb := ops.foldl (attempt UseOp.exec) uninsured

def insured : List UseOp := [insure 2 .autoLiability 0 400, insure 3 .cargo 0 400]

def insuredLater : List UseOp :=
  [insure 2 .autoLiability 10 400, insure 3 .cargo 10 400,
    useCall 4 (.initiateUpload (Carriers.Sample.documentFor 4 (some 24)))]

def assignment : LifecycleRequest := lifecycleRequest 20 (.assignCarrier ⟨5, rate⟩)

def InForce (now : Instant) (d : CarrierDb) (carrierId : Uuid) (coverageType : InsuranceCoverageType) : Prop :=
  ∃ record ∈ d.insuranceRecords, record.carrierId = carrierId ∧ record.coverageType = coverageType ∧
    record.effectiveDate ≤ now ∧ now ≤ record.expirationDate ∧
    ∃ v ∈ d.documents.rows, v.id = record.coiDocumentId ∧ v.isCurrentVersion ∧ v.reviewStatus = some .approved

instance (now : Instant) (d : CarrierDb) (carrierId : Uuid) (coverageType : InsuranceCoverageType) :
    Decidable (InForce now d carrierId coverageType) := by
  unfold InForce
  infer_instance

end Sample

open Sample

theorem insured_use_sample : ∃ t, assignment.transaction.exec SourcingDb.writeLifecycle (afterUse insured) = .ok t ∧
    Covered 50 (afterUse insured).carriers 5 .cargo := by
  have hok : (assignment.transaction.exec SourcingDb.writeLifecycle (afterUse insured)).toOption.isSome := by
    decide +kernel
  exact ⟨_, eq_accepted hok, insured_use rfl (run_total _ uninsured insured) (eq_accepted hok) rfl .cargo⟩

/-- The assignment asks neither whether the policy has begun nor for the current version of the certificate. -/
theorem assigned_before_insured : uninsured.carriers.insuranceRecords = [] ∧
    Run (Serving UseOp.exec) uninsured insuredLater (afterUse insuredLater) ∧ assignment.Uses (afterUse insuredLater) 5 ∧
    (assignment.transaction.exec SourcingDb.writeLifecycle (afterUse insuredLater)).toOption.isSome ∧
    (∀ record ∈ (afterUse insuredLater).carriers.insuranceRecords, assignment.q.now < record.effectiveDate ∧
      ∀ v ∈ (afterUse insuredLater).carriers.documents.rows, v.id = record.coiDocumentId → ¬ v.isCurrentVersion) ∧
    ∀ coverageType, ¬ InForce assignment.q.now (afterUse insuredLater).carriers 5 coverageType := by
  have hnot : ∀ coverageType ∈ [InsuranceCoverageType.autoLiability, .cargo],
      ¬ InForce assignment.q.now (afterUse insuredLater).carriers 5 coverageType := by decide +kernel
  exact ⟨rfl, run_total _ _ _, rfl, by decide +kernel, by decide +kernel,
    fun coverageType => hnot coverageType (by cases coverageType <;> decide)⟩

end Truckmaster.QuoteLoad
