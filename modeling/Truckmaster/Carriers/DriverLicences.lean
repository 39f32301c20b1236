import Truckmaster.Carriers.Creation
import Truckmaster.Library.Runs

namespace Truckmaster.Carriers

open Common Fallible Runs Tables Transactions

inductive DriverOp
  | addDriver (dto : AddDriverInput)
  | updateDriver (driverId : Uuid) (dto : UpdateDriverInput)
  | deactivateDriver (driverId : Uuid) (dto : CarrierLifecycleReasonInput)
  | reactivateDriver (driverId : Uuid) (dto : CarrierLifecycleReasonInput)

structure DriverCall where
  q : Request
  carrierId : Uuid
  op : DriverOp

def DriverCall.program (c : DriverCall) : CarrierTx Unit :=
  match c.op with
  | .addDriver dto => CarrierService.addDriver c.q c.carrierId dto
  | .updateDriver driverId dto => CarrierService.updateDriver c.q c.carrierId driverId dto
  | .deactivateDriver driverId dto => CarrierService.deactivateDriver c.q c.carrierId driverId dto
  | .reactivateDriver driverId dto => CarrierService.reactivateDriver c.q c.carrierId driverId dto

def DriverCall.serve (d : CarrierDb) (c : DriverCall) : CarrierDb := (c.program.commit CarrierDb.write d).2

structure Clash (v w : Driver) : Prop where
  others : v.id ≠ w.id
  carrier : v.carrierId = w.carrierId
  active : v.active = true ∧ w.active = true
  license : ∃ l ∈ v.licenseNumber, ∃ m ∈ w.licenseNumber, trim l = trim m ∧ trim m ≠ ""

def Licensed (d : CarrierDb) : Prop := ∀ v ∈ d.drivers.rows, ∀ w ∈ d.drivers.rows, ¬ Clash v w

/-- Another active driver clashes with `v`, and its number is stored with white space around it. -/
def Concealed (d : CarrierDb) (v : Driver) : Prop :=
  ∃ w ∈ d.drivers.rows, w.id ≠ v.id ∧ w.carrierId = v.carrierId ∧ w.active = true ∧
    ∃ l ∈ v.licenseNumber, ∃ m ∈ w.licenseNumber, trim l = trim m ∧ trim m ≠ "" ∧ trim m ≠ m

def DriverCall.Apart (d : CarrierDb) (c : DriverCall) : Prop :=
  match c.op with
  | .addDriver dto => ¬ Concealed d (dto.driver c.q c.carrierId)
  | .updateDriver driverId dto => ∀ v ∈ d.drivers.rows, v.id = driverId → v.carrierId = c.carrierId →
      v.active = true → dto.licenseNumber ≠ none → ¬ Concealed d (v.withLicense dto.licenseNumber)
  | .deactivateDriver _ _ => True
  | .reactivateDriver driverId _ => ∀ v ∈ d.drivers.rows, v.id = driverId → v.carrierId = c.carrierId →
      ¬ Concealed d v

variable {d t : CarrierDb} {c : DriverCall} {v w x : Driver} {q : Request} {carrierId driverId : Uuid}

lemma Clash.symm (h : Clash v w) : Clash w v := by
  obtain ⟨hothers, hcarrier, hactive, l, hl, m, hm, hsame, hfilled⟩ := h
  exact ⟨hothers.symm, hcarrier.symm, hactive.symm, m, hm, l, hl, hsame.symm, hsame ▸ hfilled⟩

lemma Licensed.change (h : Licensed d) (hrows : ∀ v ∈ t.drivers.rows, v = x ∨ v ∈ d.drivers.rows)
    (hfree : ∀ v ∈ d.drivers.rows, ¬ Clash x v) : Licensed t := by
  intro v hv w hw
  rcases hrows v hv with rfl | hold <;> rcases hrows w hw with rfl | hold'
  · exact fun hclash => hclash.others rfl
  · exact hfree w hold'
  · exact fun hclash => hfree v hold hclash.symm
  · exact h v hold w hold'

lemma not_clash_of_inactive (h : x.active = false) : ¬ Clash x v := by
  intro hclash
  rw [hclash.active.1] at h
  cases h

/-- The check compares with what is stored, so it leaves exactly the clashes that white space conceals. -/
lemma not_clash_of_free {exclude : Option Uuid} (hfree : ¬ d.LicenseTaken x.carrierId exclude x.licenseNumber)
    (hexclude : ∀ id, exclude = some id → id = x.id) (hconcealed : ¬ Concealed d x) : ∀ v ∈ d.drivers.rows, ¬ Clash x v := by
  rintro v hv ⟨hothers, hcarrier, ⟨_, hactive⟩, l, hl, m, hm, hsame, hfilled⟩
  refine hconcealed ⟨v, hv, hothers.symm, hcarrier.symm, hactive, l, hl, m, hm, hsame, hfilled, fun htrimmed => ?_⟩
  refine hfree ⟨l, hl, hsame ▸ hfilled, v, hv, hcarrier.symm, ?_, hactive, fun hsome => ?_⟩
  · rw [hsame, htrimmed]
    exact hm
  · exact hothers (hexclude v.id hsome).symm

lemma rows_update (f : Driver → Driver) (hf : ∀ v : Driver, (f v).id = v.id) (hv : v ∈ d.drivers.rows) :
    ∀ w ∈ (d.drivers.update v.id f hf).rows, w = f v ∨ w ∈ d.drivers.rows := by
  intro w hw
  rcases (d.drivers.mem_update v.id f hf).mp hw with ⟨a, ha, hid, rfl⟩ | ⟨hw, _⟩
  · exact Or.inl (congrArg f (d.drivers.eq_of_key ha hv hid))
  · exact Or.inr hw

lemma addDriver_rows {dto : AddDriverInput}
    (h : (CarrierService.addDriver q carrierId dto).run CarrierDb.write d = (.ok (), t)) :
    ¬ d.LicenseTaken carrierId none dto.licenseNumber ∧
      ∀ v ∈ t.drivers.rows, v = dto.driver q carrierId ∨ v ∈ d.drivers.rows := by
  obtain ⟨_, d₁, hcarrier, hrest₁⟩ := Txn.run_bind_ok.mp h
  obtain rfl := Txn.Writes.run_silent (writes_requireCarrier _ _) hcarrier
  obtain ⟨x, hcheck, hx⟩ := run_assertNoDuplicate_exclude d₁ carrierId (q.order 1) none
    dto.licenseNumber
  obtain ⟨_, d₂, hlicense, hrest₂⟩ := Txn.run_bind_ok.mp hrest₁
  obtain ⟨rfl, rfl⟩ := Prod.mk.inj (hcheck.symm.trans hlicense)
  refine ⟨hx.mp rfl, ?_⟩
  obtain ⟨_, d₃, hlimit, hrest₃⟩ := Txn.run_bind_ok.mp hrest₂
  obtain rfl := Txn.Writes.run_silent (writes_assertCanCreateDriver _) hlimit
  obtain ⟨_, d₄, hclaim, hrest₄⟩ := Txn.run_bind_ok.mp hrest₃
  obtain rfl := Txn.Writes.run_silent (.claim _ _ _) hclaim
  obtain ⟨_, rfl⟩ := Prod.mk.inj hrest₄
  intro v hv
  change v ∈ ((d₄.drivers.insert (dto.driver q carrierId)).getD d₄.drivers).rows at hv
  cases hinsert : d₄.drivers.insert (dto.driver q carrierId) with
  | none =>
    rw [hinsert] at hv
    exact Or.inr hv
  | some drivers =>
    rw [hinsert, Option.getD_some, Table.insert_rows hinsert, List.mem_append, List.mem_singleton] at hv
    exact hv.symm

lemma run_findDriver {α : Type} {f : Driver → CarrierTx α} {o : RowOrder} {a : α} (h : (do
      let found ← Txn.read (CarrierDb.findDriver o carrierId driverId)
      let driver ← Txn.require found (.notFound "Driver not found.")
      f driver : CarrierTx α).run CarrierDb.write d = (.ok a, t)) :
    ∃ v ∈ d.drivers.rows, v.id = driverId ∧ v.carrierId = carrierId ∧ (f v).run CarrierDb.write d = (.ok a, t) := by
  rw [Txn.run_bind, Txn.run_read] at h
  cases hfound : d.findDriver o carrierId driverId with
  | none =>
    simp only [hfound, Txn.require_none_bind] at h
    cases h
  | some v =>
    simp only [hfound, Txn.require_some_bind] at h
    obtain ⟨hmem, hp⟩ := findFirst_some hfound
    simp only [Bool.and_eq_true, beq_iff_eq] at hp
    exact ⟨v, hmem, hp.1, hp.2, h⟩

lemma updateDriver_rows {dto : UpdateDriverInput}
    (h : (CarrierService.updateDriver q carrierId driverId dto).run CarrierDb.write d = (.ok (), t)) :
    ¬ d.LicenseTaken carrierId (some driverId) dto.licenseNumber.join ∧
      ∃ v ∈ d.drivers.rows, v.id = driverId ∧ v.carrierId = carrierId ∧
        ∀ w ∈ t.drivers.rows, w = v.withLicense dto.licenseNumber ∨ w ∈ d.drivers.rows := by
  obtain ⟨v, hv, rfl, hcarrier, hrest₁⟩ := run_findDriver h
  obtain ⟨x, hcheck, hx⟩ := run_assertNoDuplicate_exclude d carrierId (q.order 1) (some v.id)
    dto.licenseNumber.join
  obtain ⟨_, d₂, hlicense, hrest₂⟩ := Txn.run_bind_ok.mp hrest₁
  obtain ⟨rfl, rfl⟩ := Prod.mk.inj (hcheck.symm.trans hlicense)
  obtain ⟨_, d₃, hwrite, hrest₃⟩ := Txn.run_bind_ok.mp hrest₂
  obtain ⟨_, rfl⟩ := Prod.mk.inj hwrite
  have hdrivers : t.drivers = d.drivers.update v.id (.withLicense dto.licenseNumber) (fun _ => rfl) := by
    split at hrest₃ <;> obtain ⟨_, rfl⟩ := Prod.mk.inj hrest₃ <;> rfl
  refine ⟨hx.mp rfl, v, hv, rfl, hcarrier, ?_⟩
  rw [hdrivers]
  exact rows_update _ _ hv

lemma transitionDriverActive_rows {toActive : Bool} {action message : String} {dto : CarrierLifecycleReasonInput}
    (h : (CarrierService.transitionDriverActive q carrierId driverId toActive action message dto).run CarrierDb.write d =
      (.ok (), t)) :
    ∃ v ∈ d.drivers.rows, v.id = driverId ∧ v.carrierId = carrierId ∧
      ¬ d.LicenseTaken carrierId (some driverId) (if toActive then v.licenseNumber else none) ∧
      ∀ w ∈ t.drivers.rows, w = v.withActive toActive ∨ w ∈ d.drivers.rows := by
  obtain ⟨v, hv, rfl, hcarrier, hrest₁⟩ := run_findDriver h
  obtain ⟨_, d₁, hstate, hrest₂⟩ := Txn.run_bind_ok.mp hrest₁
  obtain rfl := Txn.Writes.run_silent (.ensure _ _) hstate
  obtain ⟨_, d₂, hreason, hrest₃⟩ := Txn.run_bind_ok.mp hrest₂
  obtain rfl := Txn.Writes.run_silent (.lift _) hreason
  obtain ⟨x, hcheck, hx⟩ := run_assertNoDuplicate_exclude d₂ carrierId (q.order 1) (some v.id)
    (if toActive then v.licenseNumber else none)
  obtain ⟨_, d₃, hlicense, hrest₄⟩ := Txn.run_bind_ok.mp hrest₃
  obtain ⟨rfl, rfl⟩ := Prod.mk.inj (hcheck.symm.trans hlicense)
  obtain ⟨_, rfl⟩ := Prod.mk.inj hrest₄
  exact ⟨v, hv, rfl, hcarrier, hx.mp rfl, rows_update (.withActive toActive) (fun _ => rfl) hv⟩

lemma serve_licensed (hd : Licensed d) (hapart : c.Apart d) : Licensed (c.serve d) := by
  unfold DriverCall.serve
  rcases hrun : c.program.commit CarrierDb.write d with ⟨e | u, t⟩
  · exact (Txn.commit_error hrun).symm ▸ hd
  · replace hrun := Txn.commit_eq_ok.mp hrun
    obtain ⟨q, carrierId, op⟩ := c
    cases op with
    | addDriver dto =>
      obtain ⟨hfree, hrows⟩ := addDriver_rows hrun
      exact hd.change hrows (not_clash_of_free hfree nofun hapart)
    | updateDriver driverId dto =>
      obtain ⟨hfree, v, hv, hid, hcarrier, hrows⟩ := updateDriver_rows hrun
      refine hd.change hrows ?_
      cases hgiven : dto.licenseNumber with
      | none => exact hd v hv
      | some licenseNumber =>
        by_cases hactive : v.active = true
        · have hconcealed := hapart v hv hid hcarrier hactive (by simp [hgiven])
          rw [hgiven] at hfree hconcealed
          refine not_clash_of_free (hcarrier ▸ hfree) ?_ hconcealed
          exact fun id hsome => (Option.some.inj hsome).symm.trans hid.symm
        · exact fun w _ => not_clash_of_inactive (Bool.eq_false_of_not_eq_true hactive)
    | deactivateDriver driverId dto =>
      obtain ⟨v, _, _, _, _, hrows⟩ := transitionDriverActive_rows hrun
      exact hd.change hrows (fun w _ => not_clash_of_inactive rfl)
    | reactivateDriver driverId dto =>
      obtain ⟨_, d₁, hslot, hrest⟩ := Txn.run_bind_ok.mp hrun
      obtain rfl := Txn.Writes.run_silent writes_assertDriverSlotAvailable hslot
      obtain ⟨v, hv, hid, hcarrier, hfree, hrows⟩ := transitionDriverActive_rows hrest
      refine hd.change hrows (not_clash_of_free (hcarrier ▸ hfree) ?_ (hapart v hv hid hcarrier))
      exact fun id hsome => (Option.some.inj hsome).symm.trans hid.symm

theorem driver_licences_apart {calls : List DriverCall} (hd : Licensed d)
    (hrun : Run (Guarded (Total DriverCall.serve) DriverCall.Apart) d calls t) : Licensed t := by
  refine hrun.invariant (P := Licensed) (fun s e u hs hstep => ?_) hd
  obtain ⟨rfl, hapart⟩ := hstep
  exact serve_licensed hs hapart

namespace Sample

def addLicence (n : ℕ) (licenseNumber : String) : DriverCall := ⟨request n, 5, .addDriver ⟨some licenseNumber⟩⟩

def licensedCalls : List DriverCall :=
  [addLicence 9 "L1", addLicence 10 " L1 ", addLicence 11 "L2 ",
    ⟨request 12, 5, .updateDriver 1100 { licenseNumber := some (some "L3") }⟩, addLicence 13 "L2"]

end Sample

instance (d : CarrierDb) (v : Driver) : Decidable (Concealed d v) :=
  inferInstanceAs (Decidable (∃ w ∈ d.drivers.rows, w.id ≠ v.id ∧ w.carrierId = v.carrierId ∧ w.active = true ∧
    ∃ l ∈ v.licenseNumber, ∃ m ∈ w.licenseNumber, trim l = trim m ∧ trim m ≠ "" ∧ trim m ≠ m))

instance (d : CarrierDb) : (c : DriverCall) → Decidable (c.Apart d)
  | ⟨q, carrierId, .addDriver dto⟩ => inferInstanceAs (Decidable (¬ Concealed d (dto.driver q carrierId)))
  | ⟨_, carrierId, .updateDriver driverId dto⟩ => inferInstanceAs (Decidable (∀ v ∈ d.drivers.rows, v.id = driverId →
      v.carrierId = carrierId → v.active = true → dto.licenseNumber ≠ none →
        ¬ Concealed d (v.withLicense dto.licenseNumber)))
  | ⟨_, _, .deactivateDriver _ _⟩ => .isTrue trivial
  | ⟨_, carrierId, .reactivateDriver driverId _⟩ => inferInstanceAs (Decidable (∀ v ∈ d.drivers.rows, v.id = driverId →
      v.carrierId = carrierId → ¬ Concealed d v))

theorem driver_licences_apart_sample : Licensed (Sample.licensedCalls.foldl DriverCall.serve Sample.compliant) ∧
    (Sample.licensedCalls.foldl DriverCall.serve Sample.compliant).drivers.rows =
      [⟨900, 5, some "L1", true⟩, ⟨1100, 5, some "L3", true⟩, ⟨1300, 5, some "L2", true⟩] :=
  ⟨driver_licences_apart (d := Sample.compliant) (fun v hv => absurd hv List.not_mem_nil)
    (run_total_checked (by decide +kernel)), by decide +kernel⟩

theorem untrimmed_licence_clashes :
    ¬ ∀ (d t : CarrierDb) (calls : List DriverCall), Licensed d → Run (Total DriverCall.serve) d calls t → Licensed t := by
  intro h
  have hrows : ([Sample.addLicence 9 " L1", Sample.addLicence 10 "L1"].foldl DriverCall.serve Sample.compliant).drivers.rows =
      [⟨900, 5, some " L1", true⟩, ⟨1000, 5, some "L1", true⟩] := by decide +kernel
  have hlicensed := h Sample.compliant _ _ (fun v hv => absurd hv List.not_mem_nil)
    (run_total DriverCall.serve Sample.compliant [Sample.addLicence 9 " L1", Sample.addLicence 10 "L1"])
  rw [Licensed, hrows] at hlicensed
  refine hlicensed ⟨900, 5, some " L1", true⟩ (by simp) ⟨1000, 5, some "L1", true⟩ (by simp) ⟨by decide, rfl, ⟨rfl, rfl⟩, ?_⟩
  exact ⟨" L1", rfl, "L1", rfl, by decide +kernel, by decide +kernel⟩

end Truckmaster.Carriers
