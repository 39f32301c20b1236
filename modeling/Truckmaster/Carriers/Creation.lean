import Truckmaster.Carriers.CarrierEffects

namespace Truckmaster.Carriers

open Common Fallible Tables Transactions

def OrganizationSubscription.Closed (org : OrganizationSubscription) (now : Instant) (max : Option ℕ) (count : ℕ) : Prop :=
  EntitlementService.resolveEffectiveStatus org now = .expired ∨ ∃ m ∈ max, m ≤ count

variable {d : CarrierDb} {carrierId : Uuid}

section Entitlement

lemma run_assertCountWithinLimit (limit : OrganizationSubscription → Option ℕ) (count : CarrierDb → ℕ)
    (resource : String) :
    ∃ x, (EntitlementService.assertCountWithinLimit limit count resource d.organization).run CarrierDb.write d = (x, d) ∧
      (x = .ok () ↔ ∀ m ∈ limit d.organization, count d < m) := by
  unfold EntitlementService.assertCountWithinLimit
  cases hlimit : limit d.organization with
  | none => exact ⟨.ok (), rfl, by simp⟩
  | some max =>
    refine ⟨ensure (count d < max) (EntitlementService.limitReached resource max), ?_, by simp [ensure_eq_ok]⟩
    simp only [EntitlementService.lockOrganizationRow, Txn.run_bind, Txn.run_readLocked, hlimit, Txn.run_read,
      Txn.run_ensure]

lemma run_assertCanCreate (limit : OrganizationSubscription → Option ℕ) (count : CarrierDb → ℕ)
    (resource action : String) (now : Instant) :
    ∃ x, (do
        let quick ← EntitlementService.readOrganizationSubscription
        EntitlementService.assertNotExpired quick now action
        EntitlementService.assertCountWithinLimit limit count resource quick : CarrierTx Unit).run CarrierDb.write d =
      (x, d) ∧ (x = .ok () ↔ ¬ d.organization.Closed now (limit d.organization) (count d)) := by
  obtain ⟨x, hrun, hx⟩ := run_assertCountWithinLimit limit count resource
  simp only [EntitlementService.readOrganizationSubscription, Txn.run_bind, Txn.run_read, Txn.run_lift]
  by_cases hexpired : EntitlementService.resolveEffectiveStatus d.organization now = .expired
  · have hrefused : EntitlementService.assertNotExpired d.organization now action = .error _ :=
      ensure_not (not_not_intro hexpired)
    rw [hrefused]
    exact ⟨_, rfl, by simp [OrganizationSubscription.Closed, hexpired]⟩
  · have hadmitted : EntitlementService.assertNotExpired d.organization now action = .ok () := ensure_of hexpired
    rw [hadmitted]
    refine ⟨x, hrun, ?_⟩
    rw [hx, OrganizationSubscription.Closed, not_or]
    exact ⟨fun h => ⟨hexpired, fun ⟨m, hm, hle⟩ => (h m hm).not_ge hle⟩,
      fun h m hm => lt_of_not_ge (fun hle => h.2 ⟨m, hm, hle⟩)⟩

end Entitlement

section Create

def CarrierDb.created (d : CarrierDb) (w : CarrierWrite) (event : AuditEvent) : CarrierDb :=
  (d.write w).write (.record event)

def creationEvent (q : Request) (action : String) (carrierId : Uuid) : AuditEvent :=
  ⟨action, "Carrier", carrierId, some q.actingUserId, .human, none⟩

def CreateCarrierInput.Shares (dto : CreateCarrierInput) (c : Carrier) : Prop :=
  c.mcNumber = dto.mcNumber ∨ c.dotNumber = dto.dotNumber

def CreateCarrierInput.carrier (dto : CreateCarrierInput) (q : Request) : Carrier :=
  { id := q.uuid 0, mcNumber := dto.mcNumber, dotNumber := dto.dotNumber }

lemma exec_of_run {p : CarrierTx Unit} {e : AppError} {t : CarrierDb} (h : p.run CarrierDb.write d = (.error e, t)) :
    ∃ e, p.exec CarrierDb.write d = .error e := ⟨e, Txn.exec_eq_error.mpr ⟨t, h⟩⟩

lemma create_refused (q : Request) (dto : CreateCarrierInput)
    (h : (∃ c ∈ d.carriers.rows, dto.Shares c) ∨
      d.organization.Closed q.now d.organization.maxCarriers d.carrierCount) :
    ∃ e, (CarrierService.create q dto).exec CarrierDb.write d = .error e := by
  cases hfound : findFirst (q.order 0) (fun c => c.mcNumber == dto.mcNumber || c.dotNumber == dto.dotNumber)
      d.carriers.rows with
  | some c =>
    obtain ⟨e, hrun⟩ := create_duplicate hfound
    exact exec_of_run hrun
  | none =>
    have hnew := findFirst_none.mp hfound
    have hclosed : d.organization.Closed q.now d.organization.maxCarriers d.carrierCount := by
      refine h.resolve_left (fun ⟨c, hc, hshares⟩ => ?_)
      have hfree := hnew c hc
      rcases hshares with hmc | hdot
      · simp [hmc] at hfree
      · simp [hdot] at hfree
    obtain ⟨x, hrun, hx⟩ := run_assertCanCreate (d := d) OrganizationSubscription.maxCarriers CarrierDb.carrierCount
      "carrier" "add more carriers" q.now
    cases x with
    | ok _ => exact absurd hclosed (hx.mp rfl)
    | error e =>
      refine exec_of_run (e := e) (t := d) ?_
      rw [CarrierService.create, Txn.run_bind, Txn.run_read]
      simp only [hfound]
      rw [CarrierService.refuseDuplicate, Txn.pure_bind, Txn.run_bind]
      have hcheck : (EntitlementService.assertCanCreateCarrier q.now).run CarrierDb.write d = (.error e, d) := hrun
      rw [hcheck]

lemma create_accepted (q : Request) (dto : CreateCarrierInput) (hnew : ∀ c ∈ d.carriers.rows, ¬ dto.Shares c)
    (hid : ∀ c ∈ d.carriers.rows, c.id ≠ q.uuid 0)
    (hopen : ¬ d.organization.Closed q.now d.organization.maxCarriers d.carrierCount) :
    ∃ t, (CarrierService.create q dto).exec CarrierDb.write d = .ok t ∧
      t.carriers.rows = d.carriers.rows ++ [dto.carrier q] ∧ t.organization = d.organization ∧ t.drivers = d.drivers := by
  obtain ⟨x, hrun, hx⟩ := run_assertCanCreate (d := d) OrganizationSubscription.maxCarriers CarrierDb.carrierCount
    "carrier" "add more carriers" q.now
  obtain rfl := hx.mpr hopen
  have hcheck : (EntitlementService.assertCanCreateCarrier q.now).run CarrierDb.write d = (.ok (), d) := hrun
  have hfound : findFirst (q.order 0) (fun c => c.mcNumber == dto.mcNumber || c.dotNumber == dto.dotNumber)
      d.carriers.rows = none := by
    refine findFirst_none.mpr (fun c hc => ?_)
    have hapart := not_or.mp (hnew c hc)
    simp [hapart.1, hapart.2]
  have hfree (p : Carrier → Bool) (hp : ∀ c ∈ d.carriers.rows, p c = false) : d.carriers.rows.any p = false :=
    List.any_eq_false.mpr (fun c hc => by simp [hp c hc])
  obtain ⟨carriers, hinsert, hrows⟩ := Table.insert_of_new (t := d.carriers) (a := dto.carrier q)
    (fun h => by
      obtain ⟨c, hc, hsame⟩ := List.mem_map.mp h
      exact hid c hc hsame)
  have hfreeId := hfree (fun c => c.id == q.uuid 0) (fun c hc => by simpa using hid c hc)
  have hfreeMc := hfree (fun c => c.mcNumber == dto.mcNumber) (fun c hc => by simpa using (not_or.mp (hnew c hc)).1)
  have hfreeDot := hfree (fun c => c.dotNumber == dto.dotNumber) (fun c hc => by simpa using (not_or.mp (hnew c hc)).2)
  refine ⟨d.created (.insertCarrier (dto.carrier q)) (creationEvent q "Carrier Created" (q.uuid 0)),
    Txn.exec_eq_ok.mpr ⟨(), ?_⟩, ?_, rfl, rfl⟩
  · rw [CarrierService.create, Txn.run_bind, Txn.run_read]
    simp only [hfound]
    rw [CarrierService.refuseDuplicate, Txn.pure_bind, Txn.run_bind, hcheck]
    simp only [Txn.run_bind, Txn.run_claim, Txn.run_write, hfreeId, hfreeMc, hfreeDot, Bool.false_eq_true,
      ↓reduceIte]
    rfl
  · change ((d.carriers.insert (dto.carrier q)).getD d.carriers).rows = _
    rw [hinsert, Option.getD_some, hrows]

end Create

section AddDriver

def CarrierDb.LicenseHeld (d : CarrierDb) (carrierId : Uuid) (licenseNumber : Option String) : Prop :=
  ∃ license ∈ licenseNumber, trim license ≠ "" ∧
    ∃ v ∈ d.drivers.rows, v.carrierId = carrierId ∧ v.licenseNumber = some (trim license) ∧ v.active = true

def AddDriverInput.driver (dto : AddDriverInput) (q : Request) (carrierId : Uuid) : Driver :=
  { id := q.uuid 0, carrierId, licenseNumber := dto.licenseNumber }

def CarrierDb.LicenseTaken (d : CarrierDb) (carrierId : Uuid) (exclude : Option Uuid) (licenseNumber : Option String) :
    Prop :=
  ∃ license ∈ licenseNumber, trim license ≠ "" ∧ ∃ v ∈ d.drivers.rows, v.carrierId = carrierId ∧
    v.licenseNumber = some (trim license) ∧ v.active = true ∧ exclude ≠ some v.id

lemma run_assertNoDuplicate_exclude (d : CarrierDb) (carrierId : Uuid) (o : RowOrder) (exclude : Option Uuid) (licenseNumber : Option String) :
    ∃ x, (CarrierService.assertNoDuplicate o carrierId exclude licenseNumber).run CarrierDb.write d = (x, d) ∧
      (x = .ok () ↔ ¬ d.LicenseTaken carrierId exclude licenseNumber) := by
  cases licenseNumber with
  | none => exact ⟨.ok (), rfl, by simp [CarrierDb.LicenseTaken]⟩
  | some license =>
    by_cases hempty : trim license = ""
    · refine ⟨.ok (), ?_, by simp [CarrierDb.LicenseTaken, hempty]⟩
      rw [CarrierService.assertNoDuplicate, CarrierService.assertNoDuplicateLicense, if_pos hempty]
      split <;> rfl
    · have hgiven : license ≠ "" := fun h => hempty (by rw [h]; rfl)
      rw [CarrierService.assertNoDuplicate, if_neg hgiven, CarrierService.assertNoDuplicateLicense, if_neg hempty,
        Txn.run_bind, Txn.run_read]
      cases hfound : findFirst o (fun v => v.carrierId == carrierId && v.licenseNumber == some (trim license) &&
          v.active && exclude != some v.id) d.drivers.rows with
      | none =>
        refine ⟨.ok (), rfl, iff_of_true rfl ?_⟩
        rintro ⟨_, hgiven, _, v, hv, hcarrier, hlicense, hactive, hother⟩
        obtain rfl := Option.some.inj hgiven
        have hfree := findFirst_none.mp hfound v hv
        simp [hcarrier, hlicense, hactive, hother] at hfree
      | some driver =>
        refine ⟨.error _, rfl, iff_of_false nofun (not_not_intro ?_)⟩
        obtain ⟨hmem, hp⟩ := findFirst_some hfound
        simp only [Bool.and_eq_true, beq_iff_eq, bne_iff_ne] at hp
        exact ⟨license, rfl, hempty, driver, hmem, hp.1.1.1, hp.1.1.2, hp.1.2, hp.2⟩

lemma run_assertNoDuplicate (d : CarrierDb) (carrierId : Uuid) (o : RowOrder) (licenseNumber : Option String) :
    ∃ x, (CarrierService.assertNoDuplicate o carrierId none licenseNumber).run CarrierDb.write d = (x, d) ∧
      (x = .ok () ↔ ¬ d.LicenseHeld carrierId licenseNumber) := by
  obtain ⟨x, hrun, hx⟩ := run_assertNoDuplicate_exclude d carrierId o none licenseNumber
  refine ⟨x, hrun, hx.trans (not_congr ?_)⟩
  simp [CarrierDb.LicenseTaken, CarrierDb.LicenseHeld]

lemma addDriver_refused (q : Request) (dto : AddDriverInput)
    (h : d.LicenseHeld carrierId dto.licenseNumber ∨
      d.organization.Closed q.now d.organization.maxDrivers d.driverCount) :
    ∃ e, (CarrierService.addDriver q carrierId dto).exec CarrierDb.write d = .error e := by
  rw [CarrierService.addDriver]
  obtain ⟨x, hlicense, hx⟩ := run_assertNoDuplicate d carrierId (q.order 1) dto.licenseNumber
  obtain ⟨y, hcheck, hy⟩ := run_assertCanCreate (d := d) OrganizationSubscription.maxDrivers CarrierDb.driverCount
    "driver" "add more drivers" q.now
  replace hcheck : (EntitlementService.assertCanCreateDriver q.now).run CarrierDb.write d = (y, d) := hcheck
  cases hfound : d.findCarrier (q.order 0) carrierId with
  | none =>
    refine exec_of_run (e := .notFound "Carrier not found.") (t := d) ?_
    rw [CarrierService.requireCarrier, Txn.run_bind, Txn.run_bind, Txn.run_read]
    simp only [hfound, Txn.run_require]
    rfl
  | some c =>
    have hcarrier : (CarrierService.requireCarrier (q.order 0) carrierId).run CarrierDb.write d = (.ok c, d) := by
      rw [CarrierService.requireCarrier, Txn.run_bind, Txn.run_read]
      simp only [hfound, Txn.run_require]
      rfl
    cases x with
    | error e => exact exec_of_run (t := d) (e := e) (by rw [Txn.run_bind, hcarrier]; simp only [Txn.run_bind, hlicense])
    | ok _ =>
      cases y with
      | error e =>
        exact exec_of_run (t := d) (e := e)
          (by rw [Txn.run_bind, hcarrier]; simp only [Txn.run_bind, hlicense, hcheck])
      | ok _ => exact absurd h (not_or.mpr ⟨hx.mp rfl, hy.mp rfl⟩)

lemma addDriver_accepted (q : Request) (dto : AddDriverInput) (hcarrier : ∃ c ∈ d.carriers.rows, c.id = carrierId)
    (hlicense : ¬ d.LicenseHeld carrierId dto.licenseNumber) (hid : ∀ v ∈ d.drivers.rows, v.id ≠ q.uuid 0)
    (hopen : ¬ d.organization.Closed q.now d.organization.maxDrivers d.driverCount) :
    ∃ t, (CarrierService.addDriver q carrierId dto).exec CarrierDb.write d = .ok t ∧
      t.drivers.rows = d.drivers.rows ++ [dto.driver q carrierId] ∧ t.organization = d.organization ∧
      t.carriers = d.carriers := by
  obtain ⟨x, hrun, hx⟩ := run_assertNoDuplicate d carrierId (q.order 1) dto.licenseNumber
  obtain rfl := hx.mpr hlicense
  obtain ⟨y, hcheck, hy⟩ := run_assertCanCreate (d := d) OrganizationSubscription.maxDrivers CarrierDb.driverCount
    "driver" "add more drivers" q.now
  obtain rfl := hy.mpr hopen
  replace hcheck : (EntitlementService.assertCanCreateDriver q.now).run CarrierDb.write d = (.ok (), d) := hcheck
  have hfound : ∃ c, d.findCarrier (q.order 0) carrierId = some c := by
    rw [← Option.ne_none_iff_exists']
    intro hnone
    obtain ⟨c, hc, hsame⟩ := hcarrier
    simpa [hsame] using findFirst_none.mp hnone c hc
  obtain ⟨c, hfound⟩ := hfound
  have hfree : d.drivers.rows.any (fun v => v.id == q.uuid 0) = false :=
    List.any_eq_false.mpr (fun v hv => by simpa using hid v hv)
  obtain ⟨drivers, hinsert, hrows⟩ := Table.insert_of_new (t := d.drivers) (a := dto.driver q carrierId)
    (fun h => by
      obtain ⟨v, hv, hsame⟩ := List.mem_map.mp h
      exact hid v hv hsame)
  refine ⟨d.created (.insertDriver (dto.driver q carrierId)) (creationEvent q "Driver Added" carrierId),
    Txn.exec_eq_ok.mpr ⟨(), ?_⟩, ?_, rfl, rfl⟩
  · rw [CarrierService.addDriver, CarrierService.requireCarrier, Txn.run_bind, Txn.run_bind, Txn.run_read]
    simp only [hfound, Txn.run_require]
    change Txn.run CarrierDb.write (CarrierService.assertNoDuplicate _ _ _ _ >>= _) d = _
    rw [Txn.run_bind, hrun]
    simp only [Txn.run_bind, hcheck, Txn.run_claim, Txn.run_write, hfree, Bool.false_eq_true, ↓reduceIte]
    rfl
  · change ((d.drivers.insert (dto.driver q carrierId)).getD d.drivers).rows = _
    rw [hinsert, Option.getD_some, hrows]

end AddDriver

end Truckmaster.Carriers
