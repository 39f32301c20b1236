import Truckmaster.Carriers.CarrierEffects
import Truckmaster.QuoteLoad.CarrierSourcing

namespace Truckmaster.QuoteLoad

open Common Fallible Tables Transactions
open Carriers (CarrierDb CarrierRow CarrierWrite)
open Carriers.CarrierEligibilityService (EligibilityResult ineligibilityReasons recalculated)

/-- The Load is the one that the request names, if the organization has it; `contact` has the columns of a carrier
that the carrier services only store. -/
structure SourcingDb where
  carriers : CarrierDb
  contact : Uuid → Carrier
  load : Option LoadRows

inductive SourcingRow
  | carriers (row : CarrierRow)
  | load
  deriving DecidableEq

inductive SourcingWrite
  | carriers (w : CarrierWrite)
  | createSourcingAttempt (attempt : CarrierSourcingAttempt)
  | assign (carrierId : Uuid) (carrierRate : Cents)
  | createCharge (charge : ChargeLineItem)
  | record (event : AuditEvent)
  | notify (recipients : List Uuid) (type message : String)

abbrev SourcingTx := Txn SourcingDb SourcingRow SourcingWrite AppError

namespace LoadRows

def assign (rows : LoadRows) (carrierId : Uuid) (carrierRate : Cents) : LoadRows :=
  { rows with
    load := { rows.load with
      status := .carrierAssigned
      assignedCarrierId := some carrierId
      carrierRate := some carrierRate } }

def notified (rows : LoadRows) (type : String) : Bool := rows.notifications.any (fun n => n.type == type)

def notify (rows : LoadRows) (recipients : List Uuid) (type message : String) : LoadRows :=
  { rows with notifications := rows.notifications ++ recipients.map (fun u => ⟨u, type, message⟩) }

end LoadRows

namespace SourcingDb

def write : SourcingWrite → SourcingDb → SourcingDb
  | .carriers w, d => { d with carriers := d.carriers.write w }
  | .createSourcingAttempt attempt, d =>
    { d with load := d.load.map (fun rows => { rows with sourcingAttempts := rows.sourcingAttempts ++ [attempt] }) }
  | .assign carrierId carrierRate, d => { d with load := d.load.map (fun rows => rows.assign carrierId carrierRate) }
  | .createCharge charge, d =>
    { d with load := d.load.map (fun rows => { rows with chargeLineItems := rows.chargeLineItems ++ [charge] }) }
  | .record event, d => { d with load := d.load.map (fun rows => rows.record event) }
  | .notify recipients type message, d =>
    { d with load := d.load.map (fun rows => rows.notify recipients type message) }

def carriersPart : Part SourcingDb CarrierDb where
  get d := d.carriers
  put carriers d := { d with carriers }
  get_put _ _ := rfl
  put_put _ _ _ := rfl
  put_get _ := rfl

def notified (d : SourcingDb) (type : String) : Bool := d.load.any (fun rows => rows.notified type)

end SourcingDb

namespace CarrierSourcingTx

def recalculate (q : Request) (carrierId : Uuid) : SourcingTx EligibilityResult :=
  (Carriers.CarrierEligibilityService.recalculate q carrierId).embed SourcingDb.carriersPart .carriers .carriers

def blockedEvent (loadId : Uuid) : AuditEvent :=
  ⟨"Carrier Assignment Blocked — Ineligible", "Load", loadId, none, .system, none⟩

def refuseIneligible (loadId : Uuid) (result : EligibilityResult) :
    SourcingTx Unit :=
  if result.eligible then pure ()
  else do
    Txn.write (.record (blockedEvent loadId))
    Txn.throw (.eligibility "This carrier is not eligible for assignment." result.reasons)

def createOriginalCarrierLinehaulCharge (r : Reference) (q : Request) (carrierRate : Cents) : SourcingTx Unit :=
  match r.findType (q.order 0) "LINEHAUL" r.chargeTypes with
  | none => pure ()
  | some linehaulType => Txn.write (.createCharge
    { id := q.uuid 1, side := .carrier, chargeTypeId := linehaulType.id, unitRate := carrierRate
      amount := carrierRate, source := .original, createdByUserId := q.actingUserId })

def notifyOnce (recipients : List Uuid) (type message : String) : SourcingTx Unit := do
  let existingNotification ← Txn.read (fun d => d.notified type)
  if existingNotification then pure () else Txn.write (.notify recipients type message)

def assign (r : Reference) (q : Request) (dto : AssignCarrierInput) (rows : LoadRows) (carrier : Carrier) :
    SourcingTx Unit := do
  Txn.ensure (dto.carrierRate.cents ≤ decimalMax) (.database "Numeric field overflow.")
  Txn.write (.createSourcingAttempt
    { id := q.uuid 0, carrierId := dto.carrierId, carrierRate := some dto.carrierRate.cents, outcome := .assigned
      loggedByUserId := q.actingUserId, loggedAt := q.now })
  Txn.update .load (.assign dto.carrierId dto.carrierRate.cents)
  createOriginalCarrierLinehaulCharge r q dto.carrierRate.cents
  Txn.write (.record ⟨"Carrier Assigned", "Load", rows.load.id, some q.actingUserId, .human, none⟩)
  notifyOnce (r.membersInRoles CarrierSourcingService.carrierAssignedNotificationRoles) "CARRIER_ASSIGNED"
    ("Carrier assigned — " ++ rows.load.loadNumber ++ "\n" ++ carrier.legalName ++ " at $" ++ dto.carrierRate.text)

def assignCarrier (r : Reference) (q : Request) (dto : AssignCarrierInput) : SourcingTx Unit := do
  let found ← Txn.read SourcingDb.load
  let rows ← LoadRows.found found
  Txn.ensure (rows.load.status = .carrierSourcing) (.invalidTransition
    "A carrier can only be assigned to a load that is currently in Carrier Sourcing.")
  let found ← Txn.read (fun d => (d.carriers.findCarrier (q.order 1) dto.carrierId).map (fun c => d.contact c.id))
  let carrier ← Txn.require found (.notFound "Carrier not found.")
  let result ← recalculate q dto.carrierId
  refuseIneligible rows.load.id result
  assign r q dto rows carrier

end CarrierSourcingTx

namespace SourcingDb

def reference (d : SourcingDb) (r : Reference) (q : Request) : Reference :=
  { r with
    carrier := fun id => (d.carriers.findCarrier (q.order 1) id).map (fun c => d.contact c.id)
    eligibility := fun id => (d.carriers.findCarrier (q.order 13) id).elim ⟨false, []⟩ (fun c =>
      ⟨(ineligibilityReasons q d.carriers c).isEmpty, ineligibilityReasons q d.carriers c⟩) }

end SourcingDb

namespace CarrierSourcingTx

variable {d t : SourcingDb} {r : Reference} {q : Request} {dto : AssignCarrierInput} {rows : LoadRows} {e : AppError}

lemma write_carriers (w : CarrierWrite) (d : SourcingDb) : d.write (.carriers w) =
    SourcingDb.carriersPart.put ((SourcingDb.carriersPart.get d).write w) d := rfl

lemma run_recalculate {c : Carriers.Carrier} {carrierId : Uuid}
    (hfound : d.carriers.findCarrier (q.order 13) carrierId = some c) :
    (recalculate q carrierId).run SourcingDb.write d =
      (.ok ⟨(ineligibilityReasons q d.carriers c).isEmpty, ineligibilityReasons q d.carriers c⟩,
        { d with carriers := recalculated q d.carriers c }) := by
  have hrun := Carriers.CarrierEligibilityService.run_recalculate hfound
  rw [recalculate, Txn.run_embed write_carriers]
  exact congrArg (fun x => (x.1, SourcingDb.carriersPart.put x.2 d)) hrun

structure Reaches (d : SourcingDb) (dto : AssignCarrierInput) (rows : LoadRows) (c : Carriers.Carrier) : Prop where
  load : d.load = some rows
  status : rows.load.status = .carrierSourcing
  carrier : c ∈ d.carriers.carriers.rows
  id : c.id = dto.carrierId

lemma Reaches.found {c : Carriers.Carrier} (h : Reaches d dto rows c) (o : RowOrder) :
    d.carriers.findCarrier o dto.carrierId = some c := by
  cases hfound : d.carriers.findCarrier o dto.carrierId with
  | none => exact absurd h.id (by simpa using findFirst_none.mp hfound c h.carrier)
  | some c' =>
    obtain ⟨hc', hid'⟩ := findFirst_some hfound
    exact congrArg some (d.carriers.carriers.eq_of_key hc' h.carrier ((beq_iff_eq.mp hid').trans h.id.symm))

lemma run_reaches {c : Carriers.Carrier} (h : Reaches d dto rows c) :
    (assignCarrier r q dto).run SourcingDb.write d =
      (refuseIneligible rows.load.id
          ⟨(ineligibilityReasons q d.carriers c).isEmpty, ineligibilityReasons q d.carriers c⟩ >>= fun _ =>
        assign r q dto rows (d.contact c.id)).run SourcingDb.write
          { d with carriers := recalculated q d.carriers c } := by
  simp only [assignCarrier, Txn.run_bind, Txn.run_read, h.load, LoadRows.found_some, Txn.run_lift, Txn.run_ensure,
    ensure_of h.status, h.found, Option.map_some, Txn.run_require, require, Option.elim_some,
    run_recalculate (h.found _)]

lemma run_ineligible {c : Carriers.Carrier} (h : Reaches d dto rows c) (hreasons : ineligibilityReasons q d.carriers c ≠ []) :
    ∃ e, (assignCarrier r q dto).run SourcingDb.write d = (.error e,
      { d with carriers := recalculated q d.carriers c, load := some (rows.record (blockedEvent rows.load.id)) }) := by
  refine ⟨.eligibility "This carrier is not eligible for assignment." (ineligibilityReasons q d.carriers c), ?_⟩
  have hineligible : ¬ (ineligibilityReasons q d.carriers c).isEmpty = true := mt List.isEmpty_iff.mp hreasons
  rw [run_reaches h, refuseIneligible, if_neg hineligible, h.load]
  rfl

lemma run_not_reached (h : ∀ rows c, ¬ Reaches d dto rows c) :
    ∃ e, (assignCarrier r q dto).run SourcingDb.write d = (.error e, d) ∧
      CarrierSourcingService.assignCarrier (d.reference r q) q d.load dto = .error e := by
  cases hload : d.load with
  | none =>
    refine ⟨.notFound "Load not found.", ?_, rfl⟩
    simp only [assignCarrier, Txn.run_bind, Txn.run_read, hload, LoadRows.found, require, Option.elim_none,
      Txn.run_lift]
  | some rows =>
    by_cases hstatus : rows.load.status = .carrierSourcing
    · have hnone : d.carriers.findCarrier (q.order 1) dto.carrierId = none := by
        rw [CarrierDb.findCarrier, findFirst_none]
        intro c hc
        rw [beq_eq_false_iff_ne]
        exact fun hid => h rows c ⟨hload, hstatus, hc, hid⟩
      refine ⟨.notFound "Carrier not found.", ?_, ?_⟩
      · simp only [assignCarrier, Txn.run_bind, Txn.run_read, hload, LoadRows.found_some, Txn.run_lift, Txn.run_ensure,
          ensure_of hstatus, hnone, Option.map_none, Txn.run_require, require, Option.elim_none]
      · simp only [CarrierSourcingService.assignCarrier, LoadRows.found_some, ok_bind, ensure_of hstatus,
          SourcingDb.reference, hnone, Option.map_none, require, Option.elim_none]
        rfl
    · refine ⟨.invalidTransition
        "A carrier can only be assigned to a load that is currently in Carrier Sourcing.", ?_, ?_⟩
      · simp only [assignCarrier, Txn.run_bind, Txn.run_read, hload, LoadRows.found_some, Txn.run_lift,
          Txn.run_ensure, ensure, if_neg hstatus]
      · simp only [CarrierSourcingService.assignCarrier, LoadRows.found_some, ok_bind, ensure, if_neg hstatus]
        rfl

section Assign

variable {carriers : CarrierDb} {contact : Uuid → Carrier}

lemma run_createOriginalCarrierLinehaulCharge (carrierRate : Cents) :
    (createOriginalCarrierLinehaulCharge r q carrierRate).run SourcingDb.write ⟨carriers, contact, some rows⟩ =
      (.ok (), ⟨carriers, contact, some
        (CarrierSourcingService.createOriginalCarrierLinehaulCharge r q (q.order 0) carrierRate rows)⟩) := by
  unfold createOriginalCarrierLinehaulCharge CarrierSourcingService.createOriginalCarrierLinehaulCharge
  cases r.findType (q.order 0) "LINEHAUL" r.chargeTypes <;> rfl

lemma run_notifyOnce (recipients : List Uuid) (type message : String) :
    (notifyOnce recipients type message).run SourcingDb.write ⟨carriers, contact, some rows⟩ =
      (.ok (), ⟨carriers, contact, some (rows.notifyOnce recipients type message)⟩) := by
  simp only [notifyOnce, Txn.run_bind, Txn.run_read, SourcingDb.notified, Option.any_some, LoadRows.notified,
    LoadRows.notifyOnce]
  split <;> rfl

def assignedRows (r : Reference) (q : Request) (dto : AssignCarrierInput) (rows : LoadRows) (carrier : Carrier) :
    LoadRows :=
  let attempt : CarrierSourcingAttempt :=
    { id := q.uuid 0, carrierId := dto.carrierId, carrierRate := some dto.carrierRate.cents, outcome := .assigned
      loggedByUserId := q.actingUserId, loggedAt := q.now }
  ((CarrierSourcingService.createOriginalCarrierLinehaulCharge r q (q.order 0) dto.carrierRate.cents
    { rows.assign dto.carrierId dto.carrierRate.cents with
      sourcingAttempts := rows.sourcingAttempts ++ [attempt] }).recordLoad q "Carrier Assigned").notifyOnce
    (r.membersInRoles CarrierSourcingService.carrierAssignedNotificationRoles) "CARRIER_ASSIGNED"
    ("Carrier assigned — " ++ rows.load.loadNumber ++ "\n" ++ carrier.legalName ++ " at $" ++ dto.carrierRate.text)

lemma createOriginalCarrierLinehaulCharge_load (o : RowOrder) (carrierRate : Cents) :
    (CarrierSourcingService.createOriginalCarrierLinehaulCharge r q o carrierRate rows).load = rows.load := by
  unfold CarrierSourcingService.createOriginalCarrierLinehaulCharge
  split <;> rfl

lemma run_assign (hcents : dto.carrierRate.cents ≤ decimalMax) (carrier : Carrier) :
    (assign r q dto rows carrier).run SourcingDb.write ⟨carriers, contact, some rows⟩ =
      (.ok (), ⟨carriers, contact, some (assignedRows r q dto rows carrier)⟩) := by
  simp only [assign, Txn.run_bind, Txn.run_ensure, ensure_of hcents, Txn.run_write, Txn.run_update, SourcingDb.write,
    Option.map_some, run_createOriginalCarrierLinehaulCharge, run_notifyOnce]
  rw [assignedRows, LoadRows.recordLoad, createOriginalCarrierLinehaulCharge_load]
  rfl

lemma run_assign_overflow (hcents : ¬ dto.carrierRate.cents ≤ decimalMax) (carrier : Carrier) :
    (assign r q dto rows carrier).run SourcingDb.write d = (.error (.database "Numeric field overflow."), d) := by
  simp only [assign, Txn.run_bind, Txn.run_ensure, ensure, if_neg hcents]

end Assign

lemma assignCarrier_reaches {c : Carriers.Carrier} (h : Reaches d dto rows c) :
    CarrierSourcingService.assignCarrier (d.reference r q) q d.load dto = (do
      ensure ((ineligibilityReasons q d.carriers c).isEmpty = true)
        (.eligibility "This carrier is not eligible for assignment." (ineligibilityReasons q d.carriers c))
      ensure (dto.carrierRate.cents ≤ decimalMax) (.database "Numeric field overflow.")
      pure (assignedRows r q dto rows (d.contact c.id))) := by
  simp only [CarrierSourcingService.assignCarrier, h.load, LoadRows.found_some, ok_bind, ensure_of h.status,
    SourcingDb.reference, h.found, Option.map_some, require, Option.elim_some]
  rfl

theorem assignCarrier_commit (r : Reference) (q : Request) (dto : AssignCarrierInput) (d : SourcingDb) :
    (assignCarrier r q dto).commit SourcingDb.write d =
      match CarrierSourcingService.assignCarrier (d.reference r q) q d.load dto with
      | .ok rows => (.ok (), { d with
          carriers := (d.carriers.findCarrier (q.order 13) dto.carrierId).elim d.carriers (recalculated q d.carriers)
          load := some rows })
      | .error e => (.error e, d) := by
  by_cases h : ∃ rows c, Reaches d dto rows c
  · obtain ⟨rows, c, h⟩ := h
    rw [assignCarrier_reaches h, h.found, Txn.commit, run_reaches h, Txn.run_bind, refuseIneligible]
    by_cases heligible : (ineligibilityReasons q d.carriers c).isEmpty = true
    · rw [if_pos heligible, ensure_of heligible, h.load]
      by_cases hcents : dto.carrierRate.cents ≤ decimalMax
      · simp only [Txn.run_pure, ok_bind, run_assign hcents, ensure_of hcents]
        rfl
      · simp only [Txn.run_pure, ok_bind, run_assign_overflow hcents, ensure, if_neg hcents]
        rfl
    · rw [if_neg heligible]
      simp only [Txn.run_bind, Txn.run_write, Txn.run_throw, ensure, if_neg heligible]
      rfl
  · push Not at h
    obtain ⟨e, hrun, hrows⟩ := run_not_reached (r := r) (q := q) h
    rw [Txn.commit, hrun, hrows]

end CarrierSourcingTx

end Truckmaster.QuoteLoad
