import Truckmaster.QuoteLoad.Inputs

namespace Truckmaster.QuoteLoad

open Common Fallible Tables

structure AssignCarrierInput where
  carrierId : Uuid
  carrierRate : DecimalInput

structure CarrierRejectedInput where
  reason : String
  filled : 1 ≤ reason.length := by decide

structure GenerateRateConfirmationInput where
  sendEmail : Bool := false

namespace CarrierSourcingService

def carrierAssignedNotificationRoles : List MembershipRoleName := [.admin, .operationsManager, .dispatcher]

def beginSourcing (q : Request) (found : Option LoadRows) : Except AppError LoadRows := do
  let rows ← LoadRows.found found
  ensure (rows.load.status = .booked) (.invalidTransition "Only a BOOKED load can enter Carrier Sourcing.")
  pure ((rows.withStatus .carrierSourcing).recordLoad q "Load Entered Carrier Sourcing")

def createOriginalCarrierLinehaulCharge (r : Reference) (q : Request) (o : RowOrder) (carrierRate : Cents)
    (rows : LoadRows) : LoadRows :=
  match r.findType o "LINEHAUL" r.chargeTypes with
  | none => rows
  | some linehaulType =>
    { rows with
      chargeLineItems := rows.chargeLineItems ++ [{
        id := q.uuid 1, side := .carrier, chargeTypeId := linehaulType.id, unitRate := carrierRate,
        amount := carrierRate, source := .original, createdByUserId := q.actingUserId }] }

def removeOriginalCarrierLinehaulCharge (r : Reference) (o : RowOrder) (rows : LoadRows) : LoadRows :=
  match r.findType o "LINEHAUL" r.chargeTypes with
  | none => rows
  | some linehaulType =>
    { rows with
      chargeLineItems := rows.chargeLineItems.filter (fun c =>
        !(c.side == .carrier && c.source == .original && c.chargeTypeId == linehaulType.id)) }

def assignCarrier (r : Reference) (q : Request) (found : Option LoadRows) (dto : AssignCarrierInput) :
    Except AppError LoadRows := do
  let rows ← LoadRows.found found
  ensure (rows.load.status = .carrierSourcing) (.invalidTransition
    "A carrier can only be assigned to a load that is currently in Carrier Sourcing.")
  let carrier ← require (r.carrier dto.carrierId) (.notFound "Carrier not found.")
  ensure (r.eligibility dto.carrierId).eligible (.eligibility "This carrier is not eligible for assignment."
    (r.eligibility dto.carrierId).reasons)
  ensure (dto.carrierRate.cents ≤ decimalMax) (.database "Numeric field overflow.")
  let attempt : CarrierSourcingAttempt :=
    { id := q.uuid 0, carrierId := dto.carrierId, carrierRate := some dto.carrierRate.cents, outcome := .assigned
      loggedByUserId := q.actingUserId, loggedAt := q.now }
  let load : Load :=
    { rows.load with
      status := .carrierAssigned
      assignedCarrierId := some dto.carrierId
      carrierRate := some dto.carrierRate.cents }
  let assigned := createOriginalCarrierLinehaulCharge r q (q.order 0) dto.carrierRate.cents
    { rows with load, sourcingAttempts := rows.sourcingAttempts ++ [attempt] }
  pure ((assigned.recordLoad q "Carrier Assigned").notifyOnce
    (r.membersInRoles carrierAssignedNotificationRoles) "CARRIER_ASSIGNED"
    ("Carrier assigned — " ++ load.loadNumber ++ "\n" ++ carrier.legalName ++ " at $" ++ dto.carrierRate.text))

def byLoggedAtDesc (a b : CarrierSourcingAttempt) : Prop := b.loggedAt ≤ a.loggedAt

instance : DecidableRel byLoggedAtDesc := fun a b => inferInstanceAs (Decidable (b.loggedAt ≤ a.loggedAt))

def carrierRejected (r : Reference) (q : Request) (found : Option LoadRows) (dto : CarrierRejectedInput) :
    Except AppError LoadRows := do
  let rows ← LoadRows.found found
  ensure (rows.load.status = .carrierAssigned) (.invalidTransition
    "Only a load with an active Carrier Assignment can record a Carrier Rejection.")
  let attempt := findFirstBy (q.order 0)
    (fun a => rows.load.assignedCarrierId.all (fun c => a.carrierId == c) && a.outcome == .assigned)
    byLoggedAtDesc rows.sourcingAttempts
  let load : Load :=
    { rows.load with status := .carrierSourcing, assignedCarrierId := none, carrierRate := none }
  let sourcingAttempts := rows.sourcingAttempts.map (fun a =>
    if some a.id = attempt.map CarrierSourcingAttempt.id then
      { a with outcome := .rejectedAfterAssignment, rejectionReason := some dto.reason }
    else a)
  pure ((removeOriginalCarrierLinehaulCharge r (q.order 1) { rows with load, sourcingAttempts }).recordLoad q
    "Carrier Rejected — Returned to Sourcing" dto.reason)

def generateRateConfirmation (r : Reference) (q : Request) (found : Option LoadRows)
    (dto : GenerateRateConfirmationInput) : Except AppError LoadRows := do
  let existing ← LoadRows.found found
  ensure (existing.load.status = .carrierAssigned) (.invalidTransition
    "A Rate Confirmation can only be generated for a load with an active Carrier Assignment.")
  ensure existing.load.carrierRate.isSome (.businessRule "Carrier and carrier rate must be on record.")
  let carrierId ← require existing.load.assignedCarrierId
    (.businessRule "Carrier and carrier rate must be on record.")
  let documentType ← require (r.findType (q.order 0) "RATE_CONFIRMATION" r.documentTypes)
    (.notFound "Rate Confirmation document type is not configured.")
  let document : AttachedDocument :=
    { id := q.uuid 0, documentTypeCode := documentType.code
      fileName := "RateConfirmation-" ++ existing.load.loadNumber ++ ".pdf" }
  let generated := ({ existing with documents := existing.documents ++ [document] }.withStatus
    .rateConfirmation).recordLoad q "Rate Confirmation Generated"
  let carrierEmail := (r.carrier carrierId).map Carrier.primaryContactEmail
  pure (if dto.sendEmail && carrierEmail.any (fun e => e != "") then
      generated.recordLoad q "Rate Confirmation Sent"
    else generated)

variable {r : Reference} {q : Request} {rows rows' : LoadRows}

lemma beginSourcing_ok (h : beginSourcing q (some rows) = .ok rows') :
    rows.load.status = .booked ∧ rows'.load.status = .carrierSourcing ∧ rows'.stops = rows.stops := by
  simp only [beginSourcing, LoadRows.found_some, bind_eq_ok, Except.ok.injEq, exists_eq_left', ensure_eq_ok,
    pure_eq_ok] at h
  obtain ⟨_, hstatus, rfl⟩ := h
  exact ⟨hstatus, rfl, rfl⟩

lemma assignCarrier_ok {dto : AssignCarrierInput} (h : assignCarrier r q (some rows) dto = .ok rows') :
    rows.load.status = .carrierSourcing ∧ rows'.load.status = .carrierAssigned ∧ rows'.stops = rows.stops := by
  simp only [assignCarrier, LoadRows.found_some, bind_eq_ok, Except.ok.injEq, exists_eq_left', ensure_eq_ok,
    require_eq_ok, pure_eq_ok] at h
  obtain ⟨_, hstatus, _, _, _, _, _, _, rfl⟩ := h
  refine ⟨hstatus, ?_, ?_⟩
  · rw [LoadRows.notifyOnce_load, LoadRows.recordLoad_load, createOriginalCarrierLinehaulCharge]
    split <;> rfl
  · rw [LoadRows.notifyOnce_stops, LoadRows.recordLoad_stops, createOriginalCarrierLinehaulCharge]
    split <;> rfl

lemma carrierRejected_ok {dto : CarrierRejectedInput} (h : carrierRejected r q (some rows) dto = .ok rows') :
    rows.load.status = .carrierAssigned ∧ rows'.load.status = .carrierSourcing ∧ rows'.stops = rows.stops := by
  simp only [carrierRejected, LoadRows.found_some, bind_eq_ok, Except.ok.injEq, exists_eq_left', ensure_eq_ok,
    pure_eq_ok] at h
  obtain ⟨_, hstatus, rfl⟩ := h
  refine ⟨hstatus, ?_, ?_⟩
  · rw [LoadRows.recordLoad_load, removeOriginalCarrierLinehaulCharge]
    split <;> rfl
  · rw [LoadRows.recordLoad_stops, removeOriginalCarrierLinehaulCharge]
    split <;> rfl

lemma generateRateConfirmation_ok {dto : GenerateRateConfirmationInput}
    (h : generateRateConfirmation r q (some rows) dto = .ok rows') :
    rows.load.status = .carrierAssigned ∧ rows'.load.status = .rateConfirmation ∧ rows'.stops = rows.stops := by
  simp only [generateRateConfirmation, LoadRows.found_some, bind_eq_ok, Except.ok.injEq, exists_eq_left',
    ensure_eq_ok, require_eq_ok, pure_eq_ok] at h
  obtain ⟨_, hstatus, _, _, _, _, _, _, rfl⟩ := h
  refine ⟨hstatus, ?_, ?_⟩
  · split <;> rfl
  · split <;> rfl

end CarrierSourcingService

end Truckmaster.QuoteLoad
