import Truckmaster.Common.Requests
import Truckmaster.Library.Fallible

namespace Truckmaster.QuoteLoad

open Common Fallible Tables

inductive LoadStatus
  | booked | carrierSourcing | carrierAssigned | rateConfirmation | dispatched | pickup | inTransit
  | delivered | closed | cancelled
  deriving DecidableEq, Repr

inductive StopType
  | pickup | delivery | other
  deriving DecidableEq, Repr

inductive StopStatus
  | pending | arrived | completed
  deriving DecidableEq, Repr

inductive StopPurpose
  | standard | returnLeg
  deriving DecidableEq, Repr

inductive PodStatus
  | notReceived | partlyReceived | complete
  deriving DecidableEq, Repr

inductive BookingSource
  | quote | direct
  deriving DecidableEq, Repr

inductive RateSource
  | manual | rateAgreement | manualOverride
  deriving DecidableEq, Repr

inductive EquipmentType
  | dryVan | reefer | flatbed
  deriving DecidableEq, Repr

inductive ChargeLineItemSide
  | customer | carrier
  deriving DecidableEq, Repr

inductive ChargeLineItemSource
  | original | adjustment
  deriving DecidableEq, Repr

inductive SourcingAttemptOutcome
  | assigned | declined | noResponse | quoted | rejectedAfterAssignment
  deriving DecidableEq, Repr

inductive CheckCallOnTimeStatus
  | onTime | late | unknown
  deriving DecidableEq, Repr

inductive CarrierPaymentStatus
  | draft | pendingApproval | approved | paid
  deriving DecidableEq, Repr

structure Load where
  id : Uuid
  loadNumber : String
  customerId : Uuid
  bookingSource : BookingSource
  quoteId : Option Uuid
  status : LoadStatus
  equipmentType : EquipmentType
  customerRate : Cents
  rateSource : RateSource
  rateAgreementId : Option Uuid
  customerPoNumber : Option String := none
  bolNumber : Option String := none
  pickupNumber : Option String := none
  customerReferenceNumber : Option String := none
  assignedCarrierId : Option Uuid := none
  carrierRate : Option Cents := none
  assignedDispatcherId : Option Uuid := none
  podStatus : PodStatus := .notReceived
  invoiced : Bool := false
  currentLocationCity : Option String := none
  currentLocationState : Option String := none
  currentLocationZip : Option String := none
  currentLocationUpdatedAt : Option Instant := none
  currentEta : Option Instant := none
  closedAt : Option Instant := none
  closedByUserId : Option Uuid := none
  cancelledAt : Option Instant := none
  cancelledByUserId : Option Uuid := none
  createdByUserId : Uuid
  deriving DecidableEq, Repr

structure Stop where
  id : Uuid
  sequence : ℤ
  stopType : StopType
  stopPurpose : StopPurpose := .standard
  customerLocationId : Option Uuid := none
  companyName : Option String := none
  addressLine1 : Option String := none
  city : String
  state : String
  zip : String
  appointmentDatetime : Option Instant := none
  actualArrival : Option Instant := none
  actualDeparture : Option Instant := none
  status : StopStatus := .pending
  contactName : Option String := none
  contactPhone : Option String := none
  notes : Option String := none
  deriving DecidableEq, Repr

structure ChargeLineItem where
  id : Uuid
  side : ChargeLineItemSide
  chargeTypeId : Uuid
  description : Option String := none
  quantity : Cents := 100
  unitRate : Cents
  amount : Cents
  source : ChargeLineItemSource
  notes : Option String := none
  createdByUserId : Uuid
  deriving DecidableEq, Repr

structure CarrierSourcingAttempt where
  id : Uuid
  carrierId : Uuid
  carrierRate : Option Cents
  outcome : SourcingAttemptOutcome
  rejectionReason : Option String := none
  loggedByUserId : Uuid
  loggedAt : Instant
  deriving DecidableEq, Repr

structure DispatchRecord where
  driverName : String
  driverPhone : String
  truckNumber : String
  trailerNumber : String
  sourceDriverId : Option Uuid
  sourceTruckId : Option Uuid
  sourceTrailerId : Option Uuid
  dispatchedByUserId : Uuid
  dispatchedAt : Instant
  deriving DecidableEq, Repr

structure CheckCall where
  id : Uuid
  loggedByUserId : Uuid
  occurredAt : Instant
  contactMethod : String
  personContacted : String
  locationCity : Option String
  locationState : Option String
  locationZip : Option String
  eta : Option Instant
  onTimeStatus : CheckCallOnTimeStatus
  notes : Option String
  deriving DecidableEq, Repr

structure AttachedDocument where
  id : Uuid
  documentTypeCode : String
  fileName : String
  isCurrentVersion : Bool := true
  deriving DecidableEq, Repr

inductive CarrierPaymentType
  | deposit | part | balance | adjustment
  deriving DecidableEq, Repr

structure CarrierPayment where
  id : Uuid
  carrierId : Uuid
  amount : Cents
  paymentType : CarrierPaymentType
  method : Option String := none
  referenceNumber : Option String := none
  notes : Option String := none
  status : CarrierPaymentStatus := .draft
  preparedByUserId : Uuid
  deriving DecidableEq, Repr

structure LoadNotification where
  recipientUserId : Uuid
  type : String
  message : String
  deriving DecidableEq, Repr

structure LoadRows where
  load : Load
  stops : Table Stop.id
  chargeLineItems : List ChargeLineItem := []
  sourcingAttempts : List CarrierSourcingAttempt := []
  dispatchRecord : Option DispatchRecord := none
  checkCalls : List CheckCall := []
  documents : List AttachedDocument := []
  invoiceIds : List Uuid := []
  carrierPayments : List CarrierPayment := []
  notifications : List LoadNotification := []
  audit : List AuditEvent := []

def int4Max : ℤ := 2147483647

namespace LoadRows

def found (rows : Option LoadRows) : Except AppError LoadRows :=
  require rows (.notFound "Load not found.")

def withStatus (rows : LoadRows) (status : LoadStatus) : LoadRows :=
  { rows with load := { rows.load with status } }

def record (rows : LoadRows) (e : AuditEvent) : LoadRows := { rows with audit := rows.audit ++ [e] }

def recordLoad (rows : LoadRows) (q : Request) (action : String) (reason : Option String := none) :
    LoadRows :=
  rows.record ⟨action, "Load", rows.load.id, some q.actingUserId, .human, reason⟩

def recordStop (rows : LoadRows) (q : Request) (action : String) (stop : Stop) : LoadRows :=
  rows.record ⟨action, "Stop", stop.id, some q.actingUserId, .human, none⟩

def notifyOnce (rows : LoadRows) (recipients : List Uuid) (type message : String) : LoadRows :=
  if rows.notifications.any (fun n => n.type == type) then rows
  else { rows with notifications := rows.notifications ++ recipients.map (fun u => ⟨u, type, message⟩) }

def updateStop (rows : LoadRows) (id : Uuid) (f : Stop → Stop) (hf : ∀ s, (f s).id = s.id) : LoadRows :=
  { rows with stops := rows.stops.update id f hf }

/-- A sequence beyond the column's INT4 range, or a primary key that is taken, fails the insert. -/
def createStop (rows : LoadRows) (stop : Stop) : Except AppError LoadRows := do
  ensure (stop.sequence ≤ int4Max) (.database "Value out of range for the type.")
  let stops ← require (rows.stops.insert stop) (.database "Unique constraint failed on the fields: (id)")
  pure { rows with stops }

def createStops (rows : LoadRows) (stops : List Stop) : Except AppError LoadRows :=
  stops.foldlM createStop rows

variable {rows rows' : LoadRows}

@[simp] lemma found_some : found (some rows) = .ok rows := rfl
@[simp] lemma record_load (e : AuditEvent) : (rows.record e).load = rows.load := rfl
@[simp] lemma record_stops (e : AuditEvent) : (rows.record e).stops = rows.stops := rfl
@[simp] lemma recordLoad_load (q : Request) (a : String) (r : Option String) :
    (rows.recordLoad q a r).load = rows.load := rfl
@[simp] lemma recordLoad_stops (q : Request) (a : String) (r : Option String) :
    (rows.recordLoad q a r).stops = rows.stops := rfl
@[simp] lemma recordStop_load (q : Request) (a : String) (s : Stop) :
    (rows.recordStop q a s).load = rows.load := rfl
@[simp] lemma recordStop_stops (q : Request) (a : String) (s : Stop) :
    (rows.recordStop q a s).stops = rows.stops := rfl
@[simp] lemma notifyOnce_load (us : List Uuid) (type message : String) :
    (rows.notifyOnce us type message).load = rows.load := by
  unfold notifyOnce
  split <;> rfl
@[simp] lemma notifyOnce_stops (us : List Uuid) (type message : String) :
    (rows.notifyOnce us type message).stops = rows.stops := by
  unfold notifyOnce
  split <;> rfl
@[simp] lemma withStatus_status (status : LoadStatus) : (rows.withStatus status).load.status = status := rfl
@[simp] lemma withStatus_stops (status : LoadStatus) : (rows.withStatus status).stops = rows.stops := rfl
@[simp] lemma updateStop_load (id : Uuid) (f : Stop → Stop) (hf : ∀ s, (f s).id = s.id) :
    (rows.updateStop id f hf).load = rows.load := rfl
@[simp] lemma updateStop_stops (id : Uuid) (f : Stop → Stop) (hf : ∀ s, (f s).id = s.id) :
    (rows.updateStop id f hf).stops = rows.stops.update id f hf := rfl

lemma createStop_ok {stop : Stop} (h : rows.createStop stop = .ok rows') :
    rows'.load = rows.load ∧ rows'.stops.rows = rows.stops.rows ++ [stop] ∧ stop.sequence ≤ int4Max := by
  simp only [createStop, bind_eq_ok, ensure_eq_ok, require_eq_ok, pure_eq_ok] at h
  obtain ⟨_, hmax, stops, hinsert, rfl⟩ := h
  exact ⟨rfl, Table.insert_rows hinsert, hmax⟩

lemma createStops_ok {stops : List Stop} (h : rows.createStops stops = .ok rows') :
    rows'.load = rows.load ∧ rows'.stops.rows = rows.stops.rows ++ stops := by
  induction stops generalizing rows with
  | nil =>
    obtain rfl := pure_eq_ok.mp h
    exact ⟨rfl, (List.append_nil _).symm⟩
  | cons stop stops ih =>
    obtain ⟨mid, hmid, hrest⟩ := bind_eq_ok.mp h
    obtain ⟨hload, hrows⟩ := ih hrest
    obtain ⟨hload', hrows', _⟩ := createStop_ok hmid
    exact ⟨hload.trans hload', by rw [hrows, hrows', List.append_assoc, List.singleton_append]⟩

end LoadRows

inductive CustomerStatus
  | prospect | active | inactive | blocked
  deriving DecidableEq, Repr

inductive SubscriptionStatus
  | trial | active | expired | cancelled
  deriving DecidableEq, Repr

inductive PaymentTerms
  | dueOnReceipt | net15 | net30 | net45 | net60
  deriving DecidableEq, Repr

structure Customer where
  id : Uuid
  status : CustomerStatus
  paymentTerms : PaymentTerms := .net30
  deriving DecidableEq, Repr

structure CustomerRateAgreement where
  id : Uuid
  customerId : Uuid
  originCity : String
  originState : String
  destinationCity : String
  destinationState : String
  equipmentType : EquipmentType
  rate : Cents
  effectiveDate : Instant
  expirationDate : Option Instant
  deriving DecidableEq, Repr

structure Carrier where
  legalName : String
  primaryContactEmail : String
  deriving DecidableEq, Repr

structure Eligibility where
  eligible : Bool
  reasons : List String
  deriving DecidableEq, Repr

structure TypeDefinition where
  id : Uuid
  organizationId : Option Uuid
  code : String
  deriving DecidableEq, Repr

structure Reference where
  organizationId : Uuid
  subscriptionStatus : SubscriptionStatus := .active
  trialEndsAt : Option Instant := none
  lastQuoteNumber : ℕ := 0
  lastLoadNumber : ℕ := 0
  customer : Uuid → Option Customer := fun _ => none
  rateAgreements : List CustomerRateAgreement := []
  carrier : Uuid → Option Carrier := fun _ => none
  eligibility : Uuid → Eligibility := fun _ => ⟨true, []⟩
  activeDriver : Uuid → Uuid → Bool := fun _ _ => false
  activeTruck : Uuid → Uuid → Bool := fun _ _ => false
  activeTrailer : Uuid → Uuid → Bool := fun _ _ => false
  membersInRoles : List MembershipRoleName → List Uuid := fun _ => []
  chargeTypes : List TypeDefinition := []
  chargeTypeLabel : Uuid → String := fun _ => ""
  documentTypes : List TypeDefinition := []

namespace Reference

def findType (r : Reference) (o : RowOrder) (code : String) (types : List TypeDefinition) :
    Option TypeDefinition :=
  findFirst o (fun t => t.code == code &&
    (t.organizationId == some r.organizationId || t.organizationId.isNone)) types

end Reference

end Truckmaster.QuoteLoad
