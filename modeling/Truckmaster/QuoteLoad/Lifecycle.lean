import Truckmaster.QuoteLoad.Booking
import Truckmaster.QuoteLoad.CarrierSourcing
import Truckmaster.QuoteLoad.DispatchTracking
import Truckmaster.QuoteLoad.LoadClosing

namespace Truckmaster.QuoteLoad

open Common Fallible LoadStatusDerivationService DispatchTrackingService Runs

inductive LoadOp
  | beginSourcing
  | assignCarrier (dto : AssignCarrierInput)
  | carrierRejected (dto : CarrierRejectedInput)
  | generateRateConfirmation (dto : GenerateRateConfirmationInput)
  | dispatch (dto : DispatchLoadInput)
  | recordArrival (sequence : ℤ) (timestamp : Option Instant)
  | recordDeparture (sequence : ℤ) (timestamp : Option Instant)
  | rescheduleStop (sequence : ℤ) (appointment : Instant)
  | updateStops (dto : UpdateStopsInput)
  | initiateReturn (dto : InitiateReturnInput)
  | logCheckCall (dto : LogCheckCallInput)
  | closeLoad
  | cancelLoad (dto : CancelLoadInput)

structure Call where
  reference : Reference
  request : Request
  op : LoadOp

namespace Call

def execOn (c : Call) (found : Option LoadRows) : Except AppError LoadRows :=
  match c.op with
  | .beginSourcing => CarrierSourcingService.beginSourcing c.request found
  | .assignCarrier dto => CarrierSourcingService.assignCarrier c.reference c.request found dto
  | .carrierRejected dto => CarrierSourcingService.carrierRejected c.reference c.request found dto
  | .generateRateConfirmation dto =>
    CarrierSourcingService.generateRateConfirmation c.reference c.request found dto
  | .dispatch dto => DispatchTrackingService.dispatch c.reference c.request found dto
  | .recordArrival sequence timestamp => DispatchTrackingService.recordArrival c.request found sequence timestamp
  | .recordDeparture sequence timestamp =>
    DispatchTrackingService.recordDeparture c.request found sequence timestamp
  | .rescheduleStop sequence appointment =>
    DispatchTrackingService.rescheduleStop c.request found sequence appointment
  | .updateStops dto => DispatchTrackingService.updateStops c.request found dto
  | .initiateReturn dto => DispatchTrackingService.initiateReturn c.request found dto
  | .logCheckCall dto => DispatchTrackingService.logCheckCall c.request found dto
  | .closeLoad => Prod.fst <$> LoadService.closeLoad c.request found
  | .cancelLoad dto => LoadService.cancelLoad c.reference c.request found dto

def exec (c : Call) (rows : LoadRows) : Except AppError LoadRows := c.execOn (some rows)

lemma execOn_none (c : Call) : c.execOn none = .error (.notFound "Load not found.") := by
  unfold execOn
  cases c.op <;> rfl

end Call

/-- The status changes that do not go through the derivation, by the call that makes them. -/
inductive Edge : LoadOp → LoadStatus → LoadStatus → Prop
  | beginSourcing : Edge .beginSourcing .booked .carrierSourcing
  | assignCarrier {dto} : Edge (.assignCarrier dto) .carrierSourcing .carrierAssigned
  | carrierRejected {dto} : Edge (.carrierRejected dto) .carrierAssigned .carrierSourcing
  | generateRateConfirmation {dto} :
    Edge (.generateRateConfirmation dto) .carrierAssigned .rateConfirmation
  | dispatch {dto} : Edge (.dispatch dto) .rateConfirmation .dispatched
  | closeLoad {status} (h : status ≠ .closed) : Edge .closeLoad status .closed
  | cancelLoad {dto status} (h : status ∈ LoadService.cancellableStatuses) : Edge (.cancelLoad dto) status .cancelled

lemma Edge.not_from_closed {op : LoadOp} {status : LoadStatus} : ¬ Edge op .closed status := by
  intro h
  cases h with
  | closeLoad hne => exact hne rfl
  | cancelLoad hmem => simp [LoadService.cancellableStatuses] at hmem

lemma Edge.from_cancelled {op : LoadOp} {status : LoadStatus} (h : Edge op .cancelled status) :
    op = .closeLoad := by
  cases h with
  | closeLoad => rfl
  | cancelLoad hmem => simp [LoadService.cancellableStatuses] at hmem

inductive Effect (c : Call) (rows rows' : LoadRows) : Prop
  | workflow (edge : Edge c.op rows.load.status rows'.load.status) (progress : rows'.progress = rows.progress)
  | unmoved (status : rows'.load.status = rows.load.status) (progress : rows'.progress = rows.progress)
  | arrival {sequence timestamp} (op : c.op = .recordArrival sequence timestamp)
    (moved : Moved rows rows' .pending .arrived)
  | departure {sequence timestamp} (op : c.op = .recordDeparture sequence timestamp)
    (moved : Moved rows rows' .arrived .completed)
  | edit {dto} (op : c.op = .updateStops dto) (derived : Derived rows rows')
    (stops : rows'.stops.rows = editedStops c.request 0 dto.stops rows.stops.rows)
  | returned {dto} (op : c.op = .initiateReturn dto) (pair : Returned rows rows')

lemma Effect.underivable {c : Call} {rows rows' : LoadRows} (h : Effect c rows rows')
    (hstatus : rows.load.status ∉ derivableStatuses) :
    Edge c.op rows.load.status rows'.load.status ∨ rows'.load.status = rows.load.status := by
  cases h with
  | workflow edge _ => exact Or.inl edge
  | unmoved status _ => exact Or.inr status
  | arrival _ moved => exact Or.inr (moved.derived.of_not_derivable hstatus)
  | departure _ moved => exact Or.inr (moved.derived.of_not_derivable hstatus)
  | edit _ derived _ => exact Or.inr (derived.of_not_derivable hstatus)
  | returned _ pair => exact Or.inr (pair.derived.of_not_derivable hstatus)

lemma progress_of_stops {rows rows' : LoadRows} (h : rows'.stops = rows.stops) : rows'.progress = rows.progress := by
  rw [LoadRows.progress, LoadRows.progress, h]

lemma exec_effect {c : Call} {rows rows' : LoadRows} (h : c.exec rows = .ok rows') : Effect c rows rows' := by
  obtain ⟨r, q, op⟩ := c
  have workflow (hedge : Edge op rows.load.status rows'.load.status) (hstops : rows'.stops = rows.stops) :
      Effect ⟨r, q, op⟩ rows rows' := .workflow hedge (progress_of_stops hstops)
  cases op with
  | beginSourcing =>
    obtain ⟨hbefore, hafter, hstops⟩ := CarrierSourcingService.beginSourcing_ok h
    exact workflow (by rw [hbefore, hafter]; exact .beginSourcing) hstops
  | assignCarrier dto =>
    obtain ⟨hbefore, hafter, hstops⟩ := CarrierSourcingService.assignCarrier_ok h
    exact workflow (by rw [hbefore, hafter]; exact .assignCarrier) hstops
  | carrierRejected dto =>
    obtain ⟨hbefore, hafter, hstops⟩ := CarrierSourcingService.carrierRejected_ok h
    exact workflow (by rw [hbefore, hafter]; exact .carrierRejected) hstops
  | generateRateConfirmation dto =>
    obtain ⟨hbefore, hafter, hstops⟩ := CarrierSourcingService.generateRateConfirmation_ok h
    exact workflow (by rw [hbefore, hafter]; exact .generateRateConfirmation) hstops
  | dispatch dto =>
    obtain ⟨hbefore, hafter, hstops⟩ := DispatchTrackingService.dispatch_ok h
    exact workflow (by rw [hbefore, hafter]; exact .dispatch) hstops
  | recordArrival sequence timestamp => exact .arrival rfl (recordArrival_ok h)
  | recordDeparture sequence timestamp => exact .departure rfl (recordDeparture_ok h)
  | rescheduleStop sequence appointment =>
    obtain ⟨hload, hprogress⟩ := rescheduleStop_ok h
    exact .unmoved (congrArg Load.status hload) hprogress
  | updateStops dto =>
    obtain ⟨hderived, hstops⟩ := updateStops_ok h
    exact .edit rfl hderived hstops
  | initiateReturn dto => exact .returned rfl (initiateReturn_ok h)
  | logCheckCall dto =>
    obtain ⟨hstatus, hprogress⟩ := logCheckCall_ok h
    exact .unmoved hstatus hprogress
  | closeLoad =>
    obtain ⟨⟨closed, checklist⟩, hclose, rfl⟩ := map_eq_ok.mp h
    obtain ⟨hbefore, hafter, hstops⟩ := LoadService.closeLoad_ok hclose
    exact workflow (by rw [hafter]; exact .closeLoad hbefore) hstops
  | cancelLoad dto =>
    obtain ⟨hbefore, hafter, hstops⟩ := LoadService.cancelLoad_ok h
    exact workflow (by rw [hafter]; exact .cancelLoad hbefore) hstops

abbrev Served : LoadRows → Call → LoadRows → Prop := Serving Call.exec

lemma served_cases {c : Call} {rows rows' : LoadRows} (h : Served rows c rows') :
    rows' = rows ∨ c.exec rows = .ok rows' := by
  obtain rfl := h
  exact attempt_cases Call.exec rows c

namespace Sample

def request (n : ℕ) : Request where
  now := n
  uuid i := 100 * n + i
  order _ := .stored
  actingUserId := 1

def reference : Reference where
  organizationId := 1
  customer id := some { id, status := .active }
  carrier _ := some ⟨"Carrier", "dispatch@carrier"⟩
  documentTypes := [⟨1, none, "RATE_CONFIRMATION"⟩]

def details : StopDetails where
  companyName := "Dock"
  addressLine1 := "1 Main St"
  city := "Dallas"
  state := "TX"
  zip := "75201"

def stop (sequence : ℕ) (stopType : StopType) : LoadStopInput :=
  { details with sequence := sequence + 1, stopType, sequence_pos := by omega }

def edit (sequence : ℕ) (stopType : StopType) : LoadOp :=
  .updateStops { stops := [{ details with sequence := sequence + 1, stopType, sequence_pos := by omega }] }

def rate : DecimalInput := ⟨"2450.00", 245000⟩

def load (stops : List LoadStopInput) (h : stops ≠ [] := by simp) : CreateLoadInput where
  customerId := 7
  stops := stops
  equipmentType := .dryVan
  customerRate := rate
  nonempty := h

def book (dto : CreateLoadInput) : Except AppError LoadRows :=
  LoadService.createDirect reference (request 1) dto

def call (n : ℕ) (op : LoadOp) : Call := ⟨reference, request n, op⟩

def calls (n : ℕ) (ops : List LoadOp) : List Call := ops.mapIdx (fun i op => call (n + i) op)

def serve (rows : LoadRows) (n : ℕ) (ops : List LoadOp) : LoadRows :=
  (calls n ops).foldl (attempt Call.exec) rows

lemma serve_run (rows : LoadRows) (n : ℕ) (ops : List LoadOp) :
    Run Served rows (calls n ops) (serve rows n ops) := run_total _ _ _

def toRateConfirmation : List LoadOp :=
  [.beginSourcing, .assignCarrier ⟨5, rate⟩, .generateRateConfirmation {}]

def dispatchInput : DispatchLoadInput where
  driverName := "Driver"
  driverPhone := "555"
  truckNumber := "T1"
  trailerNumber := "R1"

lemma serve_one (rows : LoadRows) (n : ℕ) (op : LoadOp) : Served rows (call n op) (serve rows n [op]) := rfl

lemma calls_op {n : ℕ} {ops : List LoadOp} {P : LoadOp → Prop} (h : ∀ op ∈ ops, P op) : ∀ c ∈ calls n ops, P c.op := by
  intro c hc
  obtain ⟨i, hi, rfl⟩ := List.mem_mapIdx.mp hc
  exact h _ (List.getElem_mem hi)

def booked : LoadRows := accepted (book (load [stop 0 .pickup, stop 1 .delivery])) (by decide)

lemma booked_eq : book (load [stop 0 .pickup, stop 1 .delivery]) = .ok booked := eq_accepted _

def toArrival : List LoadOp := toRateConfirmation ++ [.dispatch dispatchInput, .recordArrival 1 none]

def dispatched : LoadRows := serve booked 2 (toRateConfirmation ++ [.dispatch dispatchInput])

end Sample

end Truckmaster.QuoteLoad
