import Truckmaster.QuoteLoad.StatusDerivation
import Truckmaster.QuoteLoad.Inputs

namespace Truckmaster.QuoteLoad

open Common Fallible Tables

structure DispatchLoadInput where
  driverName : String
  driverPhone : String
  truckNumber : String
  trailerNumber : String
  sourceDriverId : Option Uuid := none
  sourceTruckId : Option Uuid := none
  sourceTrailerId : Option Uuid := none
  filled : 1 ≤ driverName.length ∧ 1 ≤ driverPhone.length ∧ 1 ≤ truckNumber.length ∧
    1 ≤ trailerNumber.length := by decide

structure UpdateStopsInput where
  stops : List UpdateStopItem
  nonempty : stops ≠ [] := by simp

structure InitiateReturnInput where
  pickupStop : ReturnStopInput
  deliveryStop : ReturnStopInput

structure LogCheckCallInput where
  occurredAt : Option Instant := none
  contactMethod : String
  personContacted : String
  locationCity : Option String := none
  locationState : Option String := none
  locationZip : Option String := none
  eta : Option Instant := none
  onTimeStatus : CheckCallOnTimeStatus
  notes : Option String := none
  filled : 1 ≤ contactMethod.length ∧ 1 ≤ personContacted.length := by decide

namespace DispatchTrackingService

def postDispatchStatuses : List LoadStatus := [.dispatched, .pickup, .inTransit]

def loadStatusAdvancedAction : LoadStatus → Option String
  | .pickup => some "Load Status Advanced — Pickup"
  | .inTransit => some "Load Status Advanced — In Transit"
  | .delivered => some "Load Status Advanced — Delivered"
  | _ => none

def validateSourceResources (r : Reference) (carrierId : Uuid) (dto : DispatchLoadInput) :
    Except AppError Unit := do
  ensure (dto.sourceDriverId.all (r.activeDriver carrierId)) (.notFound "Driver not found.")
  ensure (dto.sourceTruckId.all (r.activeTruck carrierId)) (.notFound "Truck not found.")
  ensure (dto.sourceTrailerId.all (r.activeTrailer carrierId)) (.notFound "Trailer not found.")

def dispatch (r : Reference) (q : Request) (found : Option LoadRows) (dto : DispatchLoadInput) :
    Except AppError LoadRows := do
  let rows ← LoadRows.found found
  ensure (rows.load.status = .rateConfirmation)
    (.invalidTransition "A Load can only be Dispatched once it has reached Rate Confirmation.")
  ensure rows.load.carrierRate.isSome (.businessRule "Carrier and carrier rate must be on record.")
  let carrierId ← require rows.load.assignedCarrierId
    (.businessRule "Carrier and carrier rate must be on record.")
  ensure (r.eligibility carrierId).eligible
    (.eligibility "The assigned carrier is no longer eligible for assignment." (r.eligibility carrierId).reasons)
  let _ ← require (findFirst (q.order 0)
      (fun d => d.isCurrentVersion && d.documentTypeCode == "RATE_CONFIRMATION") rows.documents)
    (.invalidTransition "No Rate Confirmation is on file for this Load.")
  validateSourceResources r carrierId dto
  ensure (rows.dispatchRecord = none) (.database "Unique constraint failed on the fields: (load_id)")
  let dispatchRecord : DispatchRecord :=
    ⟨dto.driverName, dto.driverPhone, dto.truckNumber, dto.trailerNumber, dto.sourceDriverId,
      dto.sourceTruckId, dto.sourceTrailerId, q.actingUserId, q.now⟩
  pure (({ rows with dispatchRecord := some dispatchRecord }.withStatus .dispatched).recordLoad q
    "Load Dispatched")

/-- `load` is the row as the request read it. -/
def reEvaluateLoadStatus (o : RowOrder) (load : Load) (rows : LoadRows) : LoadRows :=
  let stops := findMany o (fun _ => true) rows.stops.rows
  let nextStatus := LoadStatusDerivationService.deriveLoadStatus load.status (stops.map Stop.progress)
  if nextStatus = load.status then rows
  else
    let updated := rows.withStatus nextStatus
    match loadStatusAdvancedAction nextStatus with
    | some action => updated.record ⟨action, "Load", load.id, none, .system, none⟩
    | none => updated

def findStop (o : RowOrder) (rows : LoadRows) (sequence : ℤ) : Option Stop :=
  findFirst o (fun s => s.sequence == sequence) rows.stops.rows

/-- What an arrival and a departure check first: after dispatch any stop of the Load may move, on a
delivered Load only a stop of a return. -/
def trackedStop (q : Request) (rows : LoadRows) (sequence : ℤ) : Except AppError Stop := do
  let early := if rows.load.status = .delivered then findStop (q.order 0) rows sequence else none
  ensure (rows.load.status ∈ postDispatchStatuses ∨ early.any (fun s => s.stopPurpose == .returnLeg))
    (.invalidTransition "This Load has not been Dispatched yet.")
  require (early.or (findStop (q.order 1) rows sequence)) (.notFound "Stop not found.")

def arrive (at' : Instant) (stop : Stop) : Stop := { stop with actualArrival := some at', status := .arrived }

def depart (at' : Instant) (stop : Stop) : Stop :=
  { stop with actualDeparture := some at', status := .completed }

def recordArrival (q : Request) (found : Option LoadRows) (sequence : ℤ) (timestamp : Option Instant) :
    Except AppError LoadRows := do
  let rows ← LoadRows.found found
  let stop ← trackedStop q rows sequence
  ensure (stop.status = .pending) (.invalidTransition "This Stop has already recorded an arrival.")
  let at' := timestamp.getD q.now
  ensure (∀ d ∈ rows.dispatchRecord, d.dispatchedAt ≤ at')
    (.businessRule "Arrival time cannot be before the Load was Dispatched.")
  let updated := rows.updateStop stop.id (arrive at') (fun _ => rfl)
  pure (reEvaluateLoadStatus (q.order 2) rows.load (updated.recordStop q "Stop Arrival Recorded" stop))

def recordDeparture (q : Request) (found : Option LoadRows) (sequence : ℤ) (timestamp : Option Instant) :
    Except AppError LoadRows := do
  let rows ← LoadRows.found found
  let stop ← trackedStop q rows sequence
  ensure (stop.status = .arrived) (.invalidTransition "This Stop must record an arrival before a departure.")
  let at' := timestamp.getD q.now
  ensure (∀ arrival ∈ stop.actualArrival, arrival ≤ at')
    (.businessRule "Departure time cannot be before the recorded arrival time.")
  let updated := rows.updateStop stop.id (depart at') (fun _ => rfl)
  pure (reEvaluateLoadStatus (q.order 2) rows.load (updated.recordStop q "Stop Completed" stop))

def reschedule (appointment : Instant) (stop : Stop) : Stop :=
  { stop with appointmentDatetime := some appointment }

def rescheduleStop (q : Request) (found : Option LoadRows) (sequence : ℤ) (appointment : Instant) :
    Except AppError LoadRows := do
  let rows ← LoadRows.found found
  ensure (rows.load.status ≠ .delivered ∧ rows.load.status ≠ .closed)
    (.invalidTransition "Stops on a Delivered or Closed Load cannot be rescheduled.")
  let stop ← require (findStop (q.order 0) rows sequence) (.notFound "Stop not found.")
  ensure (stop.status = .pending) (.invalidTransition "Only a Pending stop can be rescheduled.")
  pure ((rows.updateStop stop.id (reschedule appointment) (fun _ => rfl)).recordStop q "Stop Rescheduled" stop)

/-- One round of the loop in `updateStops`; `k` counts the rounds before it. -/
def editStop (q : Request) (k : ℕ) (item : UpdateStopItem) (rows : LoadRows) : Except AppError LoadRows := do
  let stop ← require (findStop (q.order k) rows item.sequence)
    (.notFound s!"Stop {item.sequence} not found.")
  let updated := rows.updateStop stop.id item.nextValues item.nextValues_id
  pure (if item.fieldChanges stop = [] then updated else updated.recordStop q "Stop Details Updated" stop)

def editStops (q : Request) : ℕ → List UpdateStopItem → LoadRows → Except AppError LoadRows
  | _, [], rows => pure rows
  | k, item :: items, rows => do
    let edited ← editStop q k item rows
    editStops q (k + 1) items edited

def updateStops (q : Request) (found : Option LoadRows) (dto : UpdateStopsInput) : Except AppError LoadRows := do
  let rows ← LoadRows.found found
  let edited ← editStops q 0 dto.stops rows
  pure (reEvaluateLoadStatus (q.order dto.stops.length) rows.load edited)

def bySequenceDesc (a b : Stop) : Prop := b.sequence ≤ a.sequence

instance : DecidableRel bySequenceDesc := fun a b => inferInstanceAs (Decidable (b.sequence ≤ a.sequence))
instance : Std.Total bySequenceDesc := ⟨fun a b => le_total b.sequence a.sequence⟩
instance : IsTrans Stop bySequenceDesc := ⟨fun _ _ _ hab hbc => le_trans hbc hab⟩

def nextSequence (o : RowOrder) (rows : LoadRows) : ℤ :=
  ((findFirstBy o (fun _ => true) bySequenceDesc rows.stops.rows).map Stop.sequence).getD 0 + 1

def returnStop (item : ReturnStopInput) (id : Uuid) (sequence : ℤ) (stopType : StopType) : Stop :=
  item.newStop id sequence stopType .returnLeg item.customerLocationId

def initiateReturn (q : Request) (found : Option LoadRows) (dto : InitiateReturnInput) :
    Except AppError LoadRows := do
  let rows ← LoadRows.found found
  ensure (rows.load.status ≠ .closed) (.businessRule "Cannot initiate a return on a Closed Load.")
  ensure (rows.load.status ∈ postDispatchStatuses ∨ rows.load.status = .delivered)
    (.businessRule "A return can only be initiated after the Load has been Dispatched.")
  let next := nextSequence (q.order 0) rows
  let withPickup ← rows.createStop (returnStop dto.pickupStop (q.uuid 0) next .pickup)
  let withPair ← withPickup.createStop (returnStop dto.deliveryStop (q.uuid 1) (next + 1) .delivery)
  pure (reEvaluateLoadStatus (q.order 1) rows.load (withPair.recordLoad q "Return Initiated"))

def logCheckCall (q : Request) (found : Option LoadRows) (dto : LogCheckCallInput) :
    Except AppError LoadRows := do
  let rows ← LoadRows.found found
  ensure (rows.load.status ∈ postDispatchStatuses)
    (.businessRule "A Check Call cannot be logged before the Load is Dispatched.")
  let checkCall : CheckCall :=
    ⟨q.uuid 0, q.actingUserId, dto.occurredAt.getD q.now, dto.contactMethod, dto.personContacted,
      dto.locationCity, dto.locationState, dto.locationZip, dto.eta, dto.onTimeStatus, dto.notes⟩
  let load : Load :=
    { rows.load with
      currentLocationCity := dto.locationCity.or rows.load.currentLocationCity
      currentLocationState := dto.locationState.or rows.load.currentLocationState
      currentLocationZip := dto.locationZip.or rows.load.currentLocationZip
      currentLocationUpdatedAt := some q.now
      currentEta := dto.eta.or rows.load.currentEta }
  pure ({ rows with load, checkCalls := rows.checkCalls ++ [checkCall] }.recordLoad q "Check Call Logged")

open LoadStatusDerivationService

variable {q : Request} {rows rows' : LoadRows}

def Derived (rows rows' : LoadRows) : Prop :=
  ∃ stops, stops.Perm rows'.progress ∧ rows'.load.status = deriveLoadStatus rows.load.status stops

structure Moved (rows rows' : LoadRows) (before after : StopStatus) : Prop where
  derived : Derived rows rows'
  stop : ∃ front stop back, rows.progress = front ++ stop :: back ∧
    rows'.progress = front ++ { stop with status := after } :: back ∧ stop.status = before ∧
    (rows.load.status ∈ postDispatchStatuses ∨ rows.load.status = .delivered ∧ stop.stopPurpose = .returnLeg)

@[simp] lemma reEvaluateLoadStatus_stops (o : RowOrder) (load : Load) :
    (reEvaluateLoadStatus o load rows).stops = rows.stops := by
  unfold reEvaluateLoadStatus
  dsimp only
  split
  · rfl
  · split <;> rfl

lemma reEvaluateLoadStatus_load (o : RowOrder) (load : Load) :
    ∃ status, (reEvaluateLoadStatus o load rows).load = { rows.load with status } ∧
      (reEvaluateLoadStatus o load rows).checkCalls = rows.checkCalls := by
  unfold reEvaluateLoadStatus
  dsimp only
  split
  · exact ⟨rows.load.status, rfl, rfl⟩
  · split
    · exact ⟨_, rfl, rfl⟩
    · exact ⟨_, rfl, rfl⟩

lemma reEvaluateLoadStatus_status (o : RowOrder) {load : Load} (h : rows.load.status = load.status) :
    (reEvaluateLoadStatus o load rows).load.status =
      deriveLoadStatus load.status ((findMany o (fun _ => true) rows.stops.rows).map Stop.progress) := by
  unfold reEvaluateLoadStatus
  dsimp only
  split
  · next hsame => rw [hsame, h]
  · split <;> rfl

lemma reEvaluateLoadStatus_derived (o : RowOrder) {mid : LoadRows} (h : mid.load = rows.load) :
    Derived rows (reEvaluateLoadStatus o rows.load mid) := by
  refine ⟨_, ?_, reEvaluateLoadStatus_status o (congrArg Load.status h)⟩
  have hperm := findMany_perm o (fun _ => true) mid.stops.rows
  rw [List.filter_true] at hperm
  simpa [LoadRows.progress] using hperm.map Stop.progress

lemma Derived.of_not_derivable (h : Derived rows rows') (hstatus : rows.load.status ∉ derivableStatuses) :
    rows'.load.status = rows.load.status := by
  obtain ⟨stops, _, hderived⟩ := h
  rw [hderived, deriveLoadStatus_of_not_derivable hstatus]

lemma findStop_some {o : RowOrder} {sequence : ℤ} {stop : Stop} (h : findStop o rows sequence = some stop) :
    stop ∈ rows.stops.rows ∧ stop.sequence = sequence := by
  obtain ⟨hmem, hseq⟩ := findFirst_some h
  exact ⟨hmem, by simpa using hseq⟩

lemma trackedStop_ok {sequence : ℤ} {stop : Stop} (h : trackedStop q rows sequence = .ok stop) :
    stop ∈ rows.stops.rows ∧ stop.sequence = sequence ∧ (rows.load.status ∈ postDispatchStatuses ∨
      rows.load.status = .delivered ∧ stop.stopPurpose = .returnLeg) := by
  simp only [trackedStop, bind_eq_ok, ensure_eq_ok, require_eq_ok] at h
  obtain ⟨_, hgate, hstop⟩ := h
  by_cases hd : rows.load.status = .delivered
  · rw [if_pos hd] at hgate hstop
    have hpost : rows.load.status ∉ postDispatchStatuses := by rw [hd]; decide
    cases hearly : findStop (q.order 0) rows sequence with
    | none => simp [hearly, hpost] at hgate
    | some early =>
      rw [hearly] at hgate hstop
      obtain rfl : early = stop := by simpa using hstop
      obtain ⟨hmem, hseq⟩ := findStop_some hearly
      exact ⟨hmem, hseq, Or.inr ⟨hd, by simpa [hpost] using hgate⟩⟩
  · rw [if_neg hd] at hgate hstop
    obtain ⟨hmem, hseq⟩ := findStop_some (o := q.order 1) (by simpa using hstop)
    exact ⟨hmem, hseq, Or.inl (by simpa using hgate)⟩

lemma updateStop_progress {stop : Stop} (hmem : stop ∈ rows.stops.rows) (f : Stop → Stop)
    (hf : ∀ s, (f s).id = s.id) :
    ∃ front back, rows.progress = front ++ stop.progress :: back ∧
      (rows.updateStop stop.id f hf).progress = front ++ (f stop).progress :: back := by
  obtain ⟨front, back, hrows, hrows'⟩ := rows.stops.update_split hmem f hf
  refine ⟨front.map Stop.progress, back.map Stop.progress, ?_, ?_⟩
  · simp [LoadRows.progress, hrows]
  · simp [LoadRows.progress, hrows']

lemma moved_of_update {sequence : ℤ} {stop : Stop} (h : trackedStop q rows sequence = .ok stop)
    {before after : StopStatus} (hbefore : stop.status = before) (f : Stop → Stop) (hf : ∀ s, (f s).id = s.id)
    (hafter : (f stop).progress = { stop.progress with status := after }) (o : RowOrder) {mid : LoadRows}
    (hload : mid.load = rows.load) (hstops : mid.stops = rows.stops.update stop.id f hf) :
    Moved rows (reEvaluateLoadStatus o rows.load mid) before after := by
  obtain ⟨hmem, _, hgate⟩ := trackedStop_ok h
  obtain ⟨front, back, hfront, hback⟩ := updateStop_progress hmem f hf
  have hprogress : (reEvaluateLoadStatus o rows.load mid).progress = (rows.updateStop stop.id f hf).progress := by
    simp [LoadRows.progress, hstops]
  refine ⟨reEvaluateLoadStatus_derived o hload, front, stop.progress, back, hfront, ?_, hbefore, hgate⟩
  rw [hprogress, hback, hafter]

lemma recordArrival_ok {sequence : ℤ} {timestamp : Option Instant}
    (h : recordArrival q (some rows) sequence timestamp = .ok rows') : Moved rows rows' .pending .arrived := by
  simp only [recordArrival, LoadRows.found_some, bind_eq_ok, Except.ok.injEq, exists_eq_left', ensure_eq_ok,
    pure_eq_ok] at h
  obtain ⟨stop, hstop, _, hpending, _, _, rfl⟩ := h
  exact moved_of_update hstop hpending (arrive (timestamp.getD q.now)) (fun _ => rfl) rfl _ rfl rfl

lemma recordDeparture_ok {sequence : ℤ} {timestamp : Option Instant}
    (h : recordDeparture q (some rows) sequence timestamp = .ok rows') : Moved rows rows' .arrived .completed := by
  simp only [recordDeparture, LoadRows.found_some, bind_eq_ok, Except.ok.injEq, exists_eq_left', ensure_eq_ok,
    pure_eq_ok] at h
  obtain ⟨stop, hstop, _, harrived, _, _, rfl⟩ := h
  exact moved_of_update hstop harrived (depart (timestamp.getD q.now)) (fun _ => rfl) rfl _ rfl rfl

lemma rescheduleStop_ok {sequence : ℤ} {appointment : Instant}
    (h : rescheduleStop q (some rows) sequence appointment = .ok rows') :
    rows'.load = rows.load ∧ rows'.progress = rows.progress := by
  simp only [rescheduleStop, LoadRows.found_some, bind_eq_ok, Except.ok.injEq, exists_eq_left', ensure_eq_ok,
    require_eq_ok, pure_eq_ok] at h
  obtain ⟨_, _, stop, hstop, _, _, rfl⟩ := h
  obtain ⟨front, back, hfront, hback⟩ :=
    updateStop_progress (findStop_some hstop).1 (reschedule appointment) (fun _ => rfl)
  refine ⟨rfl, ?_⟩
  rw [hfront]
  exact hback

def editedStops (q : Request) : ℕ → List UpdateStopItem → List Stop → List Stop
  | _, [], stops => stops
  | k, item :: items, stops =>
    editedStops q (k + 1) items
      (match findFirst (q.order k) (fun s => s.sequence == item.sequence) stops with
      | some stop => stops.map (fun s => if s.id = stop.id then item.nextValues s else s)
      | none => stops)

lemma editStop_ok {k : ℕ} {item : UpdateStopItem} (h : editStop q k item rows = .ok rows') :
    rows'.load = rows.load ∧ ∃ stop, findStop (q.order k) rows item.sequence = some stop ∧
      rows'.stops.rows = rows.stops.rows.map (fun s => if s.id = stop.id then item.nextValues s else s) := by
  simp only [editStop, bind_eq_ok, require_eq_ok, pure_eq_ok] at h
  obtain ⟨stop, hstop, rfl⟩ := h
  refine ⟨?_, stop, hstop, ?_⟩
  · split <;> rfl
  · split <;> exact Table.update_rows _ _ _ item.nextValues_id

lemma editStops_ok {k : ℕ} {items : List UpdateStopItem} (h : editStops q k items rows = .ok rows') :
    rows'.load = rows.load ∧ rows'.stops.rows = editedStops q k items rows.stops.rows := by
  induction items generalizing k rows with
  | nil =>
    obtain rfl := pure_eq_ok.mp h
    exact ⟨rfl, rfl⟩
  | cons item items ih =>
    obtain ⟨mid, hmid, hrest⟩ := bind_eq_ok.mp h
    obtain ⟨hload, hstops⟩ := ih hrest
    obtain ⟨hload', stop, hstop, hstops'⟩ := editStop_ok hmid
    rw [findStop] at hstop
    refine ⟨hload.trans hload', ?_⟩
    rw [hstops, hstops', editedStops, hstop]

lemma editStops_named {k : ℕ} {items : List UpdateStopItem} (h : editStops q k items rows = .ok rows') :
    ∀ item ∈ items, item.sequence ∈ rows.stops.rows.map Stop.sequence := by
  induction items generalizing k rows with
  | nil => nofun
  | cons item items ih =>
    obtain ⟨mid, hmid, hrest⟩ := bind_eq_ok.mp h
    obtain ⟨_, stop, hstop, hstops⟩ := editStop_ok hmid
    obtain ⟨hmem, hsequence⟩ := findStop_some hstop
    have hsame : mid.stops.rows.map Stop.sequence = rows.stops.rows.map Stop.sequence := by
      rw [hstops, List.map_map]
      apply List.map_congr_left
      intro s _
      rw [Function.comp_apply]
      split <;> rfl
    exact List.forall_mem_cons.mpr ⟨List.mem_map.mpr ⟨stop, hmem, hsequence⟩, fun i hi => hsame ▸ ih hrest i hi⟩

lemma editedStops_untyped (k : ℕ) (items : List UpdateStopItem) (stops : List Stop) :
    (editedStops q k items stops).map (fun s => s.progress.untyped) =
      stops.map (fun s => s.progress.untyped) := by
  induction items generalizing k stops with
  | nil => rfl
  | cons item items ih =>
    rw [editedStops, ih]
    split
    · rw [List.map_map]
      apply List.map_congr_left
      intro s _
      rw [Function.comp_apply]
      split <;> rfl
    · rfl

lemma editStops_checkCalls {k : ℕ} {items : List UpdateStopItem} (h : editStops q k items rows = .ok rows') :
    rows'.checkCalls = rows.checkCalls := by
  induction items generalizing k rows with
  | nil =>
    obtain rfl := pure_eq_ok.mp h
    rfl
  | cons item items ih =>
    obtain ⟨mid, hmid, hrest⟩ := bind_eq_ok.mp h
    simp only [editStop, bind_eq_ok, require_eq_ok, pure_eq_ok] at hmid
    obtain ⟨stop, _, rfl⟩ := hmid
    rw [ih hrest]
    split <;> rfl

lemma updateStops_load {dto : UpdateStopsInput} (h : updateStops q (some rows) dto = .ok rows') :
    ∃ status, rows'.load = { rows.load with status } ∧ rows'.checkCalls = rows.checkCalls := by
  simp only [updateStops, LoadRows.found_some, bind_eq_ok, Except.ok.injEq, exists_eq_left', pure_eq_ok] at h
  obtain ⟨mid, hmid, rfl⟩ := h
  obtain ⟨status, hload, hcheckCalls⟩ :=
    @reEvaluateLoadStatus_load mid (q.order dto.stops.length) rows.load
  exact ⟨status, by rw [hload, (editStops_ok hmid).1], hcheckCalls.trans (editStops_checkCalls hmid)⟩

lemma updateStops_ok {dto : UpdateStopsInput} (h : updateStops q (some rows) dto = .ok rows') :
    Derived rows rows' ∧ rows'.stops.rows = editedStops q 0 dto.stops rows.stops.rows := by
  simp only [updateStops, LoadRows.found_some, bind_eq_ok, Except.ok.injEq, exists_eq_left', pure_eq_ok] at h
  obtain ⟨mid, hmid, rfl⟩ := h
  obtain ⟨hload, hstops⟩ := editStops_ok hmid
  refine ⟨reEvaluateLoadStatus_derived _ hload, ?_⟩
  rw [reEvaluateLoadStatus_stops, hstops]

lemma updateStops_named {dto : UpdateStopsInput} (h : updateStops q (some rows) dto = .ok rows') :
    ∀ item ∈ dto.stops, item.sequence ∈ rows.stops.rows.map Stop.sequence := by
  simp only [updateStops, LoadRows.found_some, bind_eq_ok, Except.ok.injEq, exists_eq_left', pure_eq_ok] at h
  obtain ⟨mid, hmid, _⟩ := h
  exact editStops_named hmid

lemma lt_nextSequence (o : RowOrder) {stop : Stop} (h : stop ∈ rows.stops.rows) :
    stop.sequence < nextSequence o rows := by
  cases hlast : findFirstBy o (fun _ => true) bySequenceDesc rows.stops.rows with
  | none => simpa using findFirstBy_none.mp hlast stop h
  | some last =>
    obtain ⟨_, _, hmax⟩ := findFirstBy_some hlast
    have hle : stop.sequence ≤ last.sequence := hmax stop h rfl
    simp only [nextSequence, hlast, Option.map_some, Option.getD_some]
    omega

structure Returned (rows rows' : LoadRows) : Prop where
  derived : Derived rows rows'
  gate : rows.load.status ∈ postDispatchStatuses ∨ rows.load.status = .delivered
  stops : ∃ next, (∀ s ∈ rows.progress, s.sequence < next) ∧
    rows'.progress = rows.progress ++
      [⟨.pickup, .returnLeg, .pending, next⟩, ⟨.delivery, .returnLeg, .pending, next + 1⟩]

lemma initiateReturn_ok {dto : InitiateReturnInput} (h : initiateReturn q (some rows) dto = .ok rows') :
    Returned rows rows' := by
  simp only [initiateReturn, LoadRows.found_some, bind_eq_ok, Except.ok.injEq, exists_eq_left', ensure_eq_ok,
    pure_eq_ok] at h
  obtain ⟨_, _, _, hgate, withPickup, hpickup, withPair, hpair, rfl⟩ := h
  obtain ⟨hload, hrows, _⟩ := LoadRows.createStop_ok hpickup
  obtain ⟨hload', hrows', _⟩ := LoadRows.createStop_ok hpair
  refine ⟨reEvaluateLoadStatus_derived _ (hload'.trans hload), hgate, nextSequence (q.order 0) rows, ?_, ?_⟩
  · intro s hs
    obtain ⟨stop, hstop, rfl⟩ := List.mem_map.mp hs
    exact lt_nextSequence _ hstop
  · simp [LoadRows.progress, hrows, hrows', returnStop, StopDetails.newStop, Stop.progress]

lemma logCheckCall_ok {dto : LogCheckCallInput} (h : logCheckCall q (some rows) dto = .ok rows') :
    rows'.load.status = rows.load.status ∧ rows'.progress = rows.progress := by
  simp only [logCheckCall, LoadRows.found_some, bind_eq_ok, Except.ok.injEq, exists_eq_left', ensure_eq_ok,
    pure_eq_ok] at h
  obtain ⟨_, _, rfl⟩ := h
  exact ⟨rfl, rfl⟩

lemma logCheckCall_location {dto : LogCheckCallInput} (h : logCheckCall q (some rows) dto = .ok rows') :
    rows.load.status ∈ postDispatchStatuses ∧
      rows'.load.currentLocationCity = dto.locationCity.or rows.load.currentLocationCity ∧
      rows'.load.currentLocationState = dto.locationState.or rows.load.currentLocationState ∧
      rows'.load.currentLocationUpdatedAt = some q.now ∧ ∃ c, rows'.checkCalls.getLast? = some c ∧ c.id = q.uuid 0 := by
  simp only [logCheckCall, LoadRows.found_some, bind_eq_ok, Except.ok.injEq, exists_eq_left', ensure_eq_ok,
    pure_eq_ok] at h
  obtain ⟨_, hstatus, rfl⟩ := h
  exact ⟨hstatus, rfl, rfl, rfl, _, List.getLast?_concat, rfl⟩

lemma dispatch_ok {r : Reference} {dto : DispatchLoadInput} (h : dispatch r q (some rows) dto = .ok rows') :
    rows.load.status = .rateConfirmation ∧ rows'.load.status = .dispatched ∧ rows'.stops = rows.stops := by
  simp only [dispatch, LoadRows.found_some, bind_eq_ok, Except.ok.injEq, exists_eq_left', ensure_eq_ok,
    require_eq_ok, pure_eq_ok] at h
  obtain ⟨_, hstatus, _, _, _, _, _, _, _, _, _, _, _, _, rfl⟩ := h
  exact ⟨hstatus, rfl, rfl⟩

end DispatchTrackingService

end Truckmaster.QuoteLoad
