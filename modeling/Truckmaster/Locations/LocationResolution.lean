import Truckmaster.Library.JobQueues
import Truckmaster.Library.Runs
import Truckmaster.QuoteLoad.Lifecycle

namespace Truckmaster.Locations

open Common Fallible Tables QuoteLoad JobQueues

/-- Coordinates in millionths of a degree, as the columns keep them. -/
structure ResolvedLocation where
  lat : ℤ
  lng : ℤ
  source : String
  deriving DecidableEq, Repr

abbrev Resolver := String → String → Option ResolvedLocation

inductive ResolutionStatus
  | unresolved | resolvedDataset
  deriving DecidableEq, Repr

structure Resolution where
  resolvedLat : Option ℤ := none
  resolvedLng : Option ℤ := none
  resolutionStatus : ResolutionStatus := .unresolved
  resolutionSource : Option String := none
  resolvedAt : Option Instant := none
  deriving DecidableEq, Repr

/-- A miss leaves the coordinates that are there. -/
def Resolution.apply (resolved : Option ResolvedLocation) (now : Instant) (r : Resolution) : Resolution :=
  match resolved with
  | some found =>
    { resolvedLat := some found.lat
      resolvedLng := some found.lng
      resolutionStatus := .resolvedDataset
      resolutionSource := some found.source
      resolvedAt := some now }
  | none => { r with resolutionStatus := .unresolved, resolvedAt := some now }

inductive LocationResolutionEntityType
  | checkCall | stop
  deriving DecidableEq, Repr

abbrev JobId := LocationResolutionEntityType × Uuid

structure LocationResolutionJobData where
  city : String
  state : String
  asOfLoadUpdatedAt : Option Instant := none
  deriving DecidableEq, Repr

def attempts : ℕ := 3

/-- `reading` holds the check calls that have read the Load and not written yet, with the rows that they found. -/
structure LocationState where
  rows : LoadRows
  currentLocationLat : Option ℤ := none
  currentLocationLng : Option ℤ := none
  checkCallResolutions : Uuid → Resolution := fun _ => {}
  stopResolutions : Uuid → Resolution := fun _ => {}
  queue : Queue JobId LocationResolutionJobData := fun _ => none
  reading : ℕ → Option LoadRows := fun _ => none

inductive LocationEvent
  | readLoad (key : ℕ)
  | logCheckCall (key : ℕ) (q : Request) (dto : LogCheckCallInput)
  | updateStops (q : Request) (dto : UpdateStopsInput)
  | job (id : JobId) (m : Move) (now : Instant)

namespace DispatchTracking

open DispatchTrackingService

def present (text : Option String) : Option String := text.filter (fun t => t ≠ "")

def checkCallJob (q : Request) (dto : LogCheckCallInput) : Option LocationResolutionJobData := do
  let city ← present dto.locationCity
  let state ← present dto.locationState
  some { city, state, asOfLoadUpdatedAt := some q.now }

def enqueueLocationResolution (queue : Queue JobId LocationResolutionJobData) (id : JobId) :
    Option LocationResolutionJobData → Queue JobId LocationResolutionJobData
  | none => queue
  | some data => queue.add id data

/-- The write of a check call that read `snapshot`: only the columns of its own update change. -/
def writeCheckCall (rows written : LoadRows) : LoadRows :=
  { rows with
    load := { rows.load with
      currentLocationCity := written.load.currentLocationCity
      currentLocationState := written.load.currentLocationState
      currentLocationZip := written.load.currentLocationZip
      currentLocationUpdatedAt := written.load.currentLocationUpdatedAt
      currentEta := written.load.currentEta }
    checkCalls := rows.checkCalls ++ written.checkCalls.getLast?.toList
    audit := rows.audit ++ written.audit.getLast?.toList }

def stopsNeedingResolution (q : Request) : ℕ → List UpdateStopItem → List Stop → List (Uuid × LocationResolutionJobData)
  | _, [], _ => []
  | k, item :: items, stops =>
    match findFirst (q.order k) (fun s => s.sequence == item.sequence) stops with
    | none => []
    | some stop =>
      let changed := item.fieldChanges stop
      let rest := stopsNeedingResolution q (k + 1) items (stops.map (fun s => if s.id = stop.id then item.nextValues s else s))
      if "city" ∈ changed ∨ "state" ∈ changed then (stop.id, { city := item.city, state := item.state }) :: rest else rest

end DispatchTracking

namespace LocationState

open DispatchTracking

def applyToCheckCall (id : Uuid) (data : LocationResolutionJobData) (resolved : Option ResolvedLocation) (now : Instant)
    (s : LocationState) : LocationState :=
  let written := { s with
    checkCallResolutions := Function.update s.checkCallResolutions id ((s.checkCallResolutions id).apply resolved now) }
  match resolved with
  | none => written
  | some found =>
    -- only for the check call that wrote the Load last
    if data.asOfLoadUpdatedAt.isSome ∧ s.rows.load.currentLocationUpdatedAt = data.asOfLoadUpdatedAt then
      { written with currentLocationLat := some found.lat, currentLocationLng := some found.lng }
    else written

def applyToStop (id : Uuid) (resolved : Option ResolvedLocation) (now : Instant) (s : LocationState) : LocationState :=
  { s with stopResolutions := Function.update s.stopResolutions id ((s.stopResolutions id).apply resolved now) }

def processJob (resolve : Resolver) (id : JobId) (data : LocationResolutionJobData) (now : Instant) (s : LocationState) :
    LocationState :=
  let resolved := resolve data.city data.state
  match id.1 with
  | .checkCall => s.applyToCheckCall id.2 data resolved now
  | .stop => s.applyToStop id.2 resolved now

/-- The transaction of a check call that found `snapshot`, and the job that it adds. -/
def logCheckCall (q : Request) (dto : LogCheckCallInput) (snapshot : LoadRows) (s : LocationState) : LocationState :=
  match DispatchTrackingService.logCheckCall q (some snapshot) dto with
  | .error _ => s
  | .ok written =>
    -- the id of the check call is its primary key
    if s.rows.checkCalls.any (fun c => c.id == q.uuid 0) then s
    else
      { s with
        rows := writeCheckCall s.rows written
        queue := enqueueLocationResolution s.queue (.checkCall, q.uuid 0) (checkCallJob q dto) }

def updateStops (q : Request) (dto : UpdateStopsInput) (s : LocationState) : LocationState :=
  match DispatchTrackingService.updateStops q (some s.rows) dto with
  | .error _ => s
  | .ok rows =>
    { s with
      rows
      queue := ((stopsNeedingResolution q 0 dto.stops s.rows.stops.rows).map (fun change => ((.stop, change.1), change.2))).foldl
        (fun queue job => queue.add job.1 job.2) s.queue }

def next (resolve : Resolver) (s : LocationState) : LocationEvent → LocationState
  | .readLoad key => { s with reading := Function.update s.reading key (some s.rows) }
  | .logCheckCall key q dto =>
    match s.reading key with
    | none => s
    | some snapshot => { s.logCheckCall q dto snapshot with reading := Function.update s.reading key none }
  | .updateStops q dto => s.updateStops q dto
  | .job id m now =>
    match s.queue id with
    | none => s
    | some j =>
      match j.move attempts m with
      | none => s
      | some job =>
        { (if m.works then s.processJob resolve id j.data now else s) with queue := Function.update s.queue id job }

def booked (rows : LoadRows) : LocationState where
  rows := rows
  queue := fun id => match id.1 with
    | .checkCall => none
    | .stop => (rows.stops.rows.find? (fun s => s.id == id.2)).map (fun s => { data := { city := s.city, state := s.state } })

end LocationState

end Truckmaster.Locations
