import Truckmaster.Library.ClockedSessions
import Truckmaster.QuoteLoad.DispatchTracking

/-! The recordArrival and recordDeparture requests on one Load, statement by statement. -/

namespace Truckmaster.QuoteLoad

open Common Fallible ReadCommitted Tables

inductive StopEventKind
  | arrival | departure
  deriving DecidableEq, Repr

structure StopEventRequest where
  kind : StopEventKind
  q : Request
  sequence : ℤ
  timestamp : Option Instant

inductive StopEventRow
  | load
  | stop (id : Uuid)
  deriving DecidableEq

inductive StopEventWrite
  | move (kind : StopEventKind) (at' : Instant) (id : Uuid)
  | setStatus (status : LoadStatus)
  | record (event : AuditEvent)

/-- The row of the Load is the one that the request has read first. -/
inductive StopEventFrame
  | findLoad (r : StopEventRequest)
  | findEarlyStop (r : StopEventRequest) (load : Load)
  | findStop (r : StopEventRequest) (load : Load)
  | findDispatchRecord (r : StopEventRequest) (load : Load) (stop : Stop)
  | updateStop (r : StopEventRequest) (load : Load) (stop : Stop) (at' : Instant)
  | recordStop (r : StopEventRequest) (load : Load) (stop : Stop)
  | findStops (r : StopEventRequest) (load : Load)
  | updateLoad (load : Load) (nextStatus : LoadStatus)
  | recordLoad (load : Load) (nextStatus : LoadStatus)
  | commit
  | rollback (e : AppError)
  | done (failure : Option AppError)

open DispatchTrackingService LoadStatusDerivationService

namespace StopEventKind

def before : StopEventKind → StopStatus
  | .arrival => .pending
  | .departure => .arrived

def after : StopEventKind → StopStatus
  | .arrival => .arrived
  | .departure => .completed

def moved : StopEventKind → Instant → Stop → Stop
  | .arrival => arrive
  | .departure => depart

lemma moved_id (kind : StopEventKind) (at' : Instant) (s : Stop) : (kind.moved at' s).id = s.id := by
  cases kind <;> rfl

def action : StopEventKind → String
  | .arrival => "Stop Arrival Recorded"
  | .departure => "Stop Completed"

def refusal : StopEventKind → AppError
  | .arrival => .invalidTransition "This Stop has already recorded an arrival."
  | .departure => .invalidTransition "This Stop must record an arrival before a departure."

def tooEarly : StopEventKind → AppError
  | .arrival => .businessRule "Arrival time cannot be before the Load was Dispatched."
  | .departure => .businessRule "Departure time cannot be before the recorded arrival time."

end StopEventKind

def notDispatched : AppError := .invalidTransition "This Load has not been Dispatched yet."

namespace StopEventRequest

variable (r : StopEventRequest)

/-- The time of the event is tested against the dispatch record, or against the arrival in the row of the stop. -/
def timed (now : Instant) (load : Load) (stop : Stop) (earliest : Option Instant) : StopEventFrame :=
  if ∀ t ∈ earliest, t ≤ r.timestamp.getD now then .updateStop r load stop (r.timestamp.getD now)
  else .rollback r.kind.tooEarly

def foundStop (now : Instant) (load : Load) (stop : Stop) : StopEventFrame :=
  if stop.status = r.kind.before then
    match r.kind with
    | .arrival => .findDispatchRecord r load stop
    | .departure => r.timed now load stop stop.actualArrival
  else .rollback r.kind.refusal

def event (stop : Stop) : StopEventWrite :=
  .record ⟨r.kind.action, "Stop", stop.id, some r.q.actingUserId, .human, none⟩

end StopEventRequest

def LoadRows.writeStopEvent : StopEventWrite → LoadRows → LoadRows
  | .move kind at' id, rows => rows.updateStop id (kind.moved at') (kind.moved_id at')
  | .setStatus status, rows => rows.withStatus status
  | .record event, rows => rows.record event

def statusAdvanced (load : Load) (nextStatus : LoadStatus) : List StopEventWrite :=
  match loadStatusAdvancedAction nextStatus with
  | some action => [.record ⟨action, "Load", load.id, none, .system, none⟩]
  | none => []

def stopEventStatement (now : Instant) :
    StopEventFrame → Action LoadRows StopEventRow StopEventFrame StopEventWrite
  | .findLoad r => .run fun d =>
    (if d.load.status ∈ postDispatchStatuses then .findStop r d.load
      else if d.load.status = .delivered then .findEarlyStop r d.load
      else .rollback notDispatched, [])
  | .findEarlyStop r load => .run fun d =>
    match findStop (r.q.order 0) d r.sequence with
    | some stop => (if stop.stopPurpose = .returnLeg then r.foundStop now load stop else .rollback notDispatched, [])
    | none => (.rollback notDispatched, [])
  | .findStop r load => .run fun d =>
    match findStop (r.q.order 1) d r.sequence with
    | some stop => (r.foundStop now load stop, [])
    | none => (.rollback (.notFound "Stop not found."), [])
  | .findDispatchRecord r load stop => .run fun d =>
    (r.timed now load stop (d.dispatchRecord.map DispatchRecord.dispatchedAt), [])
  | .updateStop r load stop at' => .lock (.stop stop.id) fun _ => (.recordStop r load stop, [.move r.kind at' stop.id])
  | .recordStop r load stop => .run fun _ => (.findStops r load, [r.event stop])
  | .findStops r load => .run fun d =>
    let stops := findMany (r.q.order 2) (fun _ => true) d.stops.rows
    let nextStatus := deriveLoadStatus load.status (stops.map Stop.progress)
    (if nextStatus = load.status then .commit else .updateLoad load nextStatus, [])
  | .updateLoad load nextStatus => .lock .load fun _ => (.recordLoad load nextStatus, [.setStatus nextStatus])
  | .recordLoad load nextStatus => .run fun _ => (.commit, statusAdvanced load nextStatus)
  | .commit => .commit (.done none)
  | .rollback e => .rollback (.done (some e))
  | .done _ => .stop

def stopEventCode (now : Instant) : Code LoadRows StopEventRow StopEventFrame StopEventWrite where
  action := stopEventStatement now
  apply := LoadRows.writeStopEvent
  fail
    | .done failure => .done failure
    | _ => .done (some (.database "Transaction aborted."))

def StopEventRequest.serve (r : StopEventRequest) (found : Option LoadRows) : Except AppError LoadRows :=
  match r.kind with
  | .arrival => recordArrival r.q found r.sequence r.timestamp
  | .departure => recordDeparture r.q found r.sequence r.timestamp

end Truckmaster.QuoteLoad
