import Truckmaster.BackgroundJobs.AttentionItems
import Truckmaster.Common.BusinessTimeZone
import Truckmaster.QuoteLoad.DispatchTracking

/-! The check-call and lateness sweeps: alerts on a Load, one copy for each recipient, and the users who read them. -/

namespace Truckmaster.BackgroundJobs

open Common Tables QuoteLoad Calendars

inductive NotificationType
  | complianceExpiring30Day | complianceExpiring15Day | complianceExpiring7Day | checkCallOverdue | checkCallDueSoon
  | loadLate | carrierAssigned | loadCancelled | documentScanQuarantined | complianceDocumentRejected | quoteExpired
  | invitationExpired
  deriving DecidableEq, Repr

/-- `event` is no column: it numbers the firing that wrote the copy. -/
structure Notification where
  id : Uuid
  organizationId : Uuid
  recipientUserId : Uuid
  type : NotificationType
  relatedEntityType : Option String
  relatedEntityId : Option Uuid
  message : String
  read : Bool := false
  createdAt : Instant
  event : ℕ
  deriving DecidableEq, Repr

structure Member where
  organizationId : Uuid
  userId : Uuid
  active : Bool
  roles : List MembershipRoleName
  deriving DecidableEq, Repr

structure AlertAudit extends AuditEvent where
  organizationId : Uuid
  reminderHours : Option ℤ
  deriving DecidableEq, Repr

inductive Sweep
  | checkCall | lateness
  deriving DecidableEq, Repr

structure Snapshot where
  organizationId : Uuid
  rows : LoadRows
  sourceDriver : Option (String × String)

def Snapshot.loadId (l : Snapshot) : Uuid := l.rows.load.id

/-- Where the pass of a sweep is: the organizations and the Loads still to visit, its start and its last clock. -/
structure PassState where
  organizations : List Uuid := []
  pending : List Snapshot := []
  began : Option Instant := none
  latest : Option Instant := none

structure AlertState where
  organizations : List Uuid
  loads : Table TenantLoad.id
  drivers : Uuid → Option (String × String)
  members : List Member
  passes : Sweep → PassState := fun _ => {}
  notifications : List Notification := []
  audit : List AlertAudit := []
  fired : ℕ := 0

/-- One visit to a Load: the clock it reads, the ids and times of the copies it writes, and when it commits. -/
structure Visit where
  now : Instant
  uuid : ℕ → Uuid
  createdAt : ℕ → Instant
  members : RowOrder
  finish : Instant

def dueSoonLeadMs : ℤ := 15 * 60 * 1000

def lastActivityAt (rows : LoadRows) : Option Instant :=
  (rows.checkCalls.foldl (fun latest c => if latest.any (fun t => c.occurredAt ≤ t) then latest else some c.occurredAt)
    none) <|> rows.dispatchRecord.map DispatchRecord.dispatchedAt

def resolveDriverName (l : Snapshot) : Option String :=
  l.rows.dispatchRecord.map (fun d =>
    match l.sourceDriver with
    | some (firstName, lastName) => s!"{firstName} {lastName}"
    | none => d.driverName)

def buildDetailLine (driverName : Option String) (timeText : String) : String :=
  match driverName with
  | some name => s!"Driver: {name} · {timeText}"
  | none => timeText

def formatTimeOnly (zone : Zone) (t : Instant) : String :=
  let parts := wallClockPartsInZone t zone
  let meridiem := if 12 ≤ parts.hour then "PM" else "AM"
  let hour := if parts.hour % 12 = 0 then 12 else parts.hour % 12
  let minute := if parts.minute < 10 then s!"0{parts.minute}" else s!"{parts.minute}"
  s!"{hour}:{minute} {meridiem}"

def findLateStop (stops : List Stop) (now : Instant) : Option (StopType × Instant) :=
  let late := stops.filter (fun s =>
    s.stopPurpose == .standard && s.status != .completed && s.appointmentDatetime.any (fun t => t < now))
  (late.insertionSort (fun a b => a.sequence ≤ b.sequence)).head?.bind (fun s =>
    s.appointmentDatetime.map (fun t => (s.stopType, t)))

namespace Notification

def concerns (n : Notification) (type : NotificationType) (organizationId loadId : Uuid) : Bool :=
  n.organizationId == organizationId && n.type == type && n.relatedEntityType == some "Load" &&
    n.relatedEntityId == some loadId

def markedRead (n : Notification) : Notification := { n with read := true }

end Notification

lemma nodup_eraseDups {α : Type} [BEq α] [LawfulBEq α] (l : List α) : l.eraseDups.Nodup := by
  induction hn : l.length using Nat.strong_induction_on generalizing l with
  | _ n ih =>
    cases l with
    | nil => exact List.nodup_nil
    | cons a as =>
      rw [List.eraseDups_cons, List.nodup_cons]
      have hshort : (as.filter (fun b => !b == a)).length < n := by
        rw [← hn, List.length_cons]
        exact Nat.lt_succ_of_le (List.length_filter_le _ as)
      exact ⟨by simp [List.mem_eraseDups], ih _ hshort _ rfl⟩

namespace AlertState

variable (s : AlertState)

def updateMany (p : Notification → Bool) : AlertState :=
  { s with notifications := s.notifications.map (fun n => if p n then n.markedRead else n) }

def outstanding (type : NotificationType) (organizationId loadId : Uuid) : Bool :=
  s.notifications.any (fun n => n.concerns type organizationId loadId && !n.read)

/-- `createForUserAndRoles`: the dispatcher first, each user once. -/
def recipients (o : RowOrder) (organizationId primaryUserId : Uuid) : List Uuid :=
  (primaryUserId :: (findMany o (fun m => m.organizationId == organizationId && m.active && m.roles.contains .admin)
    s.members).map Member.userId).eraseDups

lemma recipients_nodup (o : RowOrder) (organizationId primaryUserId : Uuid) :
    (s.recipients o organizationId primaryUserId).Nodup := nodup_eraseDups _

def copies (q : Visit) (type : NotificationType) (organizationId loadId : Uuid) (message : String) (users : List Uuid) :
    List Notification :=
  users.zipIdx.map (fun (u, i) =>
    ⟨q.uuid i, organizationId, u, type, some "Load", some loadId, message, false, q.createdAt i, s.fired⟩)

/-- Nothing is sent while a copy of the same type for the same Load is unread. -/
def fire (q : Visit) (type : NotificationType) (organizationId loadId primaryUserId : Uuid) (message action : String)
    (reminderHours : Option ℤ) : AlertState :=
  if s.outstanding type organizationId loadId then s
  else
    { s with
      notifications := s.notifications ++
        s.copies q type organizationId loadId message (s.recipients q.members organizationId primaryUserId)
      audit := s.audit ++ [⟨⟨action, "Load", loadId, none, .system, none⟩, organizationId, reminderHours⟩]
      fired := s.fired + 1 }

def supersedeDueSoon (organizationId loadId : Uuid) : AlertState :=
  s.updateMany (fun n => n.concerns .checkCallDueSoon organizationId loadId && !n.read)

def fireOverdue (q : Visit) (l : Snapshot) (dispatcherId : Uuid) (elapsedMs thresholdMs reminderHours : ℤ) :
    AlertState :=
  let minutesOverdue := (elapsedMs - thresholdMs) / 60000
  let detail := buildDetailLine (resolveDriverName l) s!"{minutesOverdue} min overdue"
  (s.supersedeDueSoon l.organizationId l.loadId).fire q .checkCallOverdue l.organizationId l.loadId dispatcherId
    s!"Check call overdue — {l.rows.load.loadNumber}\n{detail}" "Check Call Overdue Reminder Sent" (some reminderHours)

def fireDueSoon (q : Visit) (l : Snapshot) (dispatcherId : Uuid) (elapsedMs thresholdMs : ℤ) : AlertState :=
  let minutesUntilDue := -((elapsedMs - thresholdMs) / 60000)
  let detail := buildDetailLine (resolveDriverName l) s!"Due in {minutesUntilDue} min"
  s.fire q .checkCallDueSoon l.organizationId l.loadId dispatcherId
    s!"Check call due — {l.rows.load.loadNumber}\n{detail}" "Check Call Due Soon Reminder Sent" none

def idle (l : Snapshot) (now : Instant) : Option (Uuid × ℤ) := do
  let dispatcherId ← l.rows.load.assignedDispatcherId
  let t ← lastActivityAt l.rows
  pure (dispatcherId, now - t)

def thresholdMs (reminderHours : ℤ) : ℤ := reminderHours * 60 * 60 * 1000

def visitCheckCall (reminderHours : ℤ) (q : Visit) (l : Snapshot) : AlertState :=
  match idle l q.now with
  | none => s
  | some (dispatcherId, elapsedMs) =>
    if elapsedMs < thresholdMs reminderHours - dueSoonLeadMs then s
    else if thresholdMs reminderHours ≤ elapsedMs then
      s.fireOverdue q l dispatcherId elapsedMs (thresholdMs reminderHours) reminderHours
    else s.fireDueSoon q l dispatcherId elapsedMs (thresholdMs reminderHours)

def visitLateness (zone : Zone) (q : Visit) (l : Snapshot) : AlertState :=
  match l.rows.load.assignedDispatcherId, findLateStop l.rows.stops.rows q.now with
  | some dispatcherId, some (stopType, appointmentDatetime) =>
    let appointment := formatTimeOnly zone appointmentDatetime
    s.fire q .loadLate l.organizationId l.loadId dispatcherId
      s!"Load late — {l.rows.load.loadNumber}\n{stopTypeLabel stopType} appointment: {appointment}"
      "Load Late Notification Sent" none
  | _, _ => s

def withPass (sweep : Sweep) (p : PassState) : AlertState :=
  { s with passes := Function.update s.passes sweep p }

def snapshots (o : RowOrder) (organizationId : Uuid) : List Snapshot :=
  (findMany o (Tenants.isOperational organizationId) s.loads.rows).map (fun l =>
    ⟨l.organizationId, l.rows, (l.rows.dispatchRecord.bind DispatchRecord.sourceDriverId).bind s.drivers⟩)

end AlertState

/-- `editLoad`, `createLoad` and `staff` are what every other request may do to the rows that the sweeps read. -/
inductive AlertEvent
  | beginPass (sweep : Sweep) (now : Instant) (order : RowOrder)
  | readLoads (sweep : Sweep) (order : RowOrder)
  | visit (sweep : Sweep) (q : Visit)
  | failedVisit (sweep : Sweep)
  | markRead (organizationId recipientUserId id : Uuid)
  | markAllRead (organizationId recipientUserId : Uuid)
  | logCheckCall (organizationId loadId : Uuid) (q : Request) (dto : LogCheckCallInput)
  | editLoad (loadId : Uuid) (rows : LoadRows) (h : rows.load.id = loadId)
  | createLoad (l : TenantLoad)
  | staff (members : List Member) (drivers : Uuid → Option (String × String))

namespace AlertState

def putRows (s : AlertState) (loadId : Uuid) (rows : LoadRows) : AlertState :=
  { s with loads := s.loads.update loadId (fun l => if rows.load.id = l.id then { l with rows } else l) (fun l => by
      split_ifs with h
      · exact h
      · rfl) }

/-- The settings of the deployment: `CHECK_CALL_REMINDER_HOURS` and the zone of the business. -/
structure Settings where
  reminderHours : ℤ := 4
  zone : Zone

def next (c : Settings) (s : AlertState) : AlertEvent → AlertState
  | .beginPass sweep now o => s.withPass sweep ⟨o.arrange s.organizations, [], some now, some now⟩
  | .readLoads sweep o =>
    match s.passes sweep with
    | ⟨organizationId :: rest, [], began, latest⟩ =>
      s.withPass sweep ⟨rest, s.snapshots o organizationId, began, latest⟩
    | _ => s
  | .visit sweep q =>
    match s.passes sweep with
    | ⟨organizations, l :: rest, began, _⟩ =>
      let s := s.withPass sweep ⟨organizations, rest, began, some q.finish⟩
      match sweep with
      | .checkCall => s.visitCheckCall c.reminderHours q l
      | .lateness => s.visitLateness c.zone q l
    | _ => s
  | .failedVisit sweep => s.withPass sweep { s.passes sweep with pending := (s.passes sweep).pending.tail }
  | .markRead organizationId recipientUserId id =>
    if s.notifications.any (fun n => n.id == id && n.organizationId == organizationId &&
        n.recipientUserId == recipientUserId) then
      s.updateMany (fun n => n.id == id)
    else s
  | .markAllRead organizationId recipientUserId =>
    s.updateMany (fun n => n.organizationId == organizationId && n.recipientUserId == recipientUserId && !n.read)
  | .logCheckCall organizationId loadId q dto =>
    match DispatchTrackingService.logCheckCall q
        (((s.loads.get loadId).filter (fun l => l.organizationId == organizationId)).map TenantLoad.rows) dto with
    | .ok rows => s.putRows loadId rows
    | .error _ => s
  | .editLoad loadId rows _ => s.putRows loadId rows
  | .createLoad l => { s with loads := (s.loads.insert l).getD s.loads }
  | .staff members drivers => { s with members, drivers }

end AlertState

end Truckmaster.BackgroundJobs
