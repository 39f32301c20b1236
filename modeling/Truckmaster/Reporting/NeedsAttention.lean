import Truckmaster.BackgroundJobs.AlertEvents
import Truckmaster.Library.Pages

/-! The needs-attention list: the copies of each alert event collapsed to one row for its viewer, page by page. -/

namespace Truckmaster.Reporting.ReportingService

open Common Tables QuoteLoad BackgroundJobs Fanouts Runs AlertState

structure Desk where
  alerts : AlertState
  items : Table AttentionItem.key
  ids : (items.rows.map AttentionItem.id).Nodup

structure ReadOrders where
  unread : RowOrder
  readCopies : RowOrder
  items : RowOrder
  loads : RowOrder

def needsAttentionSourceFetchCap : ℕ := 500

def needsAttentionNotificationTypes : List NotificationType := [.checkCallOverdue, .loadLate, .checkCallDueSoon]

def notificationSeverity : NotificationType → AttentionSeverity
  | .checkCallDueSoon => .medium
  | _ => .high

def severityRank : AttentionSeverity → ℕ
  | .critical => 4
  | .high => 3
  | .medium => 2
  | .info => 1

inductive RowSource
  | notification | attentionItem
  deriving DecidableEq, Repr

structure NeedsAttentionItem where
  id : Uuid
  source : RowSource
  type : NotificationType ⊕ AttentionType
  severity : AttentionSeverity
  status : Option AttentionStatus
  title : Option String
  message : Option String
  reason : Option String
  impact : Option String
  suggestedActions : Option (List String)
  metadata : Option AttentionMetadata
  loadId : Uuid
  loadNumber : String
  createdAt : Option Instant
  detectedAt : Option Instant
  updatedAt : Option Instant
  resolvedAt : Option Instant
  deriving DecidableEq, Repr

def notificationRow (n : Notification) (loadId : Uuid) (loadNumber : String) : NeedsAttentionItem :=
  ⟨n.id, .notification, .inl n.type, notificationSeverity n.type, none, none, some n.message, none, none, none, none,
    loadId, loadNumber, some n.createdAt, none, none, none⟩

def attentionRow (a : AttentionItem) (loadNumber : String) : NeedsAttentionItem :=
  ⟨a.id, .attentionItem, .inr a.type, a.severity, some a.status, some a.title, none, some a.reason, a.impact,
    some a.suggestedActions, a.metadata, a.loadId, loadNumber, none, some a.detectedAt, some a.updatedAt, a.resolvedAt⟩

def needsAttentionTimestamp (i : NeedsAttentionItem) : Instant := (i.detectedAt <|> i.createdAt).getD 0

def Before (a b : NeedsAttentionItem) : Prop :=
  severityRank b.severity < severityRank a.severity ∨ severityRank b.severity = severityRank a.severity ∧
    (needsAttentionTimestamp b < needsAttentionTimestamp a ∨
      needsAttentionTimestamp b = needsAttentionTimestamp a ∧ a.id ≤ b.id)

instance : DecidableRel Before := fun _ _ => inferInstanceAs (Decidable (_ ∨ _))

def Newer (a b : Notification) : Prop := b.createdAt < a.createdAt ∨ b.createdAt = a.createdAt ∧ a.id ≤ b.id

instance : DecidableRel Newer := fun _ _ => inferInstanceAs (Decidable (_ ∨ _))

def notificationEventKey (n : Notification) : NotificationType × String × Option Uuid :=
  (n.type, n.relatedEntityType.getD "", n.relatedEntityId)

/-- `Math.min` of the times; the callers never pass an empty list. -/
def earliest (ns : List Notification) : Instant := ((ns.map Notification.createdAt).min?).getD 0

def collapseCopies (key : NotificationType × String × Option Uuid) (copies : List Notification) (viewerUserId : Uuid)
    (viewerReadCopies : List Notification) : Option Notification :=
  let newest := (copies.insertionSort Newer).head?
  match copies.find? (fun n => n.recipientUserId == viewerUserId) with
  | some ownUnread => some ownUnread
  | none =>
    let eventStart := earliest copies
    if viewerReadCopies.any (fun n =>
        notificationEventKey n == key && decide (eventStart - sameNotificationEventWindowMs ≤ n.createdAt)) then none
    else newest

def collapseNotificationCopies (unread : List Notification) (viewerUserId : Uuid) (viewerReadCopies : List Notification) :
    List Notification :=
  (unread.map notificationEventKey).eraseDups.filterMap (fun key =>
    collapseCopies key (unread.filter (fun n => notificationEventKey n == key)) viewerUserId viewerReadCopies)

def findViewerReadNotificationCopies (o : RowOrder) (organizationId viewerUserId : Uuid)
    (unread notifications : List Notification) : List Notification :=
  let ownUnreadKeys := (unread.filter (fun n => n.recipientUserId == viewerUserId)).map notificationEventKey
  let toCheck := unread.filter (fun n =>
    n.relatedEntityId.isSome && !ownUnreadKeys.contains (notificationEventKey n))
  if toCheck.isEmpty then []
  else
    findMany o (fun n =>
      n.organizationId == organizationId && n.recipientUserId == viewerUserId && n.read &&
      (toCheck.map Notification.type).contains n.type &&
      (toCheck.map Notification.relatedEntityId).contains n.relatedEntityId &&
      decide (earliest toCheck - sameNotificationEventWindowMs ≤ n.createdAt)) notifications

def isFullVisibility (roles : List MembershipRoleName) : Bool := roles.contains .admin || roles.contains .operationsManager

/-- `recipient` narrows the list to the copies of one user. -/
def isCandidate (organizationId : Uuid) (recipient : Option Uuid) (n : Notification) : Bool :=
  n.organizationId == organizationId && needsAttentionNotificationTypes.contains n.type && !n.read &&
    recipient.all (fun u => n.recipientUserId == u)

namespace Desk

variable (d : Desk)

def isActive (organizationId : Uuid) (dispatcher : Option Uuid) (a : AttentionItem) : Bool :=
  a.organizationId == organizationId && a.status == .active && dispatcher.all (fun u =>
    (d.alerts.loads.get a.loadId).any (fun l => l.rows.load.assignedDispatcherId == some u))

def unreadNotifications (q : ReadOrders) (organizationId : Uuid) (recipient : Option Uuid) : List Notification :=
  (findManyBy q.unread (isCandidate organizationId recipient) (fun a b => b.createdAt ≤ a.createdAt)
    d.alerts.notifications).take needsAttentionSourceFetchCap

def notifications (q : ReadOrders) (organizationId actingUserId : Uuid) (roles : List MembershipRoleName) :
    List Notification :=
  if isFullVisibility roles then
    let unread := d.unreadNotifications q organizationId none
    collapseNotificationCopies unread actingUserId
      (findViewerReadNotificationCopies q.readCopies organizationId actingUserId unread d.alerts.notifications)
  else d.unreadNotifications q organizationId (some actingUserId)

def attentionItems (q : ReadOrders) (organizationId actingUserId : Uuid) (roles : List MembershipRoleName) :
    List AttentionItem :=
  (findManyBy q.items (d.isActive organizationId (if isFullVisibility roles then none else some actingUserId))
    (fun a b => b.detectedAt ≤ a.detectedAt) d.items.rows).take needsAttentionSourceFetchCap

def relatedLoad (n : Notification) : Option Uuid :=
  if n.relatedEntityType = some "Load" then n.relatedEntityId else none

def combined (q : ReadOrders) (organizationId actingUserId : Uuid) (roles : List MembershipRoleName) :
    List NeedsAttentionItem :=
  let notifications := d.notifications q organizationId actingUserId roles
  let attentionItems := d.attentionItems q organizationId actingUserId roles
  let loadIds := notifications.filterMap relatedLoad ++ attentionItems.map AttentionItem.loadId
  let loads := findMany q.loads (fun l => l.organizationId == organizationId && loadIds.contains l.id) d.alerts.loads.rows
  let loadNumberById (id : Uuid) := (loads.find? (fun l => l.id == id)).map (fun l => l.rows.load.loadNumber)
  let fromNotifications := notifications.filterMap (fun n =>
    (relatedLoad n).bind (fun id => (loadNumberById id).map (notificationRow n id)))
  let fromAttentionItems := attentionItems.filterMap (fun a => (loadNumberById a.loadId).map (attentionRow a))
  (fromNotifications ++ fromAttentionItems).insertionSort Before

end Desk

structure NeedsAttentionResult where
  items : List NeedsAttentionItem
  total : ℕ
  page : ℕ
  pageSize : ℕ
  deriving DecidableEq, Repr

def needsAttention (q : ReadOrders) (d : Desk) (organizationId actingUserId : Uuid) (roles : List MembershipRoleName)
    (page pageSize : ℕ) : NeedsAttentionResult :=
  if !isFullVisibility roles && !roles.contains .dispatcher then ⟨[], 0, page, pageSize⟩
  else
    let combined := d.combined q organizationId actingUserId roles
    -- a slice that starts before the list and ends at its head is empty
    ⟨if page = 0 then [] else Pages.page page pageSize combined, combined.length, page, pageSize⟩

end Truckmaster.Reporting.ReportingService
