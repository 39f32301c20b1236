import Truckmaster.Identity.MembershipSessions
import Truckmaster.Identity.PasswordResetSessions
import Truckmaster.Library.ClockedSessions

/-! The activate, resend and cancel requests, the expiration sweep, and the requests on active members, on the
memberships of one organization, statement by statement. -/

namespace Truckmaster.Identity

open Common Fallible ReadCommitted Tables

structure InvitedMembership extends OrganizationMembership where
  invitationTokenHash : Option String
  invitationExpiresAt : Option Instant
  activatedAt : Option Instant := none
  deriving DecidableEq, Repr

structure InvitedUser extends User where
  id : Uuid
  emailVerifiedAt : Option Instant := none
  deriving DecidableEq, Repr

structure InvitationDb where
  memberships : Table (fun m : InvitedMembership => m.id)
  roles : List MembershipRole
  users : Table InvitedUser.id
  audit : List AuditEvent

inductive InvitationRow
  | identity (row : IdentityRow)
  | user (id : Uuid)
  deriving DecidableEq

inductive InvitationWrite
  | identity (w : IdentityWrite)
  | setExpired (id : Uuid)
  | setInvited (id : Uuid) (tokenHash : String) (invitationExpiresAt : Instant)
  | setCancelled (id : Uuid)
  | setActive (now : Instant) (id : Uuid)
  | setPasswordAndActivate (now : Instant) (userId : Uuid) (passwordHash : String)

/-- The hash of the presented token, the password if one is given, and what `bcrypt` makes of it. -/
structure Activation where
  tokenHash : String
  password : Option String
  bcrypt : String → String
  order : RowOrder

/-- A resend draws the hash of a new token, and adds days as the calendar of the server does. -/
inductive InvitationOp
  | resend (tokenHash : String) (addDays : ℤ → Instant → Instant)
  | cancel

structure InvitationAction where
  order : ℕ → RowOrder
  actingUserId : Uuid
  membershipId : Uuid
  op : InvitationOp

inductive InvitationRequest
  | activate (a : Activation)
  | admin (r : InvitationAction)
  | member (r : MembershipRequest)
  | sweep (order : RowOrder)

inductive InvitationFrame
  | findByToken (a : Activation)
  | foundByToken (a : Activation) (found : Option InvitedMembership)
  | testInvitation (a : Activation) (membership : InvitedMembership)
  | expireInvitation (membership : InvitedMembership)
  | recordExpired (membership : InvitedMembership)
  | findUser (a : Activation) (membership : InvitedMembership)
  | setPassword (a : Activation) (membership : InvitedMembership) (passwordHash : String)
  | activateMembership (a : Activation) (membership : InvitedMembership) (needsPassword : Bool)
  | recordActivation (a : Activation) (membership : InvitedMembership) (needsPassword : Bool)
  | commitActivation (a : Activation) (membership : InvitedMembership)
  | assertHasRole (r : InvitationAction)
  | includeRoles (r : InvitationAction) (membershipId : Uuid)
  | asserted (r : InvitationAction)
  | requireMembership (r : InvitationAction) (change : InvitationWrite)
  | expireMembership (r : InvitationAction) (change : InvitationWrite)
  | recordMembershipExpired (r : InvitationAction) (change : InvitationWrite)
  | updateMembership (r : InvitationAction) (change : InvitationWrite)
  | recordAction (r : InvitationAction)
  | commitAction
  | loadStale (order : RowOrder)
  | loadedStale (pending : List Uuid)
  | expireStale (pending : List Uuid)
  | recordStale (id : Uuid) (pending : List Uuid)
  | commitStale (pending : List Uuid)
  | member (frame : MembershipFrame)
  | rollback (e : AppError)
  | done (failure : Option AppError)

def InvitationRequest.start : InvitationRequest → InvitationFrame
  | .activate a => .findByToken a
  | .admin r => .assertHasRole r
  | .member r => .member (.assertHasRole r)
  | .sweep order => .loadStale order

def invitationExpiryDays : ℤ := 7

namespace InvitedMembership

variable (m : InvitedMembership)

def expired (now : Instant) : Bool := m.invitationExpiresAt.any (fun expiresAt => decide (expiresAt < now))

def expiresNow (now : Instant) : Bool := m.status == .invited && m.expired now

end InvitedMembership

namespace InvitationDb

variable (d : InvitationDb)

def identity : IdentityDb where
  memberships := ⟨d.memberships.rows.map InvitedMembership.toOrganizationMembership, by
    rw [List.map_map]
    exact d.memberships.nodup⟩
  roles := d.roles
  audit := d.audit

def setMembership (id : Uuid) (f : InvitedMembership → InvitedMembership) (hf : ∀ m, (f m).id = m.id) : InvitationDb :=
  { d with memberships := d.memberships.update id f hf }

def write : InvitationWrite → InvitationDb → InvitationDb
  | .identity (.setInactive q id), d =>
    d.setMembership id (fun m => { m with toOrganizationMembership := m.deactivated q }) (fun _ => rfl)
  | .identity (.deleteRole row), d => { d with roles := d.roles.filter (fun r => r ≠ row) }
  | .identity (.insertRole row), d => { d with roles := d.roles ++ [row] }
  | .identity (.record event), d => { d with audit := d.audit ++ [event] }
  | .setExpired id, d => d.setMembership id (fun m => { m with status := .expired }) (fun _ => rfl)
  | .setInvited id tokenHash invitationExpiresAt, d => d.setMembership id (fun m =>
      { m with
        status := .invited
        invitationTokenHash := some tokenHash
        invitationExpiresAt := some invitationExpiresAt }) (fun _ => rfl)
  | .setCancelled id, d =>
    d.setMembership id (fun m => { m with status := .cancelled, invitationTokenHash := none }) (fun _ => rfl)
  | .setActive now id, d => d.setMembership id (fun m =>
      { m with status := .active, activatedAt := some now, invitationTokenHash := none }) (fun _ => rfl)
  | .setPasswordAndActivate now userId passwordHash, d =>
    { d with users := d.users.update userId (fun u =>
        { u with passwordHash := some passwordHash, status := .active, emailVerifiedAt := some now }) (fun _ => rfl) }

end InvitationDb

def membershipEvent (action : String) (entityId : Uuid) (actorUserId : Option Uuid) (actorType : ActorType) :
    InvitationWrite :=
  .identity (.record { action, entityType := "OrganizationMembership", entityId, actorUserId, actorType })

def invitationExpired (id : Uuid) : InvitationWrite := membershipEvent "Invitation Expired" id none .system

def membershipRow (id : Uuid) : InvitationRow := .identity (.membership id)

def MembershipStatus.refusal : MembershipStatus → AppError
  | .expired => .businessRule "This invitation has expired. Ask an Admin to resend it."
  | .cancelled => .businessRule "This invitation is no longer valid."
  | .active => .businessRule "This invitation has already been used."
  | _ => .businessRule "This invitation cannot be activated."

def InvitedUser.needsPassword (u : InvitedUser) : Bool :=
  u.status == .pendingVerification && !u.passwordHash.any (fun hash => hash != "")

namespace Activation

variable (a : Activation) (m : InvitedMembership)

def afterUser (u : InvitedUser) : InvitationFrame :=
  if u.needsPassword then
    match a.password.filter (fun password => password != "") with
    | none => .rollback (.businessRule "A password is required to activate this account.")
    | some password =>
      match PasswordService.hash a.bcrypt password with
      | .ok passwordHash => .setPassword a m passwordHash
      | .error e => .rollback e
  else .activateMembership a m false

end Activation

def InvitedMembership.activated (m : InvitedMembership) (needsPassword : Bool) : InvitationWrite :=
  membershipEvent (if needsPassword then "Admin Account Verified" else "User Activated") m.id (some m.userId) .human

namespace InvitationAction

variable (r : InvitationAction)

/-- The update, drawn up before the transaction begins. -/
def change (now : Instant) : InvitationWrite :=
  match r.op with
  | .resend tokenHash addDays => .setInvited r.membershipId tokenHash (addDays invitationExpiryDays now)
  | .cancel => .setCancelled r.membershipId

def refusal : AppError :=
  match r.op with
  | .resend _ _ => .businessRule "Only a pending or expired invitation can be resent."
  | .cancel => .businessRule "Only a pending or expired invitation can be cancelled."

def event : InvitationWrite :=
  membershipEvent (match r.op with
    | .resend _ _ => "Invitation Resent"
    | .cancel => "Invitation Cancelled") r.membershipId (some r.actingUserId) .human

end InvitationAction

def invitationStatement (now : Instant) :
    InvitationFrame → Action InvitationDb InvitationRow InvitationFrame InvitationWrite
  | .findByToken a => .run fun d =>
    (.foundByToken a (findFirst a.order (fun m => m.invitationTokenHash == some a.tokenHash) d.memberships.rows), [])
  | .foundByToken _ none => .commit (.done (some (.notFound "Invalid or already-used invitation link.")))
  | .foundByToken a (some m) => .commit (.testInvitation a m)
  | .testInvitation a m => .run fun _ =>
    (if m.expiresNow now then .expireInvitation m
      else if m.status = .invited ∨ m.status = .pendingVerification then .findUser a m
      else .rollback m.status.refusal, [])
  | .expireInvitation m => .lock (membershipRow m.id) fun _ => (.recordExpired m, [.setExpired m.id])
  | .recordExpired m => .run fun _ => (.rollback MembershipStatus.expired.refusal, [invitationExpired m.id])
  | .findUser a m => .run fun d =>
    match d.users.rows.find? (fun u => u.id == m.userId) with
    | none => (.rollback (.notFound "User not found for this invitation."), [])
    | some u => (a.afterUser m u, [])
  | .setPassword a m passwordHash => .lock (.user m.userId) fun _ =>
    (.activateMembership a m true, [.setPasswordAndActivate now m.userId passwordHash])
  | .activateMembership a m needsPassword => .lock (membershipRow m.id) fun _ =>
    (.recordActivation a m needsPassword, [.setActive now m.id])
  | .recordActivation a m needsPassword => .run fun _ => (.commitActivation a m, [m.activated needsPassword])
  | .commitActivation _ _ => .commit (.done none)
  | .assertHasRole r => .run fun d =>
    match d.identity.findActive (r.order 0) r.actingUserId with
    | some m => (.includeRoles r m.id, [])
    | none => (.rollback notAdmin, [])
  | .includeRoles r membershipId => .run fun d =>
    let roles := (d.identity.rolesOf (r.order 1) membershipId).map MembershipRole.role
    (if .admin ∈ roles then .asserted r else .rollback notAdmin, [])
  | .asserted r => .commit (.requireMembership r (r.change now))
  | .requireMembership r change => .run fun d =>
    match findFirst (r.order 2) (fun m => m.id == r.membershipId) d.memberships.rows with
    | none => (.rollback (.notFound "Membership not found."), [])
    | some m =>
      (if m.expiresNow now then .expireMembership r change
        else if m.status = .invited ∨ m.status = .expired then .updateMembership r change
        else .rollback r.refusal, [])
  | .expireMembership r change => .lock (membershipRow r.membershipId) fun _ =>
    (.recordMembershipExpired r change, [.setExpired r.membershipId])
  | .recordMembershipExpired r change => .run fun _ =>
    (.updateMembership r change, [invitationExpired r.membershipId])
  | .updateMembership r change => .lock (membershipRow r.membershipId) fun _ => (.recordAction r, [change])
  | .recordAction r => .run fun _ => (.commitAction, [r.event])
  | .commitAction => .commit (.done none)
  | .loadStale order => .run fun d =>
    (.loadedStale ((findMany order (fun m => m.expiresNow now) d.memberships.rows).map (fun m => m.id)), [])
  | .loadedStale pending => .commit (.expireStale pending)
  | .expireStale [] => .run fun _ => (.done none, [])
  | .expireStale (id :: pending) => .lock (membershipRow id) fun _ => (.recordStale id pending, [.setExpired id])
  | .recordStale id pending => .run fun _ => (.commitStale pending, [invitationExpired id])
  | .commitStale pending => .commit (.expireStale pending)
  | .member frame => (membershipStatement frame).within InvitationDb.identity .identity .member .identity
  | .rollback e => .rollback (.done (some e))
  | .done _ => .stop

def InvitationFrame.fail : InvitationFrame → InvitationFrame
  | .expireStale (_ :: pending) => .expireStale pending
  | .recordStale _ pending => .expireStale pending
  | .commitStale pending => .expireStale pending
  | .member frame => .member (membershipCode.fail frame)
  | .done failure => .done failure
  | _ => .done (some (.database "Transaction aborted."))

def invitationCode (now : Instant) : Code InvitationDb InvitationRow InvitationFrame InvitationWrite where
  action := invitationStatement now
  apply := InvitationDb.write
  fail := InvitationFrame.fail

end Truckmaster.Identity
