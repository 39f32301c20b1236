import Truckmaster.Identity.WebSessions

/-! The guards of a request, and the requests that change memberships, one whole request after another. -/

namespace Truckmaster.Identity

open Common ExpiringKeys Fallible Tables

/-- What SessionAuthGuard puts into the context of a request. -/
structure RequestContext where
  userId : Option Uuid := none
  organizationId : Option Uuid := none
  membershipId : Option Uuid := none
  roles : Option (List MembershipRoleName) := none

/-- The metadata of a handler that the guards read. -/
structure Route where
  isPublic : Bool := false
  required : Option (List MembershipRoleName) := none

def authenticationRequired : AppError := ⟨.authentication, "Authentication required.", []⟩

def SessionAuthGuard.canActivate (route : Route) (auth : Option SessionData) : Except AppError RequestContext :=
  if route.isPublic then .ok {}
  else match auth with
    | none => .error authenticationRequired
    | some auth => .ok ⟨auth.userId, auth.organizationId, auth.membershipId, auth.roles⟩

def MembershipRoleName.label : MembershipRoleName → String
  | .admin => "ADMIN"
  | .operationsManager => "OPERATIONS_MANAGER"
  | .dispatcher => "DISPATCHER"
  | .salesBooking => "SALES_BOOKING"
  | .accounting => "ACCOUNTING"
  | .complianceReviewer => "COMPLIANCE_REVIEWER"

def RolesGuard.canActivate (route : Route) (context : RequestContext) : Except AppError Unit :=
  match route.required with
  | none => .ok ()
  | some required => ensure (required = [] ∨ required.any (fun r => (context.roles.getD []).contains r))
      (.permission ("This action requires one of: " ++ ", ".intercalate (required.map MembershipRoleName.label) ++ "."))

def Route.Admits (route : Route) (auth : Option SessionData) : Prop :=
  ∃ context, SessionAuthGuard.canActivate route auth = .ok context ∧ RolesGuard.canActivate route context = .ok ()

/-- The columns of a membership that its invitation fills. -/
structure Invitation where
  invitedByUserId : Option Uuid := none
  invitedAt : Option Instant := none
  invitationTokenHash : Option String := none
  invitationExpiresAt : Option Instant := none
  activatedAt : Option Instant := none
  deriving DecidableEq, Repr

structure InviteMemberInput where
  email : String
  roles : List MembershipRoleName
  nonempty : roles ≠ [] := by simp

/-- The hash of a new token, and the days that the calendar of the server adds. -/
structure InviteRequest where
  q : Request
  organizationId : Uuid
  dto : InviteMemberInput
  tokenHash : String
  addDays : ℤ → Instant → Instant

/-- The hash of the presented token, the password if one is given, and what `bcrypt` makes of it. -/
structure ActivationRequest where
  q : Request
  tokenHash : String
  password : Option String
  bcrypt : String → String

/-- The memberships with their invitations, by organization and membership id, and Redis. -/
structure AccessState where
  now : Instant
  db : AccessDb
  invitation : Uuid → Uuid → Invitation := fun _ _ => {}
  redis : Redis := {}

namespace AccessDb

variable (d : AccessDb)

def setTenant (organizationId : Uuid) (t : IdentityDb) : AccessDb :=
  { d with tenant := Function.update d.tenant organizationId t }

def updateRoles (organizationId : Uuid) (q : Request) (targetId : Uuid) (dto : UpdateMembershipRolesInput) :
    Except AppError AccessDb :=
  match MembershipService.call ⟨q, targetId, .updateRoles dto⟩ (d.tenant organizationId) with
  | (.error e, _) => .error e
  | (.ok _, t) => .ok (d.setTenant organizationId t)

end AccessDb

def uniqueViolation : AppError := .database "Unique constraint failed."

def MembershipStatus.inviteRefusal : MembershipStatus → Option AppError
  | .active => some ⟨.conflict, "This email already belongs to an active user in this organization.", []⟩
  | .invited => some ⟨.conflict,
      "This email already has a pending invitation to this organization. Resend it instead of creating a new one.", []⟩
  | .pendingVerification => some ⟨.conflict,
      "This email already has a pending invitation to this organization. Resend it instead of creating a new one.", []⟩
  | _ => none

def MembershipStatus.activateRefusal : MembershipStatus → Option AppError
  | .expired => some (.businessRule "This invitation has expired. Ask an Admin to resend it.")
  | .cancelled => some (.businessRule "This invitation is no longer valid.")
  | .active => some (.businessRule "This invitation has already been used.")
  | .inactive => some (.businessRule "This invitation cannot be activated.")
  | _ => none

namespace InviteRequest

variable (r : InviteRequest)

def membershipId : Uuid := r.q.uuid 1

def account (d : AccessDb) : Except AppError (Account × AccessDb) :=
  match d.findByEmail (r.q.order 2) r.dto.email with
  | some user => .ok (user, d)
  | none => do
    let user : Account := ⟨⟨r.dto.email, none, .pendingVerification⟩, r.q.uuid 0⟩
    let accounts ← require (d.accounts.insert user) uniqueViolation
    .ok (user, { d with accounts })

def create (userId : Uuid) (t : IdentityDb) : Except AppError IdentityDb := do
  ensure (¬ t.memberships.rows.any (fun m => m.userId == userId)) uniqueViolation
  let memberships ← require (t.memberships.insert ⟨r.membershipId, userId, .invited, none, none⟩) uniqueViolation
  let created : MembershipRequest := ⟨r.q, r.membershipId, .updateRoles ⟨r.dto.roles, r.dto.nonempty⟩⟩
  let t ← (MembershipService.createRoles created 2 r.dto.roles).exec IdentityDb.write { t with memberships }
  .ok (t.write (.record { action := "User Invited", entityType := "OrganizationMembership", entityId := r.membershipId
                          actorUserId := some r.q.actingUserId }))

def run (s : AccessState) : Except AppError AccessState := do
  ensure (.admin ∈ s.db.getRoles r.q.order r.organizationId r.q.actingUserId) notAdmin
  let existing := (s.db.findByEmail (r.q.order 2) r.dto.email).bind (fun user =>
    (s.db.tenant r.organizationId).memberships.rows.find? (fun m => m.userId == user.id))
  match existing.bind (fun m => m.status.inviteRefusal) with
  | some e => .error e
  | none => do
    let (user, d) ← r.account s.db
    let t ← r.create user.id (d.tenant r.organizationId)
    let invitation : Invitation :=
      { invitedByUserId := some r.q.actingUserId, invitedAt := some s.now, invitationTokenHash := some r.tokenHash
        invitationExpiresAt := some (r.addDays 7 s.now) }
    .ok { s with
      db := d.setTenant r.organizationId t
      invitation := Function.update s.invitation r.organizationId
        (Function.update (s.invitation r.organizationId) r.membershipId invitation) }

end InviteRequest

namespace ActivationRequest

variable (a : ActivationRequest)

def matching (s : AccessState) : List (Uuid × OrganizationMembership) :=
  s.db.organizations.flatMap (fun organizationId =>
    ((s.db.tenant organizationId).memberships.rows.filter (fun m =>
      (s.invitation organizationId m.id).invitationTokenHash == some a.tokenHash)).map (fun m => (organizationId, m)))

def newPassword (user : Account) : Except AppError (Option String) :=
  if user.status = .pendingVerification ∧ ¬ user.passwordHash.any (fun hash => hash != "") then do
    let password ← require (a.password.filter (fun password => password != ""))
      (.businessRule "A password is required to activate this account.")
    some <$> PasswordService.hash a.bcrypt password
  else .ok none

def setPassword (user : Account) (d : AccessDb) : Option String → AccessDb
  | none => d
  | some passwordHash => { d with accounts := d.accounts.update user.id (fun u =>
      { u with passwordHash := some passwordHash, status := .active }) (fun _ => rfl) }

def activated (m : OrganizationMembership) : OrganizationMembership := { m with status := .active }

lemma activated_id (m : OrganizationMembership) : (activated m).id = m.id := rfl

def activateMembership (id : Uuid) (needsPassword : Bool) (userId : Uuid) (t : IdentityDb) : IdentityDb where
  memberships := t.memberships.update id activated activated_id
  roles := t.roles
  audit := t.audit ++ [{ action := if needsPassword then "Admin Account Verified" else "User Activated"
                         entityType := "OrganizationMembership", entityId := id, actorUserId := some userId }]

def run (s : AccessState) : Except AppError AccessState := do
  let (organizationId, m) ← require (findFirst (a.q.order 0) (fun _ => true) (a.matching s))
    (.notFound "Invalid or already-used invitation link.")
  let invitation := s.invitation organizationId m.id
  ensure (¬ (m.status = .invited ∧ invitation.invitationExpiresAt.any (fun expiresAt => decide (expiresAt < s.now))))
    (.businessRule "This invitation has expired. Ask an Admin to resend it.")
  match m.status.activateRefusal with
  | some e => .error e
  | none => do
    let user ← require (s.db.accounts.rows.find? (fun u => u.id == m.userId))
      (.notFound "User not found for this invitation.")
    let passwordHash ← a.newPassword user
    let d := setPassword user s.db passwordHash
    .ok { s with
      db := d.setTenant organizationId
        (activateMembership m.id passwordHash.isSome user.id (d.tenant organizationId))
      invitation := Function.update s.invitation organizationId (Function.update (s.invitation organizationId) m.id
        { invitation with activatedAt := some s.now, invitationTokenHash := none }) }

end ActivationRequest

namespace Redis

variable (redis : Redis) (now : Instant)

def revokeAll (k : IndexKey) : Redis :=
  match redis.index.smembers now k with
  | [] => redis
  | sessionIds => ⟨sessionIds.foldl Keys.del redis.store, redis.index.del k⟩

/-- The commands of a request that runs alone; nine of them answer it. -/
def serve (d : AccessDb) (r : WebRequest) : Redis :=
  ((fun p : WebFrame × Redis => p.1.next now d (fun _ => 0) p.2)^[9] (.arriving r, redis)).2

end Redis

inductive AccessRequest
  | web (r : WebRequest)
  | updateRoles (organizationId : Uuid) (q : Request) (targetId : Uuid) (dto : UpdateMembershipRolesInput)
  | deactivate (organizationId : Uuid) (q : Request) (targetId : Uuid)
  | invite (r : InviteRequest)
  | activate (a : ActivationRequest)
  | tick (t : Instant)

namespace AccessState

variable (s : AccessState)

def exec : AccessRequest → Except AppError AccessState
  | .web r => .ok { s with redis := s.redis.serve s.now s.db r }
  | .updateRoles organizationId q targetId dto =>
    (fun db => { s with db }) <$> s.db.updateRoles organizationId q targetId dto
  | .deactivate organizationId q targetId =>
    (fun (userId, db) => { s with db, redis := s.redis.revokeAll s.now (.organization userId organizationId) }) <$>
      s.db.deactivate organizationId q targetId
  | .invite r => r.run s
  | .activate a => a.run s
  | .tick t => .ok { s with now := max s.now t }

def next (s : AccessState) : AccessRequest → AccessState := attempt (fun e s => s.exec e) s

end AccessState

end Truckmaster.Identity
