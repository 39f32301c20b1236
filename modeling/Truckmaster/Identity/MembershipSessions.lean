import Truckmaster.Common.Requests
import Truckmaster.Library.Fallible
import Truckmaster.Library.ReadCommitted

/-! The deactivate and updateRoles requests on the memberships of one organization, statement by statement. -/

namespace Truckmaster.Identity

open Common Fallible ReadCommitted Tables

inductive MembershipStatus
  | pendingVerification | invited | active | inactive | expired | cancelled
  deriving DecidableEq, Repr

structure OrganizationMembership where
  id : Uuid
  userId : Uuid
  status : MembershipStatus
  deactivatedAt : Option Instant := none
  deactivatedByUserId : Option Uuid := none
  deriving DecidableEq, Repr

structure MembershipRole where
  id : Uuid
  membershipId : Uuid
  role : MembershipRoleName
  deriving DecidableEq, Repr

structure UpdateMembershipRolesInput where
  roles : List MembershipRoleName
  nonempty : roles ≠ [] := by simp

structure IdentityDb where
  memberships : Table OrganizationMembership.id
  roles : List MembershipRole
  audit : List AuditEvent

/-- A row of `organization_membership`, or an entry of the unique index of `membership_role`. -/
inductive IdentityRow
  | membership (id : Uuid)
  | role (membershipId : Uuid) (role : MembershipRoleName)
  deriving DecidableEq

inductive IdentityWrite
  | setInactive (q : Request) (id : Uuid)
  | deleteRole (row : MembershipRole)
  | insertRole (row : MembershipRole)
  | record (event : AuditEvent)

inductive MembershipOp
  | deactivate
  | updateRoles (dto : UpdateMembershipRolesInput)

structure MembershipRequest where
  q : Request
  targetId : Uuid
  op : MembershipOp

def OrganizationMembership.deactivated (q : Request) (m : OrganizationMembership) : OrganizationMembership :=
  { m with status := .inactive, deactivatedAt := some q.now, deactivatedByUserId := some q.actingUserId }

lemma deactivated_id (q : Request) (m : OrganizationMembership) : (m.deactivated q).id = m.id := rfl

namespace IdentityDb

variable (d : IdentityDb)

def rolesOf (o : RowOrder) (membershipId : Uuid) : List MembershipRole :=
  findMany o (fun r => r.membershipId == membershipId) d.roles

def findActive (o : RowOrder) (userId : Uuid) : Option OrganizationMembership :=
  findFirst o (fun m => m.userId == userId && m.status == .active) d.memberships.rows

def IsActive (id : Uuid) : Prop := ∃ m ∈ d.memberships.rows, m.id = id ∧ m.status = .active

instance (id : Uuid) : Decidable (d.IsActive id) :=
  inferInstanceAs (Decidable (∃ m ∈ d.memberships.rows, m.id = id ∧ m.status = .active))

def otherActiveAdminCount (targetId : Uuid) : ℕ :=
  d.roles.countP (fun r => r.role = .admin ∧ d.IsActive r.membershipId ∧ r.membershipId ≠ targetId)

def write : IdentityWrite → IdentityDb → IdentityDb
  | .setInactive q id, d => { d with memberships := d.memberships.update id (.deactivated q) (deactivated_id q) }
  | .deleteRole row, d => { d with roles := d.roles.filter (fun r => r ≠ row) }
  | .insertRole row, d => { d with roles := d.roles ++ [row] }
  | .record event, d => { d with audit := d.audit ++ [event] }

end IdentityDb

def MembershipOp.takesAdmin : MembershipOp → Bool
  | .deactivate => true
  | .updateRoles dto => !dto.roles.contains .admin

def MembershipOp.notActive : MembershipOp → AppError
  | .deactivate => .businessRule "Only an active member can be deactivated."
  | .updateRoles _ => .businessRule "Only an active member's roles can be changed."

def MembershipOp.blockedAction : MembershipOp → String
  | .deactivate => "User Deactivation Blocked — Last Active Admin"
  | .updateRoles _ => "Role Change Blocked — Last Active Admin"

def MembershipOp.lastAdmin (isSelf : Bool) : MembershipOp → AppError
  | .deactivate => .businessRule (if isSelf then
      "You cannot deactivate your own account because you are the only active Admin in your organization. Assign Admin to another user first."
    else
      "You cannot deactivate this user because they are the only active Admin in your organization. Assign Admin to another user first.")
  | .updateRoles _ => .businessRule (if isSelf then
      "You cannot remove your own Admin role because you are the only active Admin in your organization. Assign Admin to another user first."
    else
      "You cannot remove this user's Admin role because they are the only active Admin in your organization. Assign Admin to another user first.")

def MembershipOp.action : MembershipOp → String
  | .deactivate => "User Deactivated"
  | .updateRoles _ => "Member Roles Changed"

inductive MembershipFrame
  | assertHasRole (r : MembershipRequest)
  | includeRoles (r : MembershipRequest) (membershipId : Uuid)
  | asserted (r : MembershipRequest)
  | requireMembership (r : MembershipRequest)
  | findRoles (r : MembershipRequest) (target : OrganizationMembership)
  | countAdmins (r : MembershipRequest) (target : OrganizationMembership)
  | recordBlocked (r : MembershipRequest) (target : OrganizationMembership)
  | updateMembership (r : MembershipRequest)
  | findOldRoles (r : MembershipRequest) (dto : UpdateMembershipRolesInput)
  | deleteRoles (r : MembershipRequest) (dto : UpdateMembershipRolesInput) (pending : List MembershipRole)
  | createRoles (r : MembershipRequest) (dto : UpdateMembershipRolesInput) (n : ℕ) (pending : List MembershipRoleName)
  | recordAction (r : MembershipRequest)
  | commit (r : MembershipRequest)
  | rollback (e : AppError)
  | done (failure : Option AppError)

namespace MembershipRequest

variable (r : MembershipRequest)

def requireMembership (d : IdentityDb) : Except AppError OrganizationMembership := do
  let membership ← require (findFirst (r.q.order 2) (fun m => m.id == r.targetId) d.memberships.rows)
    (.notFound "Membership not found.")
  ensure (membership.status = .active) r.op.notActive
  pure membership

def writing : MembershipFrame :=
  match r.op with
  | .deactivate => .updateMembership r
  | .updateRoles dto => .findOldRoles r dto

def event (action : String) (actorType : ActorType) : AuditEvent :=
  { action, entityType := "OrganizationMembership", entityId := r.targetId, actorUserId := some r.q.actingUserId, actorType }

end MembershipRequest

def notAdmin : AppError := .permission "This action requires the ADMIN role."

def membershipStatement : MembershipFrame → Action IdentityDb IdentityRow MembershipFrame IdentityWrite
  | .assertHasRole r => .run fun d =>
    match d.findActive (r.q.order 0) r.q.actingUserId with
    | some m => (.includeRoles r m.id, [])
    | none => (.rollback notAdmin, [])
  | .includeRoles r membershipId => .run fun d =>
    let roles := (d.rolesOf (r.q.order 1) membershipId).map MembershipRole.role
    (if .admin ∈ roles then .asserted r else .rollback notAdmin, [])
  | .asserted r => .commit (.requireMembership r)
  | .requireMembership r => .run fun d =>
    match r.requireMembership d with
    | .ok target => (.findRoles r target, [])
    | .error e => (.rollback e, [])
  | .findRoles r target => .run fun d =>
    let roles := (d.rolesOf (r.q.order 3) target.id).map MembershipRole.role
    (if .admin ∈ roles ∧ r.op.takesAdmin then .countAdmins r target else r.writing, [])
  | .countAdmins r target => .run fun d =>
    (if d.otherActiveAdminCount target.id = 0 then .recordBlocked r target else r.writing, [])
  | .recordBlocked r target => .run fun _ =>
    (.rollback (r.op.lastAdmin (target.userId == r.q.actingUserId)), [.record (r.event r.op.blockedAction .system)])
  | .updateMembership r => .lock (.membership r.targetId) fun _ => (.recordAction r, [.setInactive r.q r.targetId])
  | .findOldRoles r dto => .run fun d => (.deleteRoles r dto (d.rolesOf (r.q.order 4) r.targetId), [])
  | .deleteRoles r dto (row :: pending) => .lock (.role row.membershipId row.role) fun _ =>
    (.deleteRoles r dto pending, [.deleteRole row])
  | .deleteRoles r dto [] => .run fun _ => (.createRoles r dto 0 dto.roles, [])
  | .createRoles r dto n (role :: pending) => .lock (.role r.targetId role) fun d =>
    let row : MembershipRole := ⟨r.q.uuid n, r.targetId, role⟩
    if d.roles.any (fun old => old.id == row.id || (old.membershipId == row.membershipId && old.role == row.role)) then
      (.rollback (.database "Unique constraint failed."), [])
    else (.createRoles r dto (n + 1) pending, [.insertRole row])
  | .createRoles r _ _ [] => .run fun _ => (.recordAction r, [])
  | .recordAction r => .run fun _ => (.commit r, [.record (r.event r.op.action .human)])
  | .commit _ => .commit (.done none)
  | .rollback e => .rollback (.done (some e))
  | .done _ => .stop

/-- `assertHasRole` runs in a transaction of its own, before the one that writes. -/
def membershipCode : Code IdentityDb IdentityRow MembershipFrame IdentityWrite where
  action := membershipStatement
  apply := IdentityDb.write
  fail _ := .done (some (.database "Transaction aborted."))

end Truckmaster.Identity
