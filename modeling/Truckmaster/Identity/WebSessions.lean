import Truckmaster.Identity.MembershipChanges
import Truckmaster.Identity.PasswordResetSessions
import Truckmaster.Library.ExpiringKeys

/-! The sessions of the web requests in Redis, their index keys, and the revocations that deactivate and resetPassword
make there, command by command. -/

namespace Truckmaster.Identity

open Common ExpiringKeys Fallible Runs Tables

structure Account extends User where
  id : Uuid
  deriving DecidableEq, Repr

structure AccountToken extends PasswordResetToken where
  userId : Uuid
  deriving DecidableEq, Repr

structure AccessDb where
  accounts : Table (fun a : Account => a.id)
  organizations : List Uuid
  tenant : Uuid → IdentityDb
  resetTokens : List AccountToken := []

structure SessionData where
  userId : Uuid
  organizationId : Option Uuid := none
  membershipId : Option Uuid := none
  roles : Option (List MembershipRoleName) := none
  deriving DecidableEq, Repr

/-- `version` counts the resets of the user's password before the login that made the session; Redis does not hold
it. -/
structure StoredSession where
  auth : SessionData
  version : ℕ
  deriving DecidableEq, Repr

inductive IndexKey
  | organization (userId organizationId : Uuid)
  | user (userId : Uuid)
  deriving DecidableEq, Repr

namespace SessionData

def indexKeys (auth : SessionData) : List IndexKey :=
  .user auth.userId :: auth.organizationId.toList.map (.organization auth.userId)

end SessionData

structure Redis where
  store : Keys Uuid StoredSession := .empty
  index : Keys IndexKey (List Uuid) := .empty

structure LoginInput where
  email : String
  password : String
  compare : String → String → Bool

inductive WebOp
  | login (dto : LoginInput)
  | selectOrganization (organizationId : Uuid)
  | switchOrganization (organizationId : Uuid)
  | logout
  | other

/-- The session id of the cookie, and the one that express-session would generate. -/
structure WebRequest where
  cookie : Option Uuid
  generatedId : Uuid
  order : ℕ → RowOrder
  op : WebOp

def sessionTtlMs : ℤ := 7 * 24 * 60 * 60 * 1000

namespace AccessDb

variable (d : AccessDb)

def findByEmail (o : RowOrder) (email : String) : Option Account :=
  findFirst o (fun a => a.email == email) d.accounts.rows

def listActiveMemberships (userId : Uuid) : List (Uuid × OrganizationMembership) :=
  d.organizations.flatMap (fun organizationId =>
    ((d.tenant organizationId).memberships.rows.filter (fun m => m.userId == userId && m.status == .active)).map
      (fun m => (organizationId, m)))

def getRoles (order : ℕ → RowOrder) (organizationId userId : Uuid) : List MembershipRoleName :=
  match (d.tenant organizationId).findActive (order 0) userId with
  | none => []
  | some m => ((d.tenant organizationId).rolesOf (order 1) m.id).map MembershipRole.role

end AccessDb

namespace AuthService

def invalidCredentials : AppError := ⟨.authentication, "Invalid email or password.", []⟩

def authenticate (d : AccessDb) (o : RowOrder) (dto : LoginInput) : Except AppError Account := do
  let user ← require (d.findByEmail o dto.email) invalidCredentials
  let passwordHash ← require (user.passwordHash.filter (fun hash => hash != "")) invalidCredentials
  ensure (user.status = .active) invalidCredentials
  ensure (dto.compare dto.password passwordHash) invalidCredentials
  pure user

end AuthService

/-- What express-session has opened for a request: a session that was found, or a new one. -/
structure Opened where
  sessionId : Uuid
  loaded : Option StoredSession

def Redis.open (redis : Redis) (now : Instant) (r : WebRequest) : Opened :=
  match r.cookie.bind (fun sessionId => (redis.store.get now sessionId).map (fun x => (sessionId, x))) with
  | some (sessionId, x) => ⟨sessionId, some x⟩
  | none => ⟨r.generatedId, none⟩

/-- `ending` saves the session that the handler leaves; with none, the handler has not changed it. -/
inductive WebFrame
  | arriving (r : WebRequest)
  | findByEmail (r : WebRequest) (o : Opened) (dto : LoginInput)
  | listMemberships (r : WebRequest) (o : Opened) (userId : Uuid) (version : ℕ)
  | findMembership (r : WebRequest) (o : Opened) (current : StoredSession) (organizationId : Uuid)
  | getRoles (r : WebRequest) (o : Opened) (new : StoredSession) (organizationId : Uuid) (login : Bool)
  | recordSession (o : Opened) (new : StoredSession)
  | expireRecorded (o : Opened) (new : StoredSession)
  | leaveOrganization (o : Opened) (new : StoredSession) (previous organizationId : Uuid)
  | enterOrganization (o : Opened) (new : StoredSession) (organizationId : Uuid)
  | expireEntered (o : Opened) (new : StoredSession) (organizationId : Uuid)
  | ending (o : Opened) (new : Option StoredSession)
  | destroy (o : Opened) (auth : SessionData)
  | forgetOrganization (o : Opened) (auth : SessionData) (organizationId : Uuid)
  | forgetUser (o : Opened) (auth : SessionData)
  | answered

namespace Opened

def handle (o : Opened) (r : WebRequest) : WebFrame :=
  match r.op, o.loaded with
  | .login dto, _ => .findByEmail r o dto
  | .selectOrganization organizationId, some current => .findMembership r o current organizationId
  | .switchOrganization organizationId, some current => .findMembership r o current organizationId
  | .logout, some current => .destroy o current.auth
  | _, _ => .ending o none

def enter (o : Opened) (new : StoredSession) : WebFrame :=
  match new.auth.organizationId with
  | none => .ending o (some new)
  | some organizationId => .enterOrganization o new organizationId

def change (o : Opened) (new : StoredSession) (organizationId : Uuid) : WebFrame :=
  match o.loaded.bind (fun x => x.auth.organizationId) with
  | none => .enterOrganization o new organizationId
  | some previous =>
    if previous = organizationId then .enterOrganization o new organizationId
    else .leaveOrganization o new previous organizationId

/-- express-session sets a session that has changed, and renews one that has not. -/
def save (o : Opened) (now : Instant) (store : Keys Uuid StoredSession) : Option StoredSession → Keys Uuid StoredSession
  | none => store.expire now o.sessionId (now + sessionTtlMs)
  | some new =>
    if o.loaded.map StoredSession.auth = some new.auth then store.expire now o.sessionId (now + sessionTtlMs)
    else store.set o.sessionId new (now + sessionTtlMs)

end Opened

namespace WebFrame

variable (now : Instant) (d : AccessDb) (version : Uuid → ℕ) (redis : Redis)

def onIndex (f : Keys IndexKey (List Uuid) → Keys IndexKey (List Uuid)) : Redis := { redis with index := f redis.index }

def next : WebFrame → WebFrame × Redis
  | .arriving r => ((redis.open now r).handle r, redis)
  | .findByEmail r o dto =>
    match AuthService.authenticate d (r.order 0) dto with
    | .ok user => (.listMemberships r o user.id (version user.id), redis)
    | .error _ => (.ending o none, redis)
  | .listMemberships r o userId version =>
    match d.listActiveMemberships userId with
    | [(organizationId, m)] =>
      (.getRoles r o ⟨⟨userId, some organizationId, some m.id, none⟩, version⟩ organizationId true, redis)
    | _ => (.recordSession o ⟨⟨userId, none, none, none⟩, version⟩, redis)
  | .findMembership r o current organizationId =>
    match (d.tenant organizationId).findActive (r.order 2) current.auth.userId with
    | none => (.ending o none, redis)
    | some m => (.getRoles r o
        ⟨⟨current.auth.userId, some organizationId, some m.id, none⟩, current.version⟩ organizationId false, redis)
  | .getRoles r o new organizationId login =>
    let auth := { new.auth with roles := some (d.getRoles r.order organizationId new.auth.userId) }
    (if login then .recordSession o { new with auth } else o.change { new with auth } organizationId, redis)
  | .recordSession o new =>
    (.expireRecorded o new, onIndex redis (fun index => index.sadd now (.user new.auth.userId) o.sessionId))
  | .expireRecorded o new =>
    (o.enter new, onIndex redis (fun index => index.expire now (.user new.auth.userId) (now + sessionTtlMs)))
  | .leaveOrganization o new previous organizationId => (.enterOrganization o new organizationId,
      onIndex redis (fun index => index.srem now (.organization new.auth.userId previous) o.sessionId))
  | .enterOrganization o new organizationId => (.expireEntered o new organizationId,
      onIndex redis (fun index => index.sadd now (.organization new.auth.userId organizationId) o.sessionId))
  | .expireEntered o new organizationId => (.ending o (some new), onIndex redis (fun index =>
      index.expire now (.organization new.auth.userId organizationId) (now + sessionTtlMs)))
  | .ending o new => (.answered, { redis with store := o.save now redis.store new })
  | .destroy o auth =>
    (match auth.organizationId with
      | none => .answered
      | some organizationId => .forgetOrganization o auth organizationId,
      { redis with store := redis.store.del o.sessionId })
  | .forgetOrganization o auth organizationId => (.forgetUser o auth,
      onIndex redis (fun index => index.srem now (.organization auth.userId organizationId) o.sessionId))
  | .forgetUser o auth =>
    (.answered, onIndex redis (fun index => index.srem now (.user auth.userId) o.sessionId))
  | .answered => (.answered, redis)

end WebFrame

inductive RevocationOp
  | deactivate (organizationId : Uuid) (q : Request) (targetId : Uuid)
  | resetPassword (p : PasswordChange)

namespace AccessDb

variable (d : AccessDb)

def deactivate (organizationId : Uuid) (q : Request) (targetId : Uuid) : Except AppError (Uuid × AccessDb) :=
  match MembershipService.call ⟨q, targetId, .deactivate⟩ (d.tenant organizationId) with
  | (.error e, _) => .error e
  | (.ok _, t) => do
    let updated ← require (t.memberships.rows.find? (fun m => m.id == targetId)) (.database "No record was found.")
    pure (updated.userId, { d with tenant := Function.update d.tenant organizationId t })

def resetPassword (p : PasswordChange) : Except AppError (Uuid × AccessDb) := do
  ensure (d.resetTokens.any (fun t => p.accepts t.toPasswordResetToken)) invalidLink
  let resetTokens := d.resetTokens.map (fun t =>
    if p.accepts t.toPasswordResetToken then { t with usedAt := some p.now } else t)
  let tokenRow ← require (findFirst p.order (fun t => t.tokenHash == p.tokenHash) resetTokens)
    (.database "No record was found.")
  let passwordHash ← PasswordService.hash p.bcrypt p.newPassword
  ensure (d.accounts.rows.any (fun a => a.id == tokenRow.userId)) (.database "No record was found.")
  pure (tokenRow.userId, { d with
    resetTokens
    accounts := d.accounts.update tokenRow.userId (fun a => { a with passwordHash := some passwordHash }) (fun _ => rfl) })

end AccessDb

/-- With the number of the password that a reset has set. -/
inductive RevocationFrame
  | requested (op : RevocationOp)
  | readIndex (k : IndexKey) (version : ℕ)
  | deleteSessions (k : IndexKey) (version : ℕ) (pending : List Uuid)
  | returned (k : IndexKey) (version : ℕ)
  | refused (e : AppError)

structure WebState (I J : Type) where
  now : Instant
  db : AccessDb
  version : Uuid → ℕ := fun _ => 0
  redis : Redis := {}
  request : I → WebFrame
  revocation : J → RevocationFrame

inductive WebEvent (I J : Type)
  | request (i : I)
  | revocation (j : J)
  | tick (t : Instant)

namespace WebState

variable {I J : Type} [DecidableEq I] [DecidableEq J] (s : WebState I J)

def commitDeactivate (j : J) : Except AppError (Uuid × AccessDb) → Uuid → WebState I J
  | .error e, _ => { s with revocation := Function.update s.revocation j (.refused e) }
  | .ok (userId, db), organizationId =>
    { s with db, revocation := Function.update s.revocation j (.readIndex (.organization userId organizationId) 0) }

def commitReset (j : J) : Except AppError (Uuid × AccessDb) → WebState I J
  | .error e => { s with revocation := Function.update s.revocation j (.refused e) }
  | .ok (userId, db) =>
    let version := s.version userId + 1
    { s with
      db
      version := Function.update s.version userId version
      revocation := Function.update s.revocation j (.readIndex (.user userId) version) }

def revoke (j : J) : WebState I J :=
  match s.revocation j with
  | .requested (.deactivate organizationId q targetId) =>
    s.commitDeactivate j (s.db.deactivate organizationId q targetId) organizationId
  | .requested (.resetPassword p) => s.commitReset j (s.db.resetPassword { p with now := s.now })
  | .readIndex k version =>
    { s with revocation := Function.update s.revocation j (match s.redis.index.smembers s.now k with
        | [] => .returned k version
        | sessionIds => .deleteSessions k version sessionIds) }
  | .deleteSessions k version (sessionId :: pending) =>
    { s with
      redis := { s.redis with store := s.redis.store.del sessionId }
      revocation := Function.update s.revocation j (.deleteSessions k version pending) }
  | .deleteSessions k version [] =>
    { s with
      redis := { s.redis with index := s.redis.index.del k }
      revocation := Function.update s.revocation j (.returned k version) }
  | .returned _ _ => s
  | .refused _ => s

def next : WebEvent I J → WebState I J
  | .request i =>
    let (frame, redis) := (s.request i).next s.now s.db s.version s.redis
    { s with redis, request := Function.update s.request i frame }
  | .revocation j => s.revoke j
  | .tick t => { s with now := max s.now t }

end WebState

end Truckmaster.Identity
