import Truckmaster.Common.Requests
import Truckmaster.Library.Fallible
import Truckmaster.Library.ReadCommitted

namespace Truckmaster.Identity

open Common Fallible ReadCommitted Tables

inductive UserStatus
  | pendingVerification | active | suspended
  deriving DecidableEq, Repr

structure User where
  email : String
  passwordHash : Option String
  status : UserStatus
  deriving DecidableEq, Repr

structure PasswordResetToken where
  id : Uuid
  tokenHash : String
  expiresAt : Instant
  usedAt : Option Instant := none
  deriving DecidableEq, Repr

/-- A committed reset: the token that was consumed, and the tokens that were issued by then. -/
structure PasswordReset where
  tokenId : Uuid
  issued : List Uuid
  deriving DecidableEq, Repr

structure PasswordDb where
  user : User
  tokens : Table PasswordResetToken.id
  resets : List PasswordReset := []

inductive PasswordRow
  | user
  | token (id : Uuid)
  deriving DecidableEq

inductive PasswordWrite
  | setUsed (now : Instant) (id : Uuid)
  | createToken (row : PasswordResetToken)
  | setPassword (passwordHash : String) (consumed : List Uuid)

/-- The email, and what the clock and `generate` give. -/
structure ResetRequest where
  now : Instant
  email : String
  tokenId : Uuid
  tokenHash : String

/-- The hash of the presented token, the new password, and what `bcrypt` makes of it. -/
structure PasswordChange where
  now : Instant
  tokenHash : String
  newPassword : String
  bcrypt : String → String
  order : RowOrder

inductive PasswordRequest
  | requestReset (r : ResetRequest)
  | resetPassword (p : PasswordChange)

inductive PasswordFrame
  | findByEmail (r : ResetRequest)
  | findUnused (r : ResetRequest)
  | supersede (r : ResetRequest) (pending : List Uuid)
  | createToken (r : ResetRequest)
  | findToken (p : PasswordChange)
  | consume (p : PasswordChange) (pending consumed : List Uuid)
  | findTokenRow (p : PasswordChange) (consumed : List Uuid)
  | updatePassword (passwordHash : String) (consumed : List Uuid)
  | commitToken
  | commitPassword
  | rollback (e : AppError)
  | done (failure : Option AppError)

def PasswordRequest.start : PasswordRequest → PasswordFrame
  | .requestReset r => .findByEmail r
  | .resetPassword p => .findToken p

def resetTokenTtlMs : ℤ := 60 * 60 * 1000

namespace PasswordService

def minLength : ℕ := 10

/-- `password.length`, in UTF-16 code units. -/
def length (password : String) : ℕ := (password.toList.map (fun c => if 0x10000 ≤ c.toNat then 2 else 1)).sum

def isLetter (c : Char) : Bool := ('A' ≤ c && c ≤ 'Z') || ('a' ≤ c && c ≤ 'z')

def isLineTerminator (c : Char) : Bool := c.toNat ∈ [0xA, 0xD, 0x2028, 0x2029]

/-- `^(?=.*[A-Za-z])(?=.*\d).+$`, where a dot matches no line terminator. -/
def requiresLetterAndNumber (password : String) : Bool :=
  password.toList.any isLetter && password.toList.any Char.isDigit && !password.toList.any isLineTerminator

def assertValid (password : String) : Except AppError Unit := do
  ensure (minLength ≤ length password) ⟨.validation, "Password must be at least 10 characters.", []⟩
  ensure (requiresLetterAndNumber password)
    ⟨.validation, "Password must contain at least one letter and one number.", []⟩

def hash (bcrypt : String → String) (password : String) : Except AppError String := do
  assertValid password
  pure (bcrypt password)

end PasswordService

namespace PasswordResetToken

def used (now : Instant) (t : PasswordResetToken) : PasswordResetToken := { t with usedAt := some now }

lemma used_id (now : Instant) (t : PasswordResetToken) : (t.used now).id = t.id := rfl

end PasswordResetToken

def PasswordChange.accepts (p : PasswordChange) (t : PasswordResetToken) : Bool :=
  t.tokenHash == p.tokenHash && t.usedAt.isNone && decide (p.now < t.expiresAt)

namespace PasswordDb

variable (d : PasswordDb)

def qualifies (email : String) : Bool :=
  d.user.email == email && d.user.passwordHash.any (fun hash => hash != "") && d.user.status == .active

def matching (p : PasswordResetToken → Bool) : List Uuid := (d.tokens.rows.filter p).map PasswordResetToken.id

/-- The WHERE clause again, under the row's lock. -/
def still (id : Uuid) (p : PasswordResetToken → Bool) : Bool := d.tokens.rows.any (fun t => t.id == id && p t)

def write : PasswordWrite → PasswordDb → PasswordDb
  | .setUsed now id, d => { d with tokens := d.tokens.update id (.used now) (PasswordResetToken.used_id now) }
  | .createToken row, d => { d with tokens := (d.tokens.insert row).getD d.tokens }
  | .setPassword passwordHash consumed, d =>
    { d with
      user := { d.user with passwordHash := some passwordHash }
      resets := d.resets ++ consumed.map (fun id => ⟨id, d.tokens.rows.map PasswordResetToken.id⟩) }

end PasswordDb

def invalidLink : AppError := ⟨.authentication, "This password reset link is invalid or has expired.", []⟩

def passwordStatement : PasswordFrame → Action PasswordDb PasswordRow PasswordFrame PasswordWrite
  | .findByEmail r => .run fun d => (if d.qualifies r.email then .findUnused r else .done none, [])
  | .findUnused r => .run fun d => (.supersede r (d.matching (fun t => t.usedAt.isNone)), [])
  | .supersede r (id :: pending) => .lock (.token id) fun d =>
    (.supersede r pending, if d.still id (fun t => t.usedAt.isNone) then [.setUsed r.now id] else [])
  | .supersede r [] => .run fun _ => (.createToken r, [])
  | .createToken r => .lock (.token r.tokenId) fun d =>
    if r.tokenId ∈ d.tokens.rows.map PasswordResetToken.id then
      (.rollback (.database "Unique constraint failed."), [])
    else (.commitToken, [.createToken { id := r.tokenId, tokenHash := r.tokenHash, expiresAt := r.now + resetTokenTtlMs }])
  | .findToken p => .run fun d => (.consume p (d.matching p.accepts) [], [])
  | .consume p (id :: pending) consumed => .lock (.token id) fun d =>
    if d.still id p.accepts then (.consume p pending (consumed ++ [id]), [.setUsed p.now id])
    else (.consume p pending consumed, [])
  | .consume p [] consumed => .run fun _ =>
    (if consumed = [] then .rollback invalidLink else .findTokenRow p consumed, [])
  | .findTokenRow p consumed => .run fun d =>
    match findFirst p.order (fun t => t.tokenHash == p.tokenHash) d.tokens.rows with
    | none => (.rollback (.database "No record was found."), [])
    | some _ =>
      match PasswordService.hash p.bcrypt p.newPassword with
      | .ok passwordHash => (.updatePassword passwordHash consumed, [])
      | .error e => (.rollback e, [])
  | .updatePassword passwordHash consumed => .lock .user fun _ =>
    (.commitPassword, [.setPassword passwordHash consumed])
  | .commitToken => .commit (.done none)
  | .commitPassword => .commit (.done none)
  | .rollback e => .rollback (.done (some e))
  | .done _ => .stop

def passwordCode : Code PasswordDb PasswordRow PasswordFrame PasswordWrite where
  action := passwordStatement
  apply := PasswordDb.write
  fail _ := .done (some (.database "Transaction aborted."))

end Truckmaster.Identity
