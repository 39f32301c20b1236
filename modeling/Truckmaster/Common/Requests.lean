import Truckmaster.Library.Tables

namespace Truckmaster.Common

abbrev Uuid := ℕ
abbrev Instant := ℤ
abbrev Cents := ℤ

inductive ErrorCode
  | validation | authentication | permission | selfReviewForbidden | notFound | invalidTransition
  | eligibility | conflict | podIncompleteWarning | businessRule | csrf | database
  deriving DecidableEq, Repr

structure AppError where
  code : ErrorCode
  message : String
  details : List String := []
  deriving DecidableEq, Repr

namespace AppError

def notFound (message : String) : AppError := ⟨.notFound, message, []⟩
def invalidTransition (message : String) : AppError := ⟨.invalidTransition, message, []⟩
def businessRule (message : String) : AppError := ⟨.businessRule, message, []⟩
def permission (message : String) : AppError := ⟨.permission, message, []⟩
def eligibility (message : String) (reasons : List String) : AppError :=
  ⟨.eligibility, message, reasons⟩
def podIncompleteWarning (message : String) (affectedLoads : List Uuid) : AppError :=
  ⟨.podIncompleteWarning, message, affectedLoads.map toString⟩

/-- The statement failed in the database: a constraint, a column's range, a missing row. -/
def database (message : String) : AppError := ⟨.database, message, []⟩

end AppError

/-- The characters that `String.prototype.trim` removes. -/
def isWhiteSpace (c : Char) : Bool :=
  c.toNat ∈ [0x9, 0xA, 0xB, 0xC, 0xD, 0x20, 0xA0, 0x1680, 0x2028, 0x2029, 0x202F, 0x205F, 0x3000, 0xFEFF] ||
    (0x2000 ≤ c.toNat && c.toNat ≤ 0x200A)

def trim (s : String) : String :=
  String.ofList ((s.toList.dropWhile isWhiteSpace).reverse.dropWhile isWhiteSpace).reverse

/-- What a `@db.Date` column keeps of an instant in milliseconds. -/
def dateOf (t : Instant) : Instant := t - t % 86400000

inductive ActorType
  | human | system | ai
  deriving DecidableEq, Repr

inductive MembershipRoleName
  | admin | operationsManager | dispatcher | salesBooking | accounting | complianceReviewer
  deriving DecidableEq, Repr

structure AuditEvent where
  action : String
  entityType : String
  entityId : Uuid
  actorUserId : Option Uuid
  actorType : ActorType := .human
  reason : Option String := none
  deriving DecidableEq, Repr

/-- The clock, the generated ids and the row orders one request meets, in the order it uses them. -/
structure Request where
  now : Instant
  uuid : ℕ → Uuid
  order : ℕ → Tables.RowOrder
  actingUserId : Uuid

end Truckmaster.Common
