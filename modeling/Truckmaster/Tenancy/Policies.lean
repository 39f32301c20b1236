import Truckmaster.Library.RowSecurity
import Truckmaster.Identity.OrganizationSequences

namespace Truckmaster.Tenancy

open Common RowSecurity

inductive Table
  | user | passwordResetToken | organization | geocodeCache
  | organizationMembership | membershipRole | organizationSequence (sequenceType : Identity.OrganizationSequenceType)
  | auditLog | domainEvent
  | customer | customerContact | customerLocation | customerRateAgreement
  | carrier | carrierContact | carrierInsurance | carrierFmcsaVerification | carrierServiceArea | carrierFactoringInfo
  | driver | truck | trailer | documentTypeDefinition | document
  | quote | quoteStop | load | stop
  | carrierSourcingAttempt | dispatchRecord | checkCall
  | chargeTypeDefinition | chargeLineItem | invoice | invoiceLoad | invoiceLineItem | payment | adjustment | carrierPayment
  | notification | communicationActivity | internalNote | importBatch | importBatchRow | loadDraft | attentionItem
  deriving DecidableEq, Repr

/-- The forms of the policies; a table without one shows its rows to everybody. -/
inductive Protection
  | open | membership | role | tenantIsolationWithSystemDefaults | tenantIsolation
  deriving DecidableEq, Repr

def Table.protection : Table → Protection
  | .user | .passwordResetToken | .organization | .geocodeCache => .open
  | .organizationMembership => .membership
  | .membershipRole => .role
  | .documentTypeDefinition | .chargeTypeDefinition => .tenantIsolationWithSystemDefaults
  | _ => .tenantIsolation

/-- A row is addressed by its id, the counter of a sequence by its organization. -/
structure Key where
  table : Table
  id : Uuid
  deriving DecidableEq, Repr

/-- The columns that policies read, NULL in a table without them, and the others. -/
structure Row (δ : Type) where
  organizationId : Option Uuid
  userId : Option Uuid
  invitationTokenHash : Option String
  membershipId : Option Uuid
  columns : δ
  deriving DecidableEq

def isHex (c : Char) : Bool := c.isDigit || ('a' ≤ c.toLower && c.toLower ≤ 'f')

def hexValue (c : Char) : ℕ := if c.isDigit then c.toNat - 48 else c.toLower.toNat - 87

def UUID_RE (text : String) : Bool :=
  text.toList.length == 36 &&
    text.toList.zipIdx.all (fun c => if c.2 ∈ [8, 13, 18, 23] then c.1 == '-' else isHex c.1)

/-- `text::uuid`, for the texts that pass `UUID_RE`. -/
def castUuid (text : String) : Option Uuid :=
  if UUID_RE text then some ((text.toList.filter isHex).foldl (fun n c => 16 * n + hexValue c) 0) else none

/-- The settings of a connection, `none` where one has never been set on it. -/
structure Settings where
  currentOrgId : Option String
  currentUserId : Option String
  currentInvitationTokenHash : Option String
  deriving DecidableEq, Repr

/-- `NULLIF(setting, '')`. -/
def nullIfEmpty (setting : Option String) : Option String := setting.filter (fun text => text ≠ "")

/-- `NULLIF(setting, '')::uuid`, which fails where the text is none. -/
def settingUuid (setting : Option String) : Option (Option Uuid) :=
  match nullIfEmpty setting with
  | none => some none
  | some text => (castUuid text).map some

structure Context where
  organizationId : Option Uuid
  userId : Option Uuid
  invitationTokenHash : Option String
  deriving DecidableEq, Repr

def Settings.context (s : Settings) : Option Context := do
  let organizationId ← settingUuid s.currentOrgId
  let userId ← settingUuid s.currentUserId
  return ⟨organizationId, userId, nullIfEmpty s.currentInvitationTokenHash⟩

/-- `=` of SQL is not true of NULL. -/
def sqlEq {β : Type} [DecidableEq β] (a b : Option β) : Bool :=
  match a, b with
  | some x, some y => x = y
  | _, _ => false

variable {δ : Type}

abbrev Database (δ : Type) := Rows Key (Row δ)

def membershipVisible (c : Context) (r : Row δ) : Bool :=
  sqlEq r.organizationId c.organizationId || sqlEq r.userId c.userId ||
    sqlEq r.invitationTokenHash c.invitationTokenHash

/-- The policies. That of `membership_role` asks for a membership, which the policy of that table lets through. -/
def policy : Policy Context Key (Row δ) := fun c rows k r =>
  match k.table.protection with
  | .open => true
  | .membership => membershipVisible c r
  | .role => sqlEq r.organizationId c.organizationId ||
      r.membershipId.any (fun id => (rows ⟨.organizationMembership, id⟩).any (fun m =>
        membershipVisible c m && sqlEq m.userId c.userId))
  | .tenantIsolationWithSystemDefaults => r.organizationId.isNone || sqlEq r.organizationId c.organizationId
  | .tenantIsolation => sqlEq r.organizationId c.organizationId

end Truckmaster.Tenancy
