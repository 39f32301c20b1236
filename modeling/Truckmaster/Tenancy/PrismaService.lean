import Truckmaster.Library.Runs
import Truckmaster.Tenancy.Policies

/-! The transactions of `PrismaService` over a pool of connections that later calls use again. -/

namespace Truckmaster.Tenancy

open Common RowSecurity Runs

variable {n : ℕ} {δ α : Type}

/-- Who opens a transaction: `withTenantTransaction`, `withUserTransaction`, `withInvitationTokenTransaction`, or a
query or `$transaction` of the client itself. -/
inductive Caller
  | tenant (organizationId : String)
  | user (userId : String)
  | invitation (tokenHash : String)
  | bare
  deriving DecidableEq, Repr

def Caller.settings (before : Settings) : Caller → Option Settings
  | .tenant organizationId =>
    if UUID_RE organizationId then some { before with currentOrgId := some organizationId } else none
  | .user userId => if UUID_RE userId then some { before with currentUserId := some userId } else none
  | .invitation tokenHash =>
    if tokenHash = "" then none else some { before with currentInvitationTokenHash := some tokenHash }
  | .bare => some before

/-- A setting made in a transaction that has ended: the empty text where the connection had none before. -/
def revert (before inForce : Option String) : Option String := if inForce = before then before else some (before.getD "")

def Settings.reverted (before inForce : Settings) : Settings where
  currentOrgId := revert before.currentOrgId inForce.currentOrgId
  currentUserId := revert before.currentUserId inForce.currentUserId
  currentInvitationTokenHash := revert before.currentInvitationTokenHash inForce.currentInvitationTokenHash

structure Session (δ : Type) where
  caller : Caller
  settings : Settings
  log : List (Write Key (Row δ))
  failed : Bool

structure Connection (δ : Type) where
  settings : Settings
  session : Option (Session δ)

def Connection.new : Connection δ := ⟨⟨none, none, none⟩, none⟩

def Connection.holds (c : Connection δ) (k : Key) : Bool := c.session.any (fun x => k ∈ x.log.map Prod.fst)

structure Pool (n : ℕ) (δ : Type) where
  rows : Database δ
  connections : Fin n → Connection δ

/-- `setOrganization` is what `createOrganization` runs in its own `$transaction` once the organization has an id. -/
inductive Action (δ α : Type)
  | begin
  | setOrganization (organizationId : String)
  | statement (s : Statement Key (Row δ) α)
  | commit
  | rollback

structure Event (n : ℕ) (δ α : Type) where
  connection : Fin n
  caller : Caller
  action : Action δ α

inductive Answer (δ α : Type)
  | refused
  | opened
  | set
  | unavailable
  | aborted
  | castFailed
  | outcome (o : Outcome Key (Row δ) α)
  | committed
  | rolledBack

namespace Pool

variable (constraints : Constraints (Fin n) Key (Row δ))

def new (n : ℕ) (rows : Database δ) : Pool n δ := ⟨rows, fun _ => .new⟩

def logs (p : Pool n δ) (c : Fin n) : List (Write Key (Row δ)) := ((p.connections c).session.map Session.log).getD []

def locked (p : Pool n δ) (c : Fin n) (k : Key) : Bool := decide (∃ c', c' ≠ c ∧ (p.connections c').holds k = true)

def put (p : Pool n δ) (c : Fin n) (x : Session δ) : Pool n δ :=
  { p with connections := Function.update p.connections c { p.connections c with session := some x } }

def close (p : Pool n δ) (c : Fin n) (x : Session δ) : Pool n δ :=
  { p with connections := Function.update p.connections c ⟨(p.connections c).settings.reverted x.settings, none⟩ }

def commit (p : Pool n δ) (c : Fin n) (x : Session δ) : Pool n δ := { p.close c x with rows := pending p.rows x.log }

def fail (p : Pool n δ) (c : Fin n) (x : Session δ) : Pool n δ := p.put c { x with failed := true }

/-- What the constraints leave of an outcome. An error leaves nothing but the rollback to a transaction. -/
def conclude (p : Pool n δ) (c : Fin n) (x : Session δ) : Outcome Key (Row δ) α → Pool n δ × Outcome Key (Row δ) α
  | .wrote ws => match constraints p.rows p.logs c ws with
    | .stand acts => (p.put c { x with log := x.log ++ (ws ++ acts) }, .wrote ws)
    | .violated => (p.fail c x, .violated)
    | .waits => (p, .waits)
  | .read result => (p, .read result)
  | .waits => (p, .waits)
  | o => (p.fail c x, o)

def execute (p : Pool n δ) (c : Fin n) (x : Session δ) (s : Statement Key (Row δ) α) : Pool n δ × Answer δ α :=
  match x.settings.context with
  | none => (p.fail c x, .castFailed)
  | some context =>
    let (p', o) := p.conclude constraints c x (s.execute policy context (pending p.rows x.log) (p.locked c))
    (p', .outcome o)

/-- From there on the transaction is one for the organization. -/
def adopt (p : Pool n δ) (c : Fin n) (x : Session δ) (organizationId : String) : Pool n δ :=
  p.put c { x with
    caller := .tenant organizationId
    settings := { x.settings with currentOrgId := some organizationId } }

def serve (p : Pool n δ) (e : Event n δ α) : Pool n δ × Answer δ α :=
  match (p.connections e.connection).session with
  | none =>
    match e.action, e.caller.settings (p.connections e.connection).settings with
    | .begin, some settings => (p.put e.connection ⟨e.caller, settings, [], false⟩, .opened)
    | .begin, none => (p, .refused)
    | _, _ => (p, .unavailable)
  | some x =>
    if x.caller = e.caller then
      match e.action with
      | .begin => (p, .unavailable)
      | .setOrganization organizationId =>
        if x.failed then (p, .aborted)
        else if x.caller = .bare ∧ UUID_RE organizationId = true then (p.adopt e.connection x organizationId, .set)
        else (p, .unavailable)
      | .statement s => if x.failed then (p, .aborted) else p.execute constraints e.connection x s
      | .commit => if x.failed then (p.close e.connection x, .rolledBack) else (p.commit e.connection x, .committed)
      | .rollback => (p.close e.connection x, .rolledBack)
    else (p, .unavailable)

def next (p : Pool n δ) (e : Event n δ α) : Pool n δ := (p.serve constraints e).1

end Pool

inductive Effect (constraints : Constraints (Fin n) Key (Row δ)) (p : Pool n δ) (e : Event n δ α) : Pool n δ → Prop
  | nothing : Effect constraints p e p
  | opened {settings : Settings} : (p.connections e.connection).session = none →
      e.caller.settings (p.connections e.connection).settings = some settings →
      Effect constraints p e (p.put e.connection ⟨e.caller, settings, [], false⟩)
  | adopted {x : Session δ} {organizationId : String} : (p.connections e.connection).session = some x →
      x.caller = e.caller → e.action = .setOrganization organizationId → x.caller = .bare →
      UUID_RE organizationId = true → Effect constraints p e (p.adopt e.connection x organizationId)
  | wrote {x : Session δ} {context : Context} {s : Statement Key (Row δ) α} {ws acts : List (Write Key (Row δ))} :
      (p.connections e.connection).session = some x → x.caller = e.caller → x.failed = false →
      e.action = .statement s → x.settings.context = some context →
      s.execute policy context (pending p.rows x.log) (p.locked e.connection) = .wrote ws →
      constraints p.rows p.logs e.connection ws = .stand acts →
      Effect constraints p e (p.put e.connection { x with log := x.log ++ (ws ++ acts) })
  | failed {x : Session δ} : (p.connections e.connection).session = some x → x.caller = e.caller →
      Effect constraints p e (p.fail e.connection x)
  | ended {x : Session δ} : (p.connections e.connection).session = some x → x.caller = e.caller →
      Effect constraints p e (p.close e.connection x)
  | committed {x : Session δ} : (p.connections e.connection).session = some x → x.caller = e.caller →
      e.action = .commit → Effect constraints p e (p.commit e.connection x)

namespace Pool

variable {constraints : Constraints (Fin n) Key (Row δ)} {p : Pool n δ} {x : Session δ}

lemma execute_effect {e : Event n δ α} {s : Statement Key (Row δ) α}
    (hx : (p.connections e.connection).session = some x) (hcaller : x.caller = e.caller) (hfailed : x.failed = false)
    (hs : e.action = .statement s) : Effect constraints p e (p.execute constraints e.connection x s).1 := by
  unfold execute
  cases hcontext : x.settings.context with
  | none => exact .failed hx hcaller
  | some context =>
    dsimp only
    cases ho : s.execute policy context (pending p.rows x.log) (p.locked e.connection) with
    | read result => exact .nothing
    | wrote ws =>
      unfold conclude
      dsimp only
      cases hkeys : constraints p.rows p.logs e.connection ws with
      | stand acts => exact .wrote hx hcaller hfailed hs hcontext ho hkeys
      | violated => exact .failed hx hcaller
      | waits => exact .nothing
    | denied => exact .failed hx hcaller
    | duplicate => exact .failed hx hcaller
    | violated => exact .failed hx hcaller
    | waits => exact .nothing

lemma serve_statement_eq {e : Event n δ α} {s : Statement Key (Row δ) α}
    (hx : (p.connections e.connection).session = some x) (hcaller : x.caller = e.caller) (hfailed : x.failed = false)
    (hs : e.action = .statement s) : p.serve constraints e = p.execute constraints e.connection x s := by
  unfold serve
  rw [hx, hs]
  dsimp only
  rw [if_pos hcaller, hfailed, if_neg Bool.false_ne_true]

lemma next_effect (p : Pool n δ) (e : Event n δ α) : Effect constraints p e (p.next constraints e) := by
  unfold next serve
  cases hx : (p.connections e.connection).session with
  | none =>
    dsimp only
    cases haction : e.action with
    | begin =>
      cases hsettings : e.caller.settings (p.connections e.connection).settings with
      | none => exact .nothing
      | some settings => exact .opened hx hsettings
    | setOrganization organizationId => exact .nothing
    | statement s => exact .nothing
    | commit => exact .nothing
    | rollback => exact .nothing
  | some x =>
    dsimp only
    split
    next hcaller =>
      cases haction : e.action with
      | begin => exact .nothing
      | setOrganization organizationId =>
        dsimp only
        split
        next => exact .nothing
        next =>
          split
          next hbare => exact .adopted hx hcaller haction hbare.1 hbare.2
          next => exact .nothing
      | statement s =>
        dsimp only
        split
        next => exact .nothing
        next hfailed => exact execute_effect hx hcaller (Bool.eq_false_iff.mpr hfailed) haction
      | commit =>
        dsimp only
        split
        next => exact .ended hx hcaller
        next => exact .committed hx hcaller haction
      | rollback => exact .ended hx hcaller
    next => exact .nothing

end Pool

end Truckmaster.Tenancy
