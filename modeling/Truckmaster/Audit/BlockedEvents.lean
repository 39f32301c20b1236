import Truckmaster.Identity.MembershipChanges
import Truckmaster.QuoteLoad.CarrierAssignment

/-! The audit events that a refused request records before it throws, and what is left of them. -/

namespace Truckmaster.Audit

open Common Fallible Tables Transactions Identity QuoteLoad
open Carriers (CarrierDb CarrierWrite CreateCarrierInput CarrierService.create)
open Carriers.CarrierEligibilityService (ineligibilityReasons recalculated)

structure Tenant where
  identity : IdentityDb
  sourcing : SourcingDb

inductive RefusableCall
  | assignCarrier (r : Reference) (q : Request) (dto : AssignCarrierInput)
  | create (q : Request) (dto : CreateCarrierInput)
  | deactivate (q : Request) (targetMembershipId : Uuid)
  | updateRoles (q : Request) (targetMembershipId : Uuid) (dto : UpdateMembershipRolesInput)

def loadAudit (load : Option LoadRows) : List AuditEvent := load.elim [] LoadRows.audit

namespace Tenant

def onIdentity (f : IdentityDb → Except AppError Unit × IdentityDb) (d : Tenant) : Except AppError Unit × Tenant :=
  ((f d.identity).1, { d with identity := (f d.identity).2 })

def onSourcing (f : SourcingDb → Except AppError Unit × SourcingDb) (d : Tenant) : Except AppError Unit × Tenant :=
  ((f d.sourcing).1, { d with sourcing := (f d.sourcing).2 })

def onCarriers (f : CarrierDb → Except AppError Unit × CarrierDb) : Tenant → Except AppError Unit × Tenant :=
  onSourcing (fun d => ((f d.carriers).1, { d with carriers := (f d.carriers).2 }))

def audit (d : Tenant) : List AuditEvent :=
  d.identity.audit ++ d.sourcing.carriers.audit ++ loadAudit d.sourcing.load

end Tenant

/-- All writes of the callback are committed if it returns, and none if it throws. -/
def withTenantTransaction (callback : Tenant → Except AppError Unit × Tenant) (d : Tenant) :
    Except AppError Unit × Tenant :=
  match callback d with
  | (.ok _, t) => (.ok (), t)
  | (.error e, _) => (.error e, d)

/-- assertHasRole has a transaction of its own, before the callback. -/
def membershipCallback (r : MembershipRequest) (d : IdentityDb) : Except AppError Unit × IdentityDb :=
  match (MembershipService.assertHasRole r).commit IdentityDb.write d with
  | (.ok _, t) => (MembershipService.transaction r).run IdentityDb.write t
  | (.error e, t) => (.error e, t)

namespace RefusableCall

def callback : RefusableCall → Tenant → Except AppError Unit × Tenant
  | .assignCarrier r q dto => Tenant.onSourcing ((CarrierSourcingTx.assignCarrier r q dto).run SourcingDb.write)
  | .create q dto => Tenant.onCarriers ((CarrierService.create q dto).run CarrierDb.write)
  | .deactivate q targetMembershipId => Tenant.onIdentity (membershipCallback ⟨q, targetMembershipId, .deactivate⟩)
  | .updateRoles q targetMembershipId dto =>
    Tenant.onIdentity (membershipCallback ⟨q, targetMembershipId, .updateRoles dto⟩)

def call (c : RefusableCall) : Tenant → Except AppError Unit × Tenant := withTenantTransaction c.callback

end RefusableCall

def blockedActions : List String :=
  ["Carrier Assignment Blocked — Ineligible", "Carrier Creation Blocked — Duplicate MC/DOT",
    "User Deactivation Blocked — Last Active Admin", "Role Change Blocked — Last Active Admin"]

def RefusedAfterRecording (c : RefusableCall) (d : Tenant) (event : AuditEvent) : Prop :=
  ∃ e t, c.callback d = (.error e, t) ∧ event.action ∈ blockedActions ∧ d.audit.count event < t.audit.count event

/-- The audit log after the call has every Blocked event that the call has recorded before it was refused. -/
def RefusalAudited (c : RefusableCall) (d : Tenant) : Prop :=
  ∀ event, RefusedAfterRecording c d event → d.audit.count event < (c.call d).2.audit.count event

def RefusableCall.Blocks : RefusableCall → Tenant → Prop
  | .assignCarrier _ q dto, d => ∃ rows c, CarrierSourcingTx.Reaches d.sourcing dto rows c ∧
      ineligibilityReasons q d.sourcing.carriers c ≠ []
  | .create _ dto, d => ∃ c ∈ d.sourcing.carriers.carriers.rows, c.mcNumber = dto.mcNumber ∨ c.dotNumber = dto.dotNumber
  | .deactivate q targetMembershipId, d =>
    MembershipService.LastAdmin ⟨q, targetMembershipId, .deactivate⟩ d.identity
  | .updateRoles q targetMembershipId dto, d =>
    MembershipService.LastAdmin ⟨q, targetMembershipId, .updateRoles dto⟩ d.identity

variable {c : RefusableCall} {d t : Tenant} {e : AppError} {event : AuditEvent}

lemma call_refused (h : c.callback d = (.error e, t)) : c.call d = (.error e, d) := by
  rw [RefusableCall.call, withTenantTransaction, h]

lemma call_membership {r : MembershipRequest} (hcallback : c.callback d = d.onIdentity (membershipCallback r)) :
    c.call d = d.onIdentity (MembershipService.call r) := by
  rw [RefusableCall.call, withTenantTransaction, hcallback, Tenant.onIdentity, Tenant.onIdentity, membershipCallback,
    MembershipService.call]
  rcases MembershipService.commit_assertHasRole r d.identity with ⟨hcommit, _⟩ | ⟨hcommit, _⟩
  · rw [hcommit]
    dsimp only
    rw [Txn.commit]
    rcases (MembershipService.transaction r).run IdentityDb.write d.identity with ⟨e | u, t⟩ <;> rfl
  · rw [hcommit]

def blockedIn (log : List AuditEvent) : List AuditEvent := log.filter (fun event => event.action ∈ blockedActions)

@[simp] lemma blockedIn_append (log later : List AuditEvent) :
    blockedIn (log ++ later) = blockedIn log ++ blockedIn later := List.filter_append ..

lemma count_blockedIn (hevent : event.action ∈ blockedActions) (log : List AuditEvent) :
    (blockedIn log).count event = log.count event := List.count_filter (decide_eq_true hevent)

def Unblocked (event : AuditEvent) : Prop := event.action ∉ blockedActions

lemma blockedIn_unblocked {log later : List AuditEvent} (h : ∀ event ∈ later, Unblocked event) :
    blockedIn (log ++ later) = blockedIn log := by
  have hnone : blockedIn later = [] :=
    List.filter_eq_nil_iff.mpr (fun event hevent hblocked => h event hevent (of_decide_eq_true hblocked))
  rw [blockedIn_append, hnone, List.append_nil]

lemma changeEvents_unblocked {carrierId : Uuid} {wasEligible eligible : Bool} :
    ∀ event ∈ Carriers.CarrierEligibilityService.changeEvents carrierId wasEligible eligible, Unblocked event := by
  intro event hevent
  unfold Carriers.CarrierEligibilityService.changeEvents at hevent
  split at hevent
  · obtain rfl := List.mem_singleton.mp hevent
    change "Assignment Eligibility Changed" ∉ blockedActions
    decide
  · exact absurd hevent List.not_mem_nil

lemma recalculated_blockedIn (q : Request) (d : CarrierDb) (c : Carriers.Carrier) :
    blockedIn (recalculated q d c).audit = blockedIn d.audit := blockedIn_unblocked changeEvents_unblocked

def IdentityUnblocked : IdentityWrite → Prop
  | .record event => Unblocked event
  | _ => True

def CarrierUnblocked : CarrierWrite → Prop
  | .record event => Unblocked event
  | _ => True

def SourcingUnblocked : SourcingWrite → Prop
  | .carriers w => CarrierUnblocked w
  | .record event => Unblocked event
  | _ => True

lemma identity_blockedIn {d : IdentityDb} {p : IdentityTx Unit} (hp : p.Writes IdentityUnblocked) :
    blockedIn (p.run IdentityDb.write d).2.audit = blockedIn d.audit := by
  refine hp.run IdentityDb.write (P := fun t => blockedIn t.audit = blockedIn d.audit) (fun w u hw hu => ?_) rfl
  cases w with
  | record event =>
    refine (blockedIn_unblocked fun event' hevent => ?_).trans hu
    rwa [List.mem_singleton.mp hevent]
  | _ => exact hu

lemma carriers_blockedIn {d : CarrierDb} {p : Carriers.CarrierTx Unit} (hp : p.Writes CarrierUnblocked) :
    blockedIn (p.run CarrierDb.write d).2.audit = blockedIn d.audit := by
  refine hp.run CarrierDb.write (P := fun t => blockedIn t.audit = blockedIn d.audit) (fun w u hw hu => ?_) rfl
  cases w with
  | record event =>
    refine (blockedIn_unblocked fun event' hevent => ?_).trans hu
    rwa [List.mem_singleton.mp hevent]
  | _ => exact hu

lemma change_unblocked (r : MembershipRequest) : (MembershipService.change r r.op >>= fun _ =>
    Txn.write (.record (r.event r.op.action .human))).Writes IdentityUnblocked := by
  refine .bind ?_ (fun _ => .write ?_)
  · cases r.op with
    | deactivate => exact .update trivial
    | updateRoles dto =>
      refine .bind (.read _) (fun rows => .bind ?_ (fun _ => ?_))
      · induction rows with
        | nil => exact .pure _
        | cons row rows ih => exact .bind (.update trivial) (fun _ => ih)
      · generalize 0 = n
        induction dto.roles generalizing n with
        | nil => exact .pure _
        | cons role roles ih => exact .bind (.insert trivial) (fun _ => ih (n + 1))
  · cases h : r.op with
    | deactivate =>
      change "User Deactivated" ∉ blockedActions
      decide
    | updateRoles dto =>
      change "Member Roles Changed" ∉ blockedActions
      decide

lemma membership_silent {r : MembershipRequest} {d : IdentityDb} (h : ¬ MembershipService.LastAdmin r d) :
    blockedIn (membershipCallback r d).2.audit = blockedIn d.audit := by
  rw [membershipCallback]
  rcases MembershipService.commit_assertHasRole r d with ⟨hcommit, hadmits⟩ | ⟨hcommit, _⟩
  · rw [hcommit]
    dsimp only
    rcases MembershipService.run_not_lastAdmin hadmits h with ⟨e, hrun⟩ | hrun
    · rw [hrun]
    · rw [hrun]
      exact identity_blockedIn (change_unblocked r)
  · rw [hcommit]

lemma create_silent {q : Request} {dto : CreateCarrierInput} {d : CarrierDb}
    (h : ¬ ∃ c ∈ d.carriers.rows, c.mcNumber = dto.mcNumber ∨ c.dotNumber = dto.dotNumber) :
    blockedIn ((CarrierService.create q dto).run CarrierDb.write d).2.audit = blockedIn d.audit := by
  have hnone : findFirst (q.order 0) (fun c => c.mcNumber == dto.mcNumber || c.dotNumber == dto.dotNumber)
      d.carriers.rows = none := by
    refine findFirst_none.mpr (fun c hc => ?_)
    by_contra hdup
    exact h ⟨c, hc, by simpa [or_iff_not_imp_left] using hdup⟩
  rw [CarrierService.create, Txn.run_bind, Txn.run_read]
  simp only [hnone]
  refine carriers_blockedIn (.bind (.pure _) (fun _ => .bind (Carriers.writes_assertCanCreateCarrier _) (fun _ => ?_)))
  refine .bind (.claim _ _ _) (fun _ => .bind (.claim _ _ _) (fun _ => .bind (.claim _ _ _) (fun _ => ?_)))
  refine .bind (.write trivial) (fun _ => .write ?_)
  change "Carrier Created" ∉ blockedActions
  decide

lemma sourcing_blockedIn {d : SourcingDb} {p : SourcingTx Unit} (hp : p.Writes SourcingUnblocked) :
    blockedIn (p.run SourcingDb.write d).2.carriers.audit = blockedIn d.carriers.audit ∧
      blockedIn (loadAudit (p.run SourcingDb.write d).2.load) = blockedIn (loadAudit d.load) := by
  refine hp.run SourcingDb.write (P := fun t => blockedIn t.carriers.audit = blockedIn d.carriers.audit ∧
    blockedIn (loadAudit t.load) = blockedIn (loadAudit d.load)) (fun w u hw hu => ?_) ⟨rfl, rfl⟩
  have hload (f : LoadRows → LoadRows) (hf : ∀ rows, blockedIn (f rows).audit = blockedIn rows.audit) :
      blockedIn (loadAudit (u.load.map f)) = blockedIn (loadAudit d.load) := by
    rw [← hu.2]
    cases u.load with
    | none => rfl
    | some rows => exact hf rows
  cases w with
  | carriers w =>
    refine ⟨?_, hu.2⟩
    cases w with
    | record event =>
      refine (blockedIn_unblocked fun event' hevent => ?_).trans hu.1
      rwa [List.mem_singleton.mp hevent]
    | _ => exact hu.1
  | record event =>
    refine ⟨hu.1, hload _ (fun rows => blockedIn_unblocked fun event' hevent => ?_)⟩
    rwa [List.mem_singleton.mp hevent]
  | _ => exact ⟨hu.1, hload _ (fun _ => rfl)⟩

lemma assign_unblocked (r : Reference) (q : Request) (dto : AssignCarrierInput) (rows : LoadRows) (carrier : Carrier) :
    (CarrierSourcingTx.assign r q dto rows carrier).Writes SourcingUnblocked := by
  refine .bind (.ensure _ _) (fun _ => .bind (.write trivial) (fun _ => .bind (.update trivial) (fun _ => ?_)))
  refine .bind ?_ (fun _ => .bind (.write ?_) (fun _ => .bind (.read _) (fun sent => ?_)))
  · unfold CarrierSourcingTx.createOriginalCarrierLinehaulCharge
    split
    · exact .pure _
    · exact .write trivial
  · change "Carrier Assigned" ∉ blockedActions
    decide
  · split
    · exact .pure _
    · exact .write trivial

lemma assignCarrier_silent {r : Reference} {q : Request} {dto : AssignCarrierInput} {d : SourcingDb}
    (h : ¬ ∃ rows c, CarrierSourcingTx.Reaches d dto rows c ∧ ineligibilityReasons q d.carriers c ≠ []) :
    blockedIn ((CarrierSourcingTx.assignCarrier r q dto).run SourcingDb.write d).2.carriers.audit =
        blockedIn d.carriers.audit ∧
      blockedIn (loadAudit ((CarrierSourcingTx.assignCarrier r q dto).run SourcingDb.write d).2.load) =
        blockedIn (loadAudit d.load) := by
  by_cases hreaches : ∃ rows c, CarrierSourcingTx.Reaches d dto rows c
  · obtain ⟨rows, c, hreaches⟩ := hreaches
    have hreasons : ineligibilityReasons q d.carriers c = [] := by
      by_contra hne
      exact h ⟨rows, c, hreaches, hne⟩
    rw [CarrierSourcingTx.run_reaches hreaches, hreasons]
    have hassign := sourcing_blockedIn (d := { d with carriers := recalculated q d.carriers c })
      (assign_unblocked r q dto rows (d.contact c.id))
    exact ⟨hassign.1.trans (recalculated_blockedIn q d.carriers c), hassign.2⟩
  · push Not at hreaches
    obtain ⟨e, hrun, _⟩ := CarrierSourcingTx.run_not_reached (r := r) (q := q) hreaches
    rw [hrun]
    exact ⟨rfl, rfl⟩

lemma blockedIn_audit (d : Tenant) : blockedIn d.audit =
    blockedIn d.identity.audit ++ blockedIn d.sourcing.carriers.audit ++ blockedIn (loadAudit d.sourcing.load) := by
  rw [Tenant.audit, blockedIn_append, blockedIn_append]

lemma callback_silent (h : ¬ c.Blocks d) : blockedIn (c.callback d).2.audit = blockedIn d.audit := by
  rw [blockedIn_audit, blockedIn_audit]
  cases c with
  | assignCarrier r q dto =>
    obtain ⟨hcarriers, hload⟩ := assignCarrier_silent (r := r) h
    simp only [RefusableCall.callback, Tenant.onSourcing, hcarriers, hload]
  | create q dto =>
    have hcarriers := create_silent (q := q) h
    simp only [RefusableCall.callback, Tenant.onCarriers, Tenant.onSourcing, hcarriers]
  | deactivate q targetMembershipId =>
    have hidentity := membership_silent h
    simp only [RefusableCall.callback, Tenant.onIdentity, hidentity]
  | updateRoles q targetMembershipId dto =>
    have hidentity := membership_silent h
    simp only [RefusableCall.callback, Tenant.onIdentity, hidentity]

lemma membership_blocked {r : MembershipRequest} {d : IdentityDb} (h : MembershipService.LastAdmin r d) :
    ∃ e, membershipCallback r d = (.error e, d.write (.record (r.event r.op.blockedAction .system))) := by
  obtain ⟨e, hrun⟩ := MembershipService.run_lastAdmin h
  refine ⟨e, ?_⟩
  rcases MembershipService.commit_assertHasRole r d with ⟨hcommit, _⟩ | ⟨_, hnot⟩
  · rw [membershipCallback, hcommit]
    exact hrun
  · exact absurd h.admits hnot

lemma refused_of (hanswer : (c.callback d).1 = .error e) (hblocked : event.action ∈ blockedActions)
    (haudit : (blockedIn (c.callback d).2.audit).count event = (blockedIn d.audit).count event + 1) :
    RefusedAfterRecording c d event := by
  refine ⟨e, (c.callback d).2, Prod.ext hanswer rfl, hblocked, ?_⟩
  rw [← count_blockedIn hblocked d.audit, ← count_blockedIn hblocked (c.callback d).2.audit, haudit]
  exact Nat.lt_succ_self _

lemma blockedIn_record {log : List AuditEvent} (hblocked : event.action ∈ blockedActions) :
    blockedIn (log ++ [event]) = blockedIn log ++ [event] := by
  rw [blockedIn_append]
  exact congrArg _ (List.filter_eq_self.mpr (by simpa using hblocked))

lemma membership_refused {r : MembershipRequest} (h : MembershipService.LastAdmin r d.identity)
    (hcallback : c.callback d = d.onIdentity (membershipCallback r)) :
    RefusedAfterRecording c d (r.event r.op.blockedAction .system) := by
  obtain ⟨e, hrun⟩ := membership_blocked h
  have hblocked : (r.event r.op.blockedAction .system).action ∈ blockedActions := by
    change r.op.blockedAction ∈ blockedActions
    cases r.op with
    | deactivate => simp [MembershipOp.blockedAction, blockedActions]
    | updateRoles dto => simp [MembershipOp.blockedAction, blockedActions]
  have hended : c.callback d = (.error e,
      { d with identity := d.identity.write (.record (r.event r.op.blockedAction .system)) }) := by
    rw [hcallback, Tenant.onIdentity, hrun]
  refine refused_of (congrArg Prod.fst hended) hblocked ?_
  rw [hended, blockedIn_audit, blockedIn_audit]
  simp only [IdentityDb.write, blockedIn_record hblocked, List.count_append, List.count_singleton_self]
  omega

lemma callback_blocks (h : c.Blocks d) : ∃ event, RefusedAfterRecording c d event := by
  cases c with
  | assignCarrier r q dto =>
    obtain ⟨rows, carrier, hreaches, hreasons⟩ := h
    obtain ⟨e, hrun⟩ := CarrierSourcingTx.run_ineligible (r := r) hreaches hreasons
    have hblocked : (CarrierSourcingTx.blockedEvent rows.load.id).action ∈ blockedActions := by
      change "Carrier Assignment Blocked — Ineligible" ∈ blockedActions
      decide
    have hended := congrArg (fun x => (x.1, { d with sourcing := x.2 })) hrun
    refine ⟨CarrierSourcingTx.blockedEvent rows.load.id, refused_of (congrArg Prod.fst hended) hblocked ?_⟩
    rw [show (RefusableCall.assignCarrier r q dto).callback d = _ from hended, blockedIn_audit, blockedIn_audit]
    simp only [recalculated_blockedIn, hreaches.load, loadAudit, Option.elim_some, LoadRows.record,
      blockedIn_record hblocked, List.count_append, List.count_singleton_self]
    omega
  | create q dto =>
    obtain ⟨carrier, hmem, hdup⟩ := h
    cases hfound : findFirst (q.order 0) (fun c => c.mcNumber == dto.mcNumber || c.dotNumber == dto.dotNumber)
      d.sourcing.carriers.carriers.rows with
    | none => exact absurd hdup (by simpa using findFirst_none.mp hfound carrier hmem)
    | some found =>
      obtain ⟨e, hrun⟩ := Carriers.create_duplicate (q := q) hfound
      have hblocked : (Carriers.duplicateEvent q found).action ∈ blockedActions := by
        change "Carrier Creation Blocked — Duplicate MC/DOT" ∈ blockedActions
        decide
      have hended := congrArg (fun x => (x.1, { d with sourcing := { d.sourcing with carriers := x.2 } })) hrun
      refine ⟨Carriers.duplicateEvent q found, refused_of (congrArg Prod.fst hended) hblocked ?_⟩
      rw [show (RefusableCall.create q dto).callback d = _ from hended, blockedIn_audit, blockedIn_audit]
      simp only [CarrierDb.write, blockedIn_record hblocked, List.count_append, List.count_singleton_self]
      omega
  | deactivate q targetMembershipId => exact ⟨_, membership_refused h rfl⟩
  | updateRoles q targetMembershipId dto => exact ⟨_, membership_refused h rfl⟩

theorem refusal_audited_iff (c : RefusableCall) (d : Tenant) : RefusalAudited c d ↔ ¬ c.Blocks d := by
  constructor
  · intro h hblocks
    obtain ⟨event, hevent⟩ := callback_blocks hblocks
    have hlogged := h event hevent
    obtain ⟨e, t, hcallback, _⟩ := hevent
    rw [call_refused hcallback] at hlogged
    exact absurd hlogged (lt_irrefl _)
  · rintro hblocks event ⟨e, t, hcallback, hblocked, hcount⟩
    have hsilent := callback_silent hblocks
    rw [hcallback] at hsilent
    rw [← count_blockedIn hblocked d.audit, ← count_blockedIn hblocked t.audit, hsilent] at hcount
    exact absurd hcount (lt_irrefl _)

namespace Sample

def tenant : Tenant where
  identity := { memberships := .empty, roles := [], audit := [] }
  sourcing := { carriers := Carriers.Sample.compliant, contact := fun _ => ⟨"", ""⟩, load := none }

def duplicate : RefusableCall := .create (Carriers.Sample.request 1) { mcNumber := "MC-5", dotNumber := "DOT-9" }

end Sample

theorem blocked_event_rolled_back : ∃ event, RefusedAfterRecording Sample.duplicate Sample.tenant event ∧
    event ∉ (Sample.duplicate.call Sample.tenant).2.audit := by
  refine ⟨Carriers.duplicateEvent (Carriers.Sample.request 1) { id := 5, mcNumber := "MC-5", dotNumber := "DOT-5" },
    ⟨⟨.conflict, "A carrier with this MC number or DOT number already exists.", ["5"]⟩,
      (Sample.duplicate.callback Sample.tenant).2, Prod.ext rfl rfl, by decide, by decide⟩, by decide⟩

end Truckmaster.Audit
