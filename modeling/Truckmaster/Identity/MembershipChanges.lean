import Truckmaster.Identity.MembershipSessions
import Truckmaster.Library.Transactions

namespace Truckmaster.Identity

open Common Fallible ReadCommitted Runs Tables Transactions

abbrev IdentityTx := Txn IdentityDb IdentityRow IdentityWrite AppError

namespace MembershipService

variable (r : MembershipRequest)

def assertHasRole : IdentityTx Unit := do
  let found ← Txn.read (fun d => d.findActive (r.q.order 0) r.q.actingUserId)
  let membership ← Txn.require found notAdmin
  let roles ← Txn.read (fun d => (d.rolesOf (r.q.order 1) membership.id).map MembershipRole.role)
  Txn.ensure (.admin ∈ roles) notAdmin

def requireMembership : IdentityTx OrganizationMembership := do
  let found ← Txn.read r.requireMembership
  found

def refuseLastAdmin (target : OrganizationMembership) (roles : List MembershipRoleName) : IdentityTx Unit :=
  if .admin ∈ roles ∧ r.op.takesAdmin then do
    let otherActiveAdminCount ← Txn.read (fun d => d.otherActiveAdminCount target.id)
    if otherActiveAdminCount = 0 then do
      Txn.write (.record (r.event r.op.blockedAction .system))
      Txn.throw (r.op.lastAdmin (target.userId == r.q.actingUserId))
    else pure ()
  else pure ()

def deleteRoles : List MembershipRole → IdentityTx Unit
  | [] => pure ()
  | row :: pending => do
    Txn.update (.role row.membershipId row.role) (.deleteRole row)
    deleteRoles pending

def createRole (row : MembershipRole) : IdentityTx Unit :=
  Txn.insert (.role row.membershipId row.role) (fun d => d.roles.any (fun old =>
    old.id == row.id || (old.membershipId == row.membershipId && old.role == row.role))) (.insertRole row)
    (.database "Unique constraint failed.")

def createRoles : ℕ → List MembershipRoleName → IdentityTx Unit
  | _, [] => pure ()
  | n, role :: pending => do
    createRole ⟨r.q.uuid n, r.targetId, role⟩
    createRoles (n + 1) pending

def change : MembershipOp → IdentityTx Unit
  | .deactivate => Txn.update (.membership r.targetId) (.setInactive r.q r.targetId)
  | .updateRoles dto => do
    let rows ← Txn.read (fun d => d.rolesOf (r.q.order 4) r.targetId)
    deleteRoles rows
    createRoles r 0 dto.roles

/-- What deactivate and updateRoles do in their tenant transaction. -/
def transaction : IdentityTx Unit := do
  let target ← requireMembership r
  let roles ← Txn.read (fun d => (d.rolesOf (r.q.order 3) target.id).map MembershipRole.role)
  refuseLastAdmin r target roles
  change r r.op
  Txn.write (.record (r.event r.op.action .human))

def admitted : Except AppError Unit → MembershipFrame
  | .ok _ => .requireMembership r
  | .error e => .done (some e)

def finished : Except AppError Unit → MembershipFrame
  | .ok _ => .done none
  | .error e => .done (some e)

variable {r}

lemma performs_assertHasRole (r : MembershipRequest) :
    Performs membershipCode (admitted r) (.assertHasRole r) (assertHasRole r) := by
  refine .read (fun d => ?_)
  cases hfound : d.findActive (r.q.order 0) r.q.actingUserId with
  | none =>
    refine ⟨.rollback notAdmin, ?_, Performs.throw rfl⟩
    simp only [membershipCode, membershipStatement, Action.moves, hfound]
  | some m =>
    refine ⟨.includeRoles r m.id, ?_, .read (fun d => ?_)⟩
    · simp only [membershipCode, membershipStatement, Action.moves, hfound]
    · by_cases hadmin : .admin ∈ (d.rolesOf (r.q.order 1) m.id).map MembershipRole.role
      · refine ⟨.asserted r, congrArg (fun f => some (f, [])) (if_pos hadmin), ?_⟩
        rw [Txn.ensure_of hadmin]
        exact .done rfl
      · refine ⟨.rollback notAdmin, congrArg (fun f => some (f, [])) (if_neg hadmin), ?_⟩
        rw [Txn.ensure_not hadmin]
        exact .throw rfl

lemma performs_record (r : MembershipRequest) : Performs membershipCode finished (.recordAction r)
    (Txn.write (.record (r.event r.op.action .human))) :=
  .moves (fun _ => ⟨.commit r, rfl, .done rfl⟩)

lemma performs_createRoles (r : MembershipRequest) (dto : UpdateMembershipRolesInput) (n : ℕ)
    (pending : List MembershipRoleName) : Performs membershipCode finished (.createRoles r dto n pending)
      (createRoles r n pending >>= fun _ => Txn.write (.record (r.event r.op.action .human))) := by
  induction pending generalizing n with
  | nil => exact .silent (fun _ => rfl) (performs_record r)
  | cons role pending ih =>
    rw [createRoles, Txn.bind_assoc]
    refine .insert (.rollback (.database "Unique constraint failed.")) (fun d => ?_) rfl (ih (n + 1))
    simp only [membershipCode, membershipStatement, Action.moves]
    split <;> rfl

lemma performs_deleteRoles (r : MembershipRequest) (dto : UpdateMembershipRolesInput)
    (pending : List MembershipRole) : Performs membershipCode finished (.deleteRoles r dto pending)
      (deleteRoles pending >>= fun _ => createRoles r 0 dto.roles >>= fun _ =>
        Txn.write (.record (r.event r.op.action .human))) := by
  induction pending with
  | nil => exact .silent (fun _ => rfl) (performs_createRoles r dto 0 dto.roles)
  | cons row pending ih =>
    rw [deleteRoles, Txn.bind_assoc]
    exact .update (fun _ => rfl) ih

lemma performs_change (r : MembershipRequest) : Performs membershipCode finished r.writing
    (change r r.op >>= fun _ => Txn.write (.record (r.event r.op.action .human))) := by
  unfold MembershipRequest.writing
  cases hop : r.op with
  | deactivate => exact .update (fun _ => rfl) (hop ▸ performs_record r)
  | updateRoles dto =>
    rw [change, Txn.bind_assoc]
    refine .read (fun d => ⟨_, rfl, ?_⟩)
    rw [Txn.bind_assoc]
    exact hop ▸ performs_deleteRoles r dto _

lemma performs_refuseLastAdmin (r : MembershipRequest) (target : OrganizationMembership)
    (roles : List MembershipRoleName) :
    Performs membershipCode finished (if .admin ∈ roles ∧ r.op.takesAdmin then .countAdmins r target else r.writing)
      (refuseLastAdmin r target roles >>= fun _ => change r r.op >>= fun _ =>
        Txn.write (.record (r.event r.op.action .human))) := by
  unfold refuseLastAdmin
  split
  · rw [Txn.bind_assoc]
    refine .read (fun d => ?_)
    by_cases hlast : d.otherActiveAdminCount target.id = 0
    · refine ⟨.recordBlocked r target, congrArg (fun f => some (f, [])) (if_pos hlast), ?_⟩
      rw [if_pos hlast, Txn.bind_assoc]
      exact .write (fun _ => rfl) (.throw rfl)
    · refine ⟨r.writing, congrArg (fun f => some (f, [])) (if_neg hlast), ?_⟩
      rw [if_neg hlast]
      exact performs_change r
  · exact performs_change r

lemma performs_transaction (r : MembershipRequest) :
    Performs membershipCode finished (.requireMembership r) (transaction r) := by
  rw [transaction, requireMembership, Txn.bind_assoc]
  refine .read (fun d => ?_)
  cases hfound : r.requireMembership d with
  | error e =>
    refine ⟨.rollback e, ?_, Performs.throw rfl⟩
    simp only [membershipCode, membershipStatement, Action.moves, hfound]
  | ok target =>
    refine ⟨.findRoles r target, ?_, .read (fun d => ⟨_, rfl, performs_refuseLastAdmin r target _⟩)⟩
    simp only [membershipCode, membershipStatement, Action.moves, hfound]

/-- The whole request: the transaction of assertHasRole, and the tenant transaction if it admits the user. -/
def call (r : MembershipRequest) (d : IdentityDb) : Except AppError Unit × IdentityDb :=
  match (assertHasRole r).commit IdentityDb.write d with
  | (.ok _, t) => (transaction r).commit IdentityDb.write t
  | (.error e, t) => (.error e, t)

theorem call_run {I : Type} [DecidableEq I] (requests : I → MembershipRequest) (i : I) (d : IdentityDb) :
    ∃ n s, Run (Enabled (step membershipCode)) (begin d (fun i => .assertHasRole (requests i)))
        (List.replicate n (.advance i)) s ∧
      s.committed = (call (requests i) d).2 ∧ s.session i = ⟨finished (call (requests i) d).1, []⟩ := by
  have halone := (performs_assertHasRole (requests i)).alone d
  obtain ⟨n, s, hfirst, hcommitted, hsession, hfree⟩ := halone.run
    (s := begin d (fun i => .assertHasRole (requests i))) rfl rfl (fun _ => Or.inl rfl)
  unfold call
  rcases hassert : (assertHasRole (requests i)).commit membershipCode.apply d with ⟨e | ok, d'⟩
  · rw [hassert] at hcommitted hsession
    refine ⟨n, s, hfirst, ?_⟩
    rw [show (assertHasRole (requests i)).commit IdentityDb.write d = (.error e, d') from hassert]
    exact ⟨hcommitted, hsession⟩
  · rw [hassert] at hcommitted hsession
    have htransaction := (performs_transaction (requests i)).alone d'
    obtain ⟨m, t, hsecond, hend, hlast, _⟩ := htransaction.run hcommitted hsession (fun row => Or.inl (hfree row))
    refine ⟨n + m, t, List.replicate_add .. ▸ hfirst.append hsecond, ?_⟩
    rw [show (assertHasRole (requests i)).commit IdentityDb.write d = (.ok ok, d') from hassert]
    exact ⟨hend, hlast⟩

section LastAdmin

variable {d t : IdentityDb} {target : OrganizationMembership} {x : Except AppError Unit}

def IsAdmin (d : IdentityDb) (membershipId : Uuid) : Prop :=
  ∃ row ∈ d.roles, row.membershipId = membershipId ∧ row.role = .admin

lemma isAdmin_iff (o : RowOrder) (d : IdentityDb) (membershipId : Uuid) :
    .admin ∈ (d.rolesOf o membershipId).map MembershipRole.role ↔ IsAdmin d membershipId := by
  simp only [IdentityDb.rolesOf, List.mem_map, mem_findMany, beq_iff_eq, and_assoc, IsAdmin]

def Admits (r : MembershipRequest) (d : IdentityDb) : Prop :=
  ∃ m ∈ d.findActive (r.q.order 0) r.q.actingUserId, IsAdmin d m.id

structure LastAdmin (r : MembershipRequest) (d : IdentityDb) : Prop where
  admits : Admits r d
  takes : r.op.takesAdmin = true
  active : d.IsActive r.targetId
  admin : IsAdmin d r.targetId
  last : d.otherActiveAdminCount r.targetId = 0

lemma commit_assertHasRole (r : MembershipRequest) (d : IdentityDb) :
    (assertHasRole r).commit IdentityDb.write d = (.ok (), d) ∧ Admits r d ∨
      (assertHasRole r).commit IdentityDb.write d = (.error notAdmin, d) ∧ ¬ Admits r d := by
  cases hfound : d.findActive (r.q.order 0) r.q.actingUserId with
  | none =>
    refine Or.inr ⟨?_, by rintro ⟨m, hm, _⟩; exact absurd (hfound.symm.trans hm) nofun⟩
    simp only [Txn.commit, assertHasRole, Txn.run_bind, Txn.run_read, hfound, Txn.run_require, require,
      Option.elim_none]
  | some m =>
    have hadmits : Admits r d ↔ IsAdmin d m.id := by simp [Admits, hfound]
    by_cases hadmin : IsAdmin d m.id
    · refine Or.inl ⟨?_, hadmits.mpr hadmin⟩
      simp only [Txn.commit, assertHasRole, Txn.run_bind, Txn.run_read, hfound, Txn.run_require, require,
        Option.elim_some, Txn.run_ensure, ensure_of ((isAdmin_iff (r.q.order 1) d m.id).mpr hadmin)]
    · refine Or.inr ⟨?_, fun h => hadmin (hadmits.mp h)⟩
      simp only [Txn.commit, assertHasRole, Txn.run_bind, Txn.run_read, hfound, Txn.run_require, require,
        Option.elim_some, Txn.run_ensure, ensure, if_neg (fun h => hadmin ((isAdmin_iff (r.q.order 1) d m.id).mp h))]

lemma requireMembership_ok (h : r.requireMembership d = .ok target) :
    target ∈ d.memberships.rows ∧ target.id = r.targetId ∧ target.status = .active := by
  simp only [MembershipRequest.requireMembership, bind_eq_ok, require_eq_ok, ensure_eq_ok, pure_eq_ok] at h
  obtain ⟨_, hfound, _, hactive, rfl⟩ := h
  obtain ⟨hmem, hid⟩ := findFirst_some hfound
  exact ⟨hmem, beq_iff_eq.mp hid, hactive⟩

lemma requireMembership_of (h : d.IsActive r.targetId) : ∃ target, r.requireMembership d = .ok target := by
  obtain ⟨m, hm, hid, hactive⟩ := h
  cases hfound : findFirst (r.q.order 2) (fun m => m.id == r.targetId) d.memberships.rows with
  | none => exact absurd hid (by simpa using findFirst_none.mp hfound m hm)
  | some m' =>
    obtain ⟨hm', hid'⟩ := findFirst_some hfound
    obtain rfl := d.memberships.eq_of_key hm hm' (hid.trans (beq_iff_eq.mp hid').symm)
    refine ⟨m, ?_⟩
    simp only [MembershipRequest.requireMembership, hfound, require, Option.elim_some, ok_bind, ensure_of hactive]
    rfl

lemma run_transaction (h : r.requireMembership d = .ok target) :
    (transaction r).run IdentityDb.write d =
      (refuseLastAdmin r target ((d.rolesOf (r.q.order 3) target.id).map MembershipRole.role) >>= fun _ =>
        change r r.op >>= fun _ => Txn.write (.record (r.event r.op.action .human))).run IdentityDb.write d := by
  rw [transaction, requireMembership, Txn.bind_assoc, Txn.run_bind, Txn.run_read]
  simp only [h]
  rfl

lemma run_lastAdmin (h : LastAdmin r d) : ∃ e, (transaction r).run IdentityDb.write d =
    (.error e, d.write (.record (r.event r.op.blockedAction .system))) := by
  obtain ⟨target, htarget⟩ := requireMembership_of h.active
  obtain ⟨_, hid, _⟩ := requireMembership_ok htarget
  have hholds := (isAdmin_iff (r.q.order 3) d target.id).mpr (hid ▸ h.admin)
  refine ⟨r.op.lastAdmin (target.userId == r.q.actingUserId), ?_⟩
  rw [run_transaction htarget, refuseLastAdmin, if_pos ⟨hholds, h.takes⟩]
  simp only [Txn.run_bind, Txn.run_read, hid, h.last, if_true, Txn.run_write, Txn.run_throw]

lemma run_not_lastAdmin (hadmits : Admits r d) (h : ¬ LastAdmin r d) :
    (∃ e, (transaction r).run IdentityDb.write d = (.error e, d)) ∨
      (transaction r).run IdentityDb.write d = (change r r.op >>= fun _ =>
        Txn.write (.record (r.event r.op.action .human))).run IdentityDb.write d := by
  cases hfound : r.requireMembership d with
  | error e =>
    refine Or.inl ⟨e, ?_⟩
    rw [transaction, requireMembership, Txn.bind_assoc, Txn.run_bind, Txn.run_read]
    simp only [hfound]
    rfl
  | ok target =>
    obtain ⟨hmem, hid, hactive⟩ := requireMembership_ok hfound
    right
    rw [run_transaction hfound, refuseLastAdmin]
    split_ifs with hholds
    · have hother : d.otherActiveAdminCount target.id ≠ 0 := fun hlast => h
        ⟨hadmits, hholds.2, ⟨target, hmem, hid, hactive⟩, hid ▸ (isAdmin_iff (r.q.order 3) d target.id).mp hholds.1,
          hid ▸ hlast⟩
      rw [Txn.run_bind, Txn.run_bind, Txn.run_read]
      simp only [if_neg hother, Txn.run_pure]
    · rfl

end LastAdmin

end MembershipService

end Truckmaster.Identity
