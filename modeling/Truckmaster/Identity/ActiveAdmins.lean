import Truckmaster.Identity.MembershipSessions

namespace Truckmaster.Identity

open Common Fallible ReadCommitted Runs Tables

variable {I : Type*} [DecidableEq I] {d : IdentityDb} {r : MembershipRequest} {dto : UpdateMembershipRolesInput}
  {ws : List IdentityWrite}

namespace IdentityDb

def HasAdmin (d : IdentityDb) : Prop := ∃ row ∈ d.roles, row.role = .admin ∧ d.IsActive row.membershipId

def HoldsAdmin (d : IdentityDb) (id : Uuid) : Prop :=
  d.IsActive id ∧ ∃ row ∈ d.roles, row.membershipId = id ∧ row.role = .admin

lemma otherActiveAdmin {id : Uuid} (h : d.otherActiveAdminCount id ≠ 0) :
    ∃ row ∈ d.roles, row.role = .admin ∧ d.IsActive row.membershipId ∧ row.membershipId ≠ id := by
  obtain ⟨row, hrow, hcounted⟩ := List.countP_pos_iff.mp (Nat.pos_of_ne_zero h)
  exact ⟨row, hrow, of_decide_eq_true hcounted⟩

lemma isActive_setInactive {q : Request} {id k : Uuid} (h : d.IsActive id) (hk : id ≠ k) :
    (write (.setInactive q k) d).IsActive id := by
  obtain ⟨m, hm, rfl, hactive⟩ := h
  exact ⟨m, (Table.mem_update d.memberships k _ (deactivated_id q)).mpr (Or.inr ⟨hm, hk⟩), rfl, hactive⟩

end IdentityDb

open IdentityDb

lemma applyAll_deletes (rows : List MembershipRole) (d : IdentityDb) :
    membershipCode.applyAll (rows.map .deleteRole) d = { d with roles := d.roles.filter (fun row => row ∉ rows) } := by
  induction rows generalizing d with
  | nil => simp
  | cons row rows ih =>
    refine (ih (write (.deleteRole row) d)).trans ?_
    simp [write, List.filter_filter, Bool.and_comm]

lemma applyAll_inserts (rows : List MembershipRole) (d : IdentityDb) :
    membershipCode.applyAll (rows.map .insertRole) d = { d with roles := d.roles ++ rows } := by
  induction rows generalizing d with
  | nil => simp
  | cons row rows ih =>
    refine (ih (write (.insertRole row) d)).trans ?_
    simp [write]

def Deleting (r : MembershipRequest) (ws : List IdentityWrite) (pending : List MembershipRole) : Prop :=
  ∃ deleted : List MembershipRole, ws = deleted.map .deleteRole ∧
    ∀ row ∈ deleted ++ pending, row.membershipId = r.targetId

def Replacing (r : MembershipRequest) (dto : UpdateMembershipRolesInput) (ws : List IdentityWrite)
    (pending : List MembershipRoleName) : Prop :=
  ∃ deleted inserted : List MembershipRole, ws = deleted.map .deleteRole ++ inserted.map .insertRole ∧
    (∀ row ∈ deleted ++ inserted, row.membershipId = r.targetId) ∧
    dto.roles = inserted.map MembershipRole.role ++ pending

def Written (r : MembershipRequest) (ws : List IdentityWrite) : Prop :=
  match r.op with
  | .deactivate => ws = [.setInactive r.q r.targetId]
  | .updateRoles dto => Replacing r dto ws []

def Held (x : Session MembershipFrame IdentityWrite) : Prop :=
  match x.frame with
  | .updateMembership r => x.writes = [] ∧ r.op = .deactivate
  | .findOldRoles r dto => x.writes = [] ∧ r.op = .updateRoles dto
  | .deleteRoles r dto pending => r.op = .updateRoles dto ∧ Deleting r x.writes pending
  | .createRoles r dto _ pending => r.op = .updateRoles dto ∧ Replacing r dto x.writes pending
  | .recordAction r => Written r x.writes
  | .commit r => ∃ ws e, x.writes = ws ++ [.record e] ∧ Written r ws
  | .rollback _ => True
  | .done _ => True
  | _ => x.writes = []

lemma held_writing (r : MembershipRequest) : Held ⟨r.writing, []⟩ := by
  unfold MembershipRequest.writing
  cases hop : r.op with
  | deactivate => exact ⟨rfl, hop⟩
  | updateRoles dto => exact ⟨rfl, hop⟩

lemma held_statement {frame : MembershipFrame} {next : MembershipFrame × List IdentityWrite} (h : Held ⟨frame, ws⟩)
    (hnext : (membershipStatement frame).moves (membershipCode.applyAll ws d) = some next) :
    Held ⟨next.1, ws ++ next.2⟩ := by
  cases frame with
  | assertHasRole r =>
    obtain rfl : ws = [] := h
    obtain rfl := Option.some.inj hnext
    dsimp only
    split <;> trivial
  | includeRoles r membershipId =>
    obtain rfl : ws = [] := h
    obtain rfl := Option.some.inj hnext
    dsimp only
    split <;> trivial
  | asserted r => cases hnext
  | requireMembership r =>
    obtain rfl : ws = [] := h
    obtain rfl := Option.some.inj hnext
    dsimp only
    split <;> trivial
  | findRoles r target =>
    obtain rfl : ws = [] := h
    obtain rfl := Option.some.inj hnext
    dsimp only
    split
    · trivial
    · exact held_writing r
  | countAdmins r target =>
    obtain rfl : ws = [] := h
    obtain rfl := Option.some.inj hnext
    dsimp only
    split
    · trivial
    · exact held_writing r
  | recordBlocked r target =>
    obtain rfl := Option.some.inj hnext
    trivial
  | updateMembership r =>
    obtain ⟨rfl, hop⟩ : ws = [] ∧ _ := h
    obtain rfl := Option.some.inj hnext
    simp [Held, Written, hop]
  | findOldRoles r dto =>
    obtain ⟨rfl, hop⟩ : ws = [] ∧ _ := h
    obtain rfl := Option.some.inj hnext
    refine ⟨hop, [], rfl, fun row hrow => ?_⟩
    exact eq_of_beq (mem_findMany.mp hrow).2
  | deleteRoles r dto pending =>
    obtain ⟨hop, deleted, rfl, htarget⟩ := h
    cases pending with
    | nil =>
      obtain rfl := Option.some.inj hnext
      exact ⟨hop, deleted, [], by simp, htarget, rfl⟩
    | cons row pending =>
      obtain rfl := Option.some.inj hnext
      exact ⟨hop, deleted ++ [row], by simp, by simpa using htarget⟩
  | createRoles r dto n pending =>
    obtain ⟨hop, deleted, inserted, rfl, htarget, hroles⟩ := h
    cases pending with
    | nil =>
      obtain rfl := Option.some.inj hnext
      simp only [Held, Written, hop]
      exact ⟨deleted, inserted, by simp, htarget, hroles⟩
    | cons role pending =>
      obtain rfl := Option.some.inj hnext
      dsimp only
      split
      · trivial
      · refine ⟨hop, deleted, inserted ++ [⟨r.q.uuid n, r.targetId, role⟩], by simp, ?_, by simp [hroles]⟩
        intro row hrow
        rw [← List.append_assoc, List.mem_append, List.mem_singleton] at hrow
        rcases hrow with hold | rfl
        · exact htarget row hold
        · rfl
  | recordAction r =>
    obtain rfl := Option.some.inj hnext
    exact ⟨ws, _, rfl, h⟩
  | commit r => cases hnext
  | rollback e => cases hnext
  | done e => cases hnext

omit [DecidableEq I] in
lemma knows : Knows membershipCode (fun (_ : I) (_ : IdentityDb) => Held) where
  stable _ _ _ _ h := h
  statement _ _ _ _ _ h hnext := held_statement h hnext
  ending := by
    rintro i d f ws next h (hend | rfl)
    · cases f with
      | asserted r =>
        obtain rfl := Option.some.inj hend
        rfl
      | commit r =>
        obtain rfl := Option.some.inj hend
        trivial
      | rollback e =>
        obtain rfl := Option.some.inj hend
        trivial
      | deleteRoles r dto pending => cases pending <;> cases hend
      | createRoles r dto n pending => cases pending <;> cases hend
      | _ => cases hend
    · trivial

lemma applyAll_replacing {pending : List MembershipRoleName} (h : Replacing r dto ws pending) (d : IdentityDb) :
    ∃ deleted inserted : List MembershipRole, (∀ row ∈ deleted ++ inserted, row.membershipId = r.targetId) ∧
      dto.roles = inserted.map MembershipRole.role ++ pending ∧ membershipCode.applyAll ws d =
        { d with roles := d.roles.filter (fun row => row ∉ deleted) ++ inserted } := by
  obtain ⟨deleted, inserted, rfl, htarget, hroles⟩ := h
  refine ⟨deleted, inserted, htarget, hroles, ?_⟩
  rw [Code.applyAll_append, applyAll_deletes, applyAll_inserts]

lemma written_other (h : Written r ws) {row : MembershipRole} (hrow : row ∈ d.roles)
    (hactive : d.IsActive row.membershipId) (hother : row.membershipId ≠ r.targetId) :
    row ∈ (membershipCode.applyAll ws d).roles ∧ (membershipCode.applyAll ws d).IsActive row.membershipId := by
  unfold Written at h
  cases hop : r.op with
  | deactivate =>
    rw [hop] at h
    obtain rfl := h
    exact ⟨hrow, isActive_setInactive hactive hother⟩
  | updateRoles dto =>
    rw [hop] at h
    obtain ⟨deleted, inserted, htarget, _, heq⟩ := applyAll_replacing h d
    rw [heq]
    refine ⟨List.mem_append_left _ (List.mem_filter.mpr ⟨hrow, ?_⟩), hactive⟩
    exact decide_eq_true (fun hmem => hother (htarget row (List.mem_append_left _ hmem)))

lemma written_target (h : Written r ws) (hkeeps : r.op.takesAdmin = false) (hactive : d.IsActive r.targetId) :
    (membershipCode.applyAll ws d).HasAdmin := by
  unfold Written at h
  cases hop : r.op with
  | deactivate => simp [hop, MembershipOp.takesAdmin] at hkeeps
  | updateRoles dto =>
    rw [hop] at h
    obtain ⟨deleted, inserted, htarget, hroles, heq⟩ := applyAll_replacing h d
    have hadmin : MembershipRoleName.admin ∈ dto.roles := by simpa [hop, MembershipOp.takesAdmin] using hkeeps
    rw [hroles, List.append_nil] at hadmin
    obtain ⟨row, hrow, hrole⟩ := List.mem_map.mp hadmin
    rw [heq]
    refine ⟨row, List.mem_append_right _ hrow, hrole, ?_⟩
    rwa [htarget row (List.mem_append_right _ hrow)]

/-- The count that the request has taken, taken again on the committed rows. -/
def StillOther (d : IdentityDb) (r : MembershipRequest) : Prop :=
  r.op.takesAdmin = true → d.HoldsAdmin r.targetId → d.otherActiveAdminCount r.targetId ≠ 0

lemma hasAdmin_written (h : Written r ws) (hd : d.HasAdmin) (hother : StillOther d r) :
    (membershipCode.applyAll ws d).HasAdmin := by
  obtain ⟨row, hrow, hadmin, hactive⟩ := hd
  by_cases htarget : row.membershipId = r.targetId
  · cases htakes : r.op.takesAdmin with
    | true =>
      obtain ⟨other, hmem, hrole, hactive', hne⟩ :=
        otherActiveAdmin (hother htakes ⟨htarget ▸ hactive, row, hrow, htarget, hadmin⟩)
      obtain ⟨hkept, hstill⟩ := written_other h hmem hactive' hne
      exact ⟨other, hkept, hrole, hstill⟩
    | false => exact written_target h htakes (htarget ▸ hactive)
  · obtain ⟨hkept, hstill⟩ := written_other h hrow hactive htarget
    exact ⟨row, hkept, hadmin, hstill⟩

def committing : MembershipFrame → Option MembershipRequest
  | .commit r => some r
  | _ => none

def KeepsOther (s : State IdentityDb IdentityRow I MembershipFrame IdentityWrite) : Event I → Prop
  | .advance i => ∀ r ∈ committing (s.session i).frame, StillOther s.committed r
  | .fail _ => True

theorem admin_remains {requests : I → MembershipRequest} {es : List (Event I)}
    {s : State IdentityDb IdentityRow I MembershipFrame IdentityWrite} (hd : d.HasAdmin)
    (h : Run (Guarded (Enabled (step membershipCode)) KeepsOther)
      (begin d (fun i => .assertHasRole (requests i))) es s) : s.committed.HasAdmin := by
  refine knows.committed (fun s i next hact hguard hheld hadmin => ?_) (fun _ => ?_) hd h
  swap
  · rfl
  rw [visible]
  cases hframe : (s.session i).frame with
  | asserted r =>
    have hnone : (s.session i).writes = [] := by simpa [Held, hframe] using hheld
    rw [hnone]
    exact hadmin
  | commit r =>
    have hwritten : ∃ ws e, (s.session i).writes = ws ++ [.record e] ∧ Written r ws := by
      simpa [Held, hframe] using hheld
    obtain ⟨ws, e, hws, hwritten⟩ := hwritten
    have hother : StillOther s.committed r := hguard r (by rw [hframe]; rfl)
    have hkept := hasAdmin_written hwritten hadmin hother
    rw [hws, Code.applyAll_append]
    exact hkept
  | deleteRoles r dto pending =>
    rw [hframe] at hact
    cases pending <;> cases hact
  | createRoles r dto n pending =>
    rw [hframe] at hact
    cases pending <;> cases hact
  | _ =>
    rw [hframe] at hact
    cases hact

instance (d : IdentityDb) : Decidable d.HasAdmin :=
  inferInstanceAs (Decidable (∃ row ∈ d.roles, row.role = .admin ∧ d.IsActive row.membershipId))

instance (d : IdentityDb) (id : Uuid) : Decidable (d.HoldsAdmin id) :=
  inferInstanceAs (Decidable (d.IsActive id ∧ ∃ row ∈ d.roles, row.membershipId = id ∧ row.role = .admin))

instance (d : IdentityDb) (r : MembershipRequest) : Decidable (StillOther d r) :=
  inferInstanceAs (Decidable (r.op.takesAdmin = true → d.HoldsAdmin r.targetId →
    d.otherActiveAdminCount r.targetId ≠ 0))

instance (s : State IdentityDb IdentityRow I MembershipFrame IdentityWrite) : (e : Event I) → Decidable (KeepsOther s e)
  | .advance i => inferInstanceAs (Decidable (∀ r ∈ committing (s.session i).frame, StillOther s.committed r))
  | .fail _ => inferInstanceAs (Decidable True)

namespace Sample

def request (n actingUserId : ℕ) : Request where
  now := n
  uuid i := 100 * n + i
  order _ := .stored
  actingUserId := actingUserId

def twoAdmins : IdentityDb where
  memberships := ⟨[⟨11, 1, .active, none, none⟩, ⟨12, 2, .active, none, none⟩], by decide⟩
  roles := [⟨21, 11, .admin⟩, ⟨22, 12, .admin⟩]
  audit := []

def eachOther (i : Bool) : MembershipRequest :=
  if i then ⟨request 5 2, 11, .updateRoles { roles := [.dispatcher] }⟩ else ⟨request 4 1, 12, .deactivate⟩

def beginBoth : State IdentityDb IdentityRow Bool MembershipFrame IdentityWrite :=
  begin twoAdmins (fun i => .assertHasRole (eachOther i))

def serial : List (Event Bool) := List.replicate 9 (.advance false) ++ List.replicate 2 (.advance true)

def interleaved : List (Event Bool) :=
  List.replicate 6 (.advance false) ++ List.replicate 13 (.advance true) ++ List.replicate 3 (.advance false)

def nobodyLeft : State IdentityDb IdentityRow Bool MembershipFrame IdentityWrite :=
  (interleaved.foldlM (step membershipCode) beginBoth).get (by decide)

end Sample

open Sample

theorem admin_remains_sample : ∃ s : State IdentityDb IdentityRow Bool MembershipFrame IdentityWrite,
    Run (Enabled (step membershipCode)) beginBoth serial s ∧ s.committed.HasAdmin := by
  have hsome : (serial.foldlM (checked (step membershipCode) KeepsOther) beginBoth).isSome := by decide
  obtain ⟨s, hs⟩ := Option.isSome_iff_exists.mp hsome
  have hrun := run_checked hs
  exact ⟨s, hrun.unguarded, admin_remains (by decide) hrun⟩

theorem no_admin_remains :
    twoAdmins.HasAdmin ∧ Run (Enabled (step membershipCode)) beginBoth interleaved nobodyLeft ∧
      (∀ i, (nobodyLeft.session i).frame = .done none) ∧ ¬ nobodyLeft.committed.HasAdmin := by
  refine ⟨by decide, (run_enabled_iff _ _ _ _).mpr (Option.some_get _).symm, ?_, by decide⟩
  rintro (_ | _) <;> rfl

end Truckmaster.Identity
