import Truckmaster.Identity.RoleFreshness

namespace Truckmaster.Identity

open Common Fallible Tables Transactions

/-- What the schema keeps of the users of an organization: unique indexes and references. -/
structure AccessDb.Constrained (d : AccessDb) (organizationId : Uuid) : Prop where
  emails : ∀ a ∈ d.accounts.rows, ∀ b ∈ d.accounts.rows, a.email = b.email → a = b
  members : (d.tenant organizationId).OnePerUser
  users : ∀ m ∈ (d.tenant organizationId).memberships.rows, ∃ a ∈ d.accounts.rows, a.id = m.userId
  roles : ∀ row ∈ (d.tenant organizationId).roles,
    ∃ m ∈ (d.tenant organizationId).memberships.rows, m.id = row.membershipId

def MembershipStatus.Standing (status : MembershipStatus) : Prop :=
  status = .active ∨ status = .invited ∨ status = .pendingVerification

namespace InviteRequest

variable (r : InviteRequest) (s s' : AccessState)

structure NewIds : Prop where
  account : ∀ a ∈ s.db.accounts.rows, a.id ≠ r.q.uuid 0
  membership : ∀ m ∈ (s.db.tenant r.organizationId).memberships.rows, m.id ≠ r.membershipId
  roles : ∀ row ∈ (s.db.tenant r.organizationId).roles, ∀ n, row.id ≠ r.q.uuid n
  apart : Function.Injective r.q.uuid

def Invitee (m : OrganizationMembership) : Prop :=
  m ∈ (s.db.tenant r.organizationId).memberships.rows ∧ ∃ a ∈ s.db.accounts.rows, a.email = r.dto.email ∧ a.id = m.userId

def Invites : Prop :=
  ∃ m, r.Invitee s' m ∧ (∀ m', r.Invitee s' m' → m' = m) ∧ m.status = .invited ∧
    ∀ role, (∃ row ∈ (s'.db.tenant r.organizationId).roles, row.membershipId = m.id ∧ row.role = role) ↔ role ∈ r.dto.roles

/-- A standing membership is answered with a conflict, and nothing else keeps the invitee from being invited. -/
structure Answers : Prop where
  conflict : (∃ e, r.run s = .error e ∧ e.code = .conflict) ↔ ∃ m, r.Invitee s m ∧ m.status.Standing
  success : (¬ ∃ m, r.Invitee s m ∧ m.status.Standing) → ∃ s', r.run s = .ok s' ∧ r.Invites s'
  unique : r.run s ≠ .error uniqueViolation

end InviteRequest

variable {r : InviteRequest} {s s' : AccessState} {d t : IdentityDb} {c : MembershipRequest} {n : ℕ}
  {pending : List MembershipRoleName} {m : OrganizationMembership} {userId : Uuid}

section Roles

lemma createRoles_nodup (h : (MembershipService.createRoles c n pending).run IdentityDb.write d = (.ok (), t)) :
    pending.Nodup ∧ ∀ row ∈ d.roles, row.membershipId = c.targetId → row.role ∉ pending := by
  induction pending generalizing n d with
  | nil => exact ⟨List.nodup_nil, fun _ _ _ => List.not_mem_nil⟩
  | cons role pending ih =>
    obtain ⟨_, u, hfirst, hrest⟩ := Txn.run_bind_ok.mp h
    rw [MembershipService.createRole, Txn.run_insert] at hfirst
    split at hfirst
    · cases hfirst
    · rename_i hfree
      obtain ⟨_, rfl⟩ := Prod.mk.inj hfirst
      obtain ⟨hnodup, hnew⟩ := ih hrest
      have hrole : role ∉ pending := hnew _ (List.mem_append_right _ (List.mem_singleton_self _)) rfl
      refine ⟨List.nodup_cons.mpr ⟨hrole, hnodup⟩, fun row hrow hid => ?_⟩
      rw [List.mem_cons, not_or]
      refine ⟨fun hsame => hfree ?_, hnew row (List.mem_append_left _ hrow) hid⟩
      exact List.any_eq_true.mpr ⟨row, hrow, by simp [hid, hsame]⟩

lemma createRoles_exists (hids : ∀ row ∈ d.roles, ∀ k ≥ n, row.id ≠ c.q.uuid k) (hapart : Function.Injective c.q.uuid)
    (hnodup : pending.Nodup) (hnew : ∀ row ∈ d.roles, row.membershipId = c.targetId → row.role ∉ pending) :
    ∃ t, (MembershipService.createRoles c n pending).run IdentityDb.write d = (.ok (), t) := by
  induction pending generalizing n d with
  | nil => exact ⟨d, rfl⟩
  | cons role pending ih =>
    obtain ⟨hrole, hpending⟩ := List.nodup_cons.mp hnodup
    have hfree : d.roles.any (fun old => old.id == c.q.uuid n ||
        (old.membershipId == c.targetId && old.role == role)) = false := by
      refine List.any_eq_false.mpr fun old hold => ?_
      have hid := hids old hold n le_rfl
      by_cases htarget : old.membershipId = c.targetId
      · have hother : old.role ≠ role := fun hsame => hnew old hold htarget (hsame ▸ List.mem_cons_self)
        simp [hid, hother]
      · simp [hid, htarget]
    obtain ⟨t, ht⟩ := ih (d := d.write (.insertRole ⟨c.q.uuid n, c.targetId, role⟩)) (n := n + 1)
      (fun row hrow k hk => by
        rcases List.mem_append.mp hrow with hold | hnew
        · exact hids row hold k (Nat.le_of_succ_le hk)
        · rw [List.mem_singleton.mp hnew]
          exact fun hsame => absurd (hapart hsame) (Nat.ne_of_lt hk))
      hpending
      (fun row hrow hid => by
        rcases List.mem_append.mp hrow with hold | hnew'
        · exact fun hmem => hnew row hold hid (List.mem_cons_of_mem _ hmem)
        · rw [List.mem_singleton.mp hnew']
          exact hrole)
    refine ⟨t, ?_⟩
    rw [MembershipService.createRoles, MembershipService.createRole, Txn.run_bind, Txn.run_insert]
    simp only [hfree, Bool.false_eq_true, ↓reduceIte]
    exact ht

end Roles

lemma invitee_iff (hs : s.db.Constrained r.organizationId) {m : OrganizationMembership} :
    (s.db.findByEmail (r.q.order 2) r.dto.email).bind (fun user =>
      (s.db.tenant r.organizationId).memberships.rows.find? (fun m => m.userId == user.id)) = some m ↔ r.Invitee s m := by
  rw [Option.bind_eq_some_iff]
  constructor
  · rintro ⟨user, huser, hfound⟩
    obtain ⟨hmem, hemail⟩ := findFirst_some huser
    refine ⟨List.mem_of_find?_eq_some hfound, user, hmem, beq_iff_eq.mp hemail, ?_⟩
    have huser := List.find?_some hfound
    exact (beq_iff_eq.mp huser).symm
  · rintro ⟨hm, user, huser, hemail, hid⟩
    have hsome : (s.db.findByEmail (r.q.order 2) r.dto.email).isSome := by
      rw [Option.isSome_iff_ne_none]
      intro hnone
      simpa [hemail] using findFirst_none.mp hnone user huser
    obtain ⟨user', huser'⟩ := Option.isSome_iff_exists.mp hsome
    obtain ⟨hmem', hemail'⟩ := findFirst_some huser'
    obtain rfl := hs.emails user' hmem' user huser ((beq_iff_eq.mp hemail').trans hemail.symm)
    refine ⟨user', huser', ?_⟩
    have hfound : ((s.db.tenant r.organizationId).memberships.rows.find? (fun m => m.userId == user'.id)).isSome :=
      List.find?_isSome.mpr ⟨m, hm, by simp [hid]⟩
    obtain ⟨m', hm'⟩ := Option.isSome_iff_exists.mp hfound
    rw [hm']
    have hself := List.find?_some hm'
    have huser : m'.userId = m.userId := (beq_iff_eq.mp hself).trans hid
    exact congrArg some (List.inj_on_of_nodup_map hs.members (List.mem_of_find?_eq_some hm') hm huser)

lemma inviteRefusal_standing (h : m.status.Standing) :
    ∃ e, m.status.inviteRefusal = some e ∧ e.code = .conflict ∧ e ≠ uniqueViolation := by
  rcases h with h | h | h <;> rw [h] <;> exact ⟨_, rfl, rfl, by decide⟩

lemma run_refused (hs : s.db.Constrained r.organizationId)
    (hadmin : .admin ∈ s.db.getRoles r.q.order r.organizationId r.q.actingUserId) (hm : r.Invitee s m)
    (hstanding : m.status.Standing) :
    ∃ e, r.run s = .error e ∧ e.code = .conflict ∧ e ≠ uniqueViolation := by
  obtain ⟨e, hrefusal, hcode, hne⟩ := inviteRefusal_standing hstanding
  refine ⟨e, ?_, hcode, hne⟩
  rw [InviteRequest.run, ensure_of hadmin, ok_bind]
  dsimp only
  rw [(invitee_iff hs).mpr hm, Option.bind_some, hrefusal]

lemma run_accepted (hs : s.db.Constrained r.organizationId) (h : r.run s = .ok s') :
    (¬ ∃ m, r.Invitee s m) ∧ r.dto.roles.Nodup := by
  unfold InviteRequest.run at h
  obtain ⟨_, _, hrest⟩ := bind_eq_ok.mp h
  dsimp only at hrest
  split at hrest
  · cases hrest
  · obtain ⟨⟨user, d⟩, haccount, hcreate⟩ := bind_eq_ok.mp hrest
    obtain ⟨t, hcreated, _⟩ := bind_eq_ok.mp hcreate
    have htenant := account_tenant haccount
    obtain ⟨hnew, -, -⟩ := create_ok hcreated
    rw [htenant] at hnew hcreated
    refine ⟨?_, ?_⟩
    · rintro ⟨m, hm⟩
      obtain ⟨user', hfound, hmember⟩ := Option.bind_eq_some_iff.mp ((invitee_iff hs).mpr hm)
      simp only [InviteRequest.account, hfound, Except.ok.injEq, Prod.mk.injEq] at haccount
      obtain ⟨rfl, -⟩ := haccount
      have hself := List.find?_some hmember
      exact hnew m hm.1 (beq_iff_eq.mp hself)
    · simp only [InviteRequest.create, bind_eq_ok, ensure_eq_ok, require_eq_ok, Txn.exec_eq_ok] at hcreated
      obtain ⟨_, _, memberships, _, created, ⟨_, hroles⟩, _⟩ := hcreated
      exact (createRoles_nodup hroles).1

lemma create_new (hfree : ∀ m ∈ t.memberships.rows, m.userId ≠ userId)
    (hid : ∀ m ∈ t.memberships.rows, m.id ≠ r.membershipId) (hrow : ∀ row ∈ t.roles, ∀ n, row.id ≠ r.q.uuid n)
    (hapart : Function.Injective r.q.uuid) (hroles : ∀ row ∈ t.roles, row.membershipId ≠ r.membershipId)
    (hnodup : r.dto.roles.Nodup) :
    ∃ t', r.create userId t = .ok t' ∧
      t'.memberships.rows = t.memberships.rows ++ [⟨r.membershipId, userId, .invited, none, none⟩] ∧
      ∀ role, (∃ row ∈ t'.roles, row.membershipId = r.membershipId ∧ row.role = role) ↔ role ∈ r.dto.roles := by
  obtain ⟨memberships, hinsert, hrows⟩ := Table.insert_of_new (t := t.memberships)
    (a := ⟨r.membershipId, userId, .invited, none, none⟩) (by simpa [List.mem_map] using hid)
  let created : MembershipRequest := ⟨r.q, r.membershipId, .updateRoles ⟨r.dto.roles, r.dto.nonempty⟩⟩
  obtain ⟨u, hu⟩ := createRoles_exists (d := { t with memberships }) (c := created) (n := 2)
    (fun row hmem k _ => hrow row hmem k) hapart hnodup (fun row hmem hsame => absurd hsame (hroles row hmem))
  obtain ⟨rows, rfl, hnames, htarget⟩ := run_createRoles _ hu
  have hexec := Txn.exec_eq_ok.mpr ⟨(), hu⟩
  have hcreate : ∃ audit, r.create userId t = .ok ⟨memberships, t.roles ++ rows, audit⟩ := by
    rw [InviteRequest.create, ensure_of (by simpa using hfree), ok_bind, hinsert, require_eq_ok.mpr rfl, ok_bind]
    dsimp only
    rw [hexec]
    exact ⟨_, rfl⟩
  obtain ⟨audit, hcreate⟩ := hcreate
  refine ⟨_, hcreate, hrows, fun role => ?_⟩
  · rw [← hnames, List.mem_map]
    constructor
    · rintro ⟨row, hmem, hsame, rfl⟩
      rcases List.mem_append.mp hmem with hold | hnew
      · exact absurd hsame (hroles row hold)
      · exact ⟨row, hnew, rfl⟩
    · rintro ⟨row, hmem, rfl⟩
      exact ⟨row, List.mem_append_right _ hmem, htarget row hmem, rfl⟩

lemma account_new (hs : s.db.Constrained r.organizationId) (hids : r.NewIds s) (hnone : ¬ ∃ m, r.Invitee s m) :
    ∃ user d, r.account s.db = .ok (user, d) ∧ user ∈ d.accounts.rows ∧ user.email = r.dto.email ∧
      (∀ a ∈ d.accounts.rows, a.email = r.dto.email → a = user) ∧
      ∀ m ∈ (s.db.tenant r.organizationId).memberships.rows, m.userId ≠ user.id := by
  unfold InviteRequest.account
  cases hfound : s.db.findByEmail (r.q.order 2) r.dto.email with
  | some user =>
    obtain ⟨hmem, hemail⟩ := findFirst_some hfound
    have hemail := beq_iff_eq.mp hemail
    refine ⟨user, s.db, rfl, hmem, hemail, fun a ha hsame => hs.emails a ha user hmem (hsame.trans hemail.symm), ?_⟩
    exact fun m hm huser => hnone ⟨m, hm, user, hmem, hemail, huser.symm⟩
  | none =>
    have hunknown := findFirst_none.mp hfound
    let user : Account := ⟨⟨r.dto.email, none, .pendingVerification⟩, r.q.uuid 0⟩
    obtain ⟨accounts, hinsert, hrows⟩ := Table.insert_of_new (t := s.db.accounts) (a := user)
      (by simpa [List.mem_map] using hids.account)
    refine ⟨user, { s.db with accounts }, bind_eq_ok.mpr ⟨accounts, require_eq_ok.mpr hinsert, rfl⟩, ?_, rfl,
      fun a ha hsame => ?_, fun m hm huser => ?_⟩
    · simp [hrows]
    · change a ∈ accounts.rows at ha
      rw [hrows, List.mem_append, List.mem_singleton] at ha
      refine ha.resolve_left fun hold => ?_
      simpa [hsame] using hunknown a hold
    · obtain ⟨a, ha, hid⟩ := hs.users m hm
      exact hids.account a ha (hid.trans huser)

lemma run_new (hs : s.db.Constrained r.organizationId)
    (hadmin : .admin ∈ s.db.getRoles r.q.order r.organizationId r.q.actingUserId) (hids : r.NewIds s)
    (hnone : ¬ ∃ m, r.Invitee s m) (hnodup : r.dto.roles.Nodup) : ∃ s', r.run s = .ok s' ∧ r.Invites s' := by
  obtain ⟨user, d, haccount, hmem, hemail, honly, hfree⟩ := account_new hs hids hnone
  have htenant := account_tenant haccount
  obtain ⟨t', hcreate, hrows, hroles⟩ := create_new (t := s.db.tenant r.organizationId) hfree hids.membership hids.roles
    hids.apart
    (fun row hrow hsame => by
      obtain ⟨m, hm, hid⟩ := hs.roles row hrow
      exact hids.membership m hm (hid.trans hsame))
    hnodup
  have hexisting : (s.db.findByEmail (r.q.order 2) r.dto.email).bind (fun user =>
      (s.db.tenant r.organizationId).memberships.rows.find? (fun m => m.userId == user.id)) = none := by
    rw [Option.eq_none_iff_forall_ne_some]
    exact fun m hm => hnone ⟨m, (invitee_iff hs).mp hm⟩
  have hrun : ∃ invitation, r.run s = .ok { s with db := d.setTenant r.organizationId t', invitation } := by
    rw [← htenant] at hcreate
    rw [InviteRequest.run, ensure_of hadmin, ok_bind]
    dsimp only
    rw [hexisting, Option.bind_none, haccount]
    dsimp only [ok_bind]
    rw [hcreate]
    exact ⟨_, rfl⟩
  obtain ⟨invitation, hrun⟩ := hrun
  refine ⟨_, hrun, ?_⟩
  · have hset : (d.setTenant r.organizationId t').tenant r.organizationId = t' := Function.update_self ..
    refine ⟨⟨r.membershipId, user.id, .invited, none, none⟩, ⟨?_, user, hmem, hemail, rfl⟩, ?_, rfl, ?_⟩
    · change _ ∈ ((d.setTenant r.organizationId t').tenant r.organizationId).memberships.rows
      rw [hset, hrows]
      simp
    · rintro m' ⟨hm', a, ha, hsame, huser⟩
      obtain rfl := honly a ha hsame
      change m' ∈ ((d.setTenant r.organizationId t').tenant r.organizationId).memberships.rows at hm'
      rw [hset, hrows, List.mem_append, List.mem_singleton] at hm'
      exact hm'.resolve_left (fun hold => hfree m' hold huser.symm)
    · intro role
      change (∃ row ∈ ((d.setTenant r.organizationId t').tenant r.organizationId).roles, _) ↔ _
      rw [hset]
      exact hroles role

theorem invite_answers_iff (hs : s.db.Constrained r.organizationId)
    (hadmin : .admin ∈ s.db.getRoles r.q.order r.organizationId r.q.actingUserId) (hids : r.NewIds s) :
    r.Answers s ↔ (∃ m, r.Invitee s m ∧ m.status.Standing) ∨ (¬ ∃ m, r.Invitee s m) ∧ r.dto.roles.Nodup := by
  constructor
  · intro h
    by_cases hstanding : ∃ m, r.Invitee s m ∧ m.status.Standing
    · exact Or.inl hstanding
    · obtain ⟨s', hok, _⟩ := h.success hstanding
      exact Or.inr (run_accepted hs hok)
  · rintro (⟨m, hm, hstanding⟩ | ⟨hnone, hnodup⟩)
    · obtain ⟨e, hrun, hcode, hne⟩ := run_refused hs hadmin hm hstanding
      refine ⟨iff_of_true ⟨e, hrun, hcode⟩ ⟨m, hm, hstanding⟩, fun hno => absurd ⟨m, hm, hstanding⟩ hno, ?_⟩
      rw [hrun]
      exact fun hsame => hne (Except.error.inj hsame)
    · obtain ⟨s', hrun, hinvites⟩ := run_new hs hadmin hids hnone hnodup
      refine ⟨iff_of_false ?_ (fun ⟨m, hm, _⟩ => hnone ⟨m, hm⟩), fun _ => ⟨s', hrun, hinvites⟩, ?_⟩
      · rintro ⟨e, herror, _⟩
        rw [hrun] at herror
        cases herror
      · rw [hrun]
        nofun

namespace Sample

lemma dispatcher_nonempty : [MembershipRoleName.dispatcher] ≠ [] := by simp

def invitation (email : String) : InviteRequest :=
  ⟨⟨0, fun n => 50 + n, fun _ => .stored, 2⟩, 7, ⟨email, [.dispatcher], dispatcher_nonempty⟩, "hash", fun n t => t + n⟩

def withFormerMember : AccessState :=
  { accessStart with
    db := { access with tenant := fun _ => { members with
      memberships := ⟨[⟨10, 1, .inactive, some 0, some 2⟩, ⟨20, 2, .active, none, none⟩], by decide⟩ } } }

lemma withFormerMember_constrained : withFormerMember.db.Constrained 7 :=
  ⟨by decide, show ([1, 2] : List Uuid).Nodup by decide, by decide, by decide⟩

lemma invitation_newIds (email : String) : (invitation email).NewIds withFormerMember := by
  have haccount : ∀ a ∈ withFormerMember.db.accounts.rows, a.id ≠ 50 := by decide
  have hmembership : ∀ m ∈ (withFormerMember.db.tenant 7).memberships.rows, m.id ≠ 51 := by decide
  refine ⟨haccount, hmembership, fun row hrow n => ?_, fun a b h => Nat.add_left_cancel h⟩
  have hid : ∀ row ∈ (withFormerMember.db.tenant 7).roles, row.id < 50 := by decide
  exact ((hid row hrow).trans_le (Nat.le_add_right 50 n)).ne

end Sample

theorem invite_answers_sample : (Sample.invitation "guest").Answers Sample.withFormerMember :=
  (invite_answers_iff Sample.withFormerMember_constrained (by decide) (Sample.invitation_newIds "guest")).mpr
    (Or.inr ⟨by
      rintro ⟨m, hm, a, ha, hemail, _⟩
      have hother : ∀ a ∈ Sample.withFormerMember.db.accounts.rows, a.email ≠ "guest" := by decide
      exact hother a ha hemail, by decide⟩)

theorem former_member_not_invited :
    ¬ ∀ (s : AccessState) (r : InviteRequest), s.db.Constrained r.organizationId →
      .admin ∈ s.db.getRoles r.q.order r.organizationId r.q.actingUserId → r.NewIds s → r.Answers s := by
  intro h
  have hanswers := h Sample.withFormerMember (Sample.invitation "member") Sample.withFormerMember_constrained (by decide)
    (Sample.invitation_newIds "member")
  exact hanswers.unique rfl

end Truckmaster.Identity
