import Truckmaster.Identity.AccessRequests
import Truckmaster.Identity.SessionRevocation

/-! Whether the roles that a session carries are those of the membership, over whole requests one after another. -/

namespace Truckmaster.Identity

open Common ExpiringKeys Fallible Runs Tables Transactions

namespace IdentityDb

variable {d t : IdentityDb} {userId : Uuid} {role : MembershipRoleName}

def Holds (d : IdentityDb) (userId : Uuid) (role : MembershipRoleName) : Prop :=
  ∃ m ∈ d.memberships.rows, m.userId = userId ∧ m.status = .active ∧
    ∃ row ∈ d.roles, row.membershipId = m.id ∧ row.role = role

lemma holds_mono (hmemberships : ∀ m ∈ d.memberships.rows, m.status = .active → m ∈ t.memberships.rows)
    (hroles : ∀ row ∈ d.roles, row ∈ t.roles) (h : d.Holds userId role) : t.Holds userId role := by
  obtain ⟨m, hm, huser, hactive, row, hrow, hheld⟩ := h
  exact ⟨m, hmemberships m hm hactive, huser, hactive, row, hroles row hrow, hheld⟩

lemma excludes_not_holds (h : d.Excludes userId) : ¬ d.Holds userId role := by
  rintro ⟨m, hm, huser, hactive, _⟩
  exact h m hm huser hactive

end IdentityDb

section Roles

variable {d t : IdentityDb} {r : MembershipRequest}

lemma run_deleteRoles (rows : List MembershipRole) (d : IdentityDb) :
    (MembershipService.deleteRoles rows).run IdentityDb.write d =
      (.ok (), { d with roles := d.roles.filter (fun row => row ∉ rows) }) := by
  induction rows generalizing d with
  | nil => simp [MembershipService.deleteRoles]
  | cons row pending ih =>
    rw [MembershipService.deleteRoles, Txn.run_bind, Txn.run_update]
    simp only [ih, IdentityDb.write, List.filter_filter]
    congr! 4 with row'
    simp [Bool.and_comm]

lemma run_createRoles (pending : List MembershipRoleName) {n : ℕ}
    (h : (MembershipService.createRoles r n pending).run IdentityDb.write d = (.ok (), t)) :
    ∃ rows, t = { d with roles := d.roles ++ rows } ∧ rows.map MembershipRole.role = pending ∧
      ∀ row ∈ rows, row.membershipId = r.targetId := by
  induction pending generalizing n d with
  | nil =>
    obtain ⟨_, rfl⟩ := Prod.mk.inj h
    exact ⟨[], by simp, rfl, by simp⟩
  | cons role pending ih =>
    obtain ⟨_, u, hfirst, hrest⟩ := Txn.run_bind_ok.mp h
    rw [MembershipService.createRole, Txn.run_insert] at hfirst
    split at hfirst
    · cases hfirst
    · obtain ⟨_, rfl⟩ := Prod.mk.inj hfirst
      obtain ⟨rows, rfl, hroles, hids⟩ := ih hrest
      refine ⟨⟨r.q.uuid n, r.targetId, role⟩ :: rows, by simp [IdentityDb.write], by simp [hroles], ?_⟩
      simpa using hids

lemma call_updateRoles {q : Request} {targetId : Uuid} {dto : UpdateMembershipRolesInput}
    (h : MembershipService.call ⟨q, targetId, .updateRoles dto⟩ d = (.ok (), t)) :
    d.IsActive targetId ∧ t.memberships = d.memberships ∧
      (∀ row : MembershipRole, row.membershipId ≠ targetId → (row ∈ t.roles ↔ row ∈ d.roles)) ∧
      ∀ role, (∃ row ∈ t.roles, row.membershipId = targetId ∧ row.role = role) ↔ role ∈ dto.roles := by
  obtain ⟨hactive, hrun⟩ := call_ok h
  obtain ⟨_, u, hchange, hrecorded⟩ := Txn.run_bind_ok.mp hrun
  obtain ⟨old, _, hread, hreplace⟩ := Txn.run_bind_ok.mp hchange
  obtain ⟨hfound, rfl⟩ := Prod.mk.inj hread
  obtain rfl := Except.ok.inj hfound
  obtain ⟨_, _, hdeleted, hcreated⟩ := Txn.run_bind_ok.mp hreplace
  obtain ⟨_, rfl⟩ := Prod.mk.inj ((run_deleteRoles _ _).symm.trans hdeleted)
  obtain ⟨rows, rfl, hroles, hids⟩ := run_createRoles dto.roles hcreated
  obtain ⟨_, rfl⟩ := Prod.mk.inj hrecorded
  have hold (row : MembershipRole) : row ∈ d.rolesOf (q.order 4) targetId ↔
      row ∈ d.roles ∧ row.membershipId = targetId := by simp [IdentityDb.rolesOf, mem_findMany]
  refine ⟨hactive, rfl, fun row hother => ?_, fun role => ?_⟩
  · have hnew : row ∉ rows := fun hmem => hother (hids row hmem)
    simp [IdentityDb.write, hold, hother, hnew]
  · rw [← hroles, List.mem_map]
    constructor
    · rintro ⟨row, hrow, hid, rfl⟩
      refine ⟨row, ?_, rfl⟩
      simpa [IdentityDb.write, hold, hid] using hrow
    · rintro ⟨row, hrow, rfl⟩
      exact ⟨row, by simp [IdentityDb.write, hrow], hids row hrow, rfl⟩

end Roles

def SessionData.Current (auth : SessionData) (d : AccessDb) : Prop := ∀ role ∈ auth.roles.getD [],
  ∃ organizationId, auth.organizationId = some organizationId ∧ (d.tenant organizationId).Holds auth.userId role

section Current

variable {auth : SessionData} {d d' : AccessDb} {organizationId userId : Uuid} {role : MembershipRoleName}

lemma SessionData.Current.mono (h : auth.Current d)
    (hholds : ∀ organizationId role, (d.tenant organizationId).Holds auth.userId role →
      (d'.tenant organizationId).Holds auth.userId role) : auth.Current d' := by
  intro role hrole
  obtain ⟨organizationId, horganization, hheld⟩ := h role hrole
  exact ⟨organizationId, horganization, hholds organizationId role hheld⟩

lemma getRoles_held {order : ℕ → RowOrder} (h : role ∈ d.getRoles order organizationId userId) :
    (d.tenant organizationId).Holds userId role := by
  unfold AccessDb.getRoles at h
  split at h
  · cases h
  next m hfound =>
    obtain ⟨hm, hactive⟩ := findFirst_some hfound
    simp only [Bool.and_eq_true, beq_iff_eq] at hactive
    obtain ⟨row, hrow, rfl⟩ := List.mem_map.mp h
    simp only [IdentityDb.rolesOf, mem_findMany, beq_iff_eq] at hrow
    exact ⟨m, hm, hactive.1, hactive.2, row, hrow.1, hrow.2, rfl⟩

lemma Route.admits_iff {route : Route} {required : List MembershipRoleName} (hrequired : route.required = some required)
    (hne : required ≠ []) :
    route.Admits (some auth) ↔ route.isPublic = false ∧ ∃ role ∈ required, role ∈ auth.roles.getD [] := by
  unfold Route.Admits SessionAuthGuard.canActivate RolesGuard.canActivate
  rw [hrequired]
  cases route.isPublic <;> simp [ensure, hne]

end Current

namespace WebFrame

/-- The session that the frame holds on its way to the store, its roles included. -/
def carried : WebFrame → Option StoredSession
  | .recordSession _ new => some new
  | .expireRecorded _ new => some new
  | .leaveOrganization _ new _ _ => some new
  | .enterOrganization _ new _ => some new
  | .expireEntered _ new _ => some new
  | .ending _ new => new
  | _ => none

section Serve

variable {now : Instant} {d : AccessDb} {version : Uuid → ℕ} {redis : Redis} {f : WebFrame} {o : Opened}
  {r : WebRequest} {x : StoredSession} {sessionId : Uuid}

def CarriesCurrent (f : WebFrame) (d : AccessDb) : Prop := ∀ x, f.carried = some x → x.auth.Current d

lemma carriesCurrent_none (h : f.carried = none) : f.CarriesCurrent d := by
  intro x hx
  cases h.symm.trans hx

lemma carriesCurrent_some {new : StoredSession} (h : f.carried = some new) (hnew : new.auth.Current d) :
    f.CarriesCurrent d := by
  intro x hx
  obtain rfl := Option.some.inj (h.symm.trans hx)
  exact hnew

lemma handle_carried : (o.handle r).carried = none := by
  unfold Opened.handle
  split <;> rfl

lemma enter_carried (new : StoredSession) : (o.enter new).carried = some new := by
  unfold Opened.enter
  split <;> rfl

lemma change_carried (new : StoredSession) (organizationId : Uuid) :
    (o.change new organizationId).carried = some new := by
  unfold Opened.change
  split
  · rfl
  · split <;> rfl

lemma next_carriesCurrent (hformed : f.Formed) (h : f.CarriesCurrent d) :
    (f.next now d version redis).1.CarriesCurrent d := by
  cases f with
  | arriving r => exact carriesCurrent_none handle_carried
  | findByEmail r o dto =>
    dsimp only [next]
    split <;> exact carriesCurrent_none rfl
  | listMemberships r o userId version =>
    dsimp only [next]
    split
    · exact carriesCurrent_none rfl
    · exact carriesCurrent_some rfl nofun
  | findMembership r o current organizationId =>
    dsimp only [next]
    split <;> exact carriesCurrent_none rfl
  | getRoles r o new organizationId login =>
    obtain ⟨horganization, _⟩ := hformed
    have hcurrent : SessionData.Current { new.auth with
        roles := some (d.getRoles r.order organizationId new.auth.userId) } d :=
      fun role hrole => ⟨organizationId, horganization, getRoles_held hrole⟩
    cases login with
    | true => exact carriesCurrent_some rfl hcurrent
    | false => exact carriesCurrent_some (change_carried _ _) hcurrent
  | recordSession o new => exact carriesCurrent_some rfl (h new rfl)
  | expireRecorded o new => exact carriesCurrent_some (enter_carried new) (h new rfl)
  | leaveOrganization o new previous organizationId => exact carriesCurrent_some rfl (h new rfl)
  | enterOrganization o new organizationId => exact carriesCurrent_some rfl (h new rfl)
  | expireEntered o new organizationId => exact carriesCurrent_some rfl (h new rfl)
  | destroy o auth =>
    dsimp only [next]
    split <;> exact carriesCurrent_none rfl
  | _ => exact carriesCurrent_none rfl

lemma next_stored (hformed : f.Formed) (hx : (f.next now d version redis).2.store.get now sessionId = some x) :
    redis.store.get now sessionId = some x ∨ f.carried = some x := by
  have heffect : Effect now f (f.next now d version redis).1 redis (f.next now d version redis).2 := effect hformed
  cases heffect with
  | keeps hstore => exact Or.inl ((hstore sessionId).symm.trans hx)
  | leaves _ _ hstore => exact Or.inl (by rwa [hstore] at hx)
  | sets o new hframe _ _ hstore =>
    rw [hstore] at hx
    split at hx
    · obtain rfl := Option.some.inj hx
      exact Or.inr (by rw [hframe]; rfl)
    · exact Or.inl hx
  | destroys destroyed _ hstore =>
    rw [hstore] at hx
    split at hx
    · cases hx
    · exact Or.inl hx
  | forgets _ _ _ hstore => exact Or.inl (by rwa [hstore] at hx)

def remaining : WebFrame → ℕ
  | .arriving _ => 9
  | .findByEmail _ _ _ => 8
  | .listMemberships _ _ _ _ => 7
  | .findMembership _ _ _ _ => 7
  | .getRoles _ _ _ _ _ => 6
  | .recordSession _ _ => 5
  | .expireRecorded _ _ => 4
  | .leaveOrganization _ _ _ _ => 4
  | .enterOrganization _ _ _ => 3
  | .expireEntered _ _ _ => 2
  | .ending _ _ => 1
  | .destroy _ _ => 3
  | .forgetOrganization _ _ _ => 2
  | .forgetUser _ _ => 1
  | .answered => 0

lemma remaining_handle : (o.handle r).remaining ≤ 8 := by
  unfold Opened.handle
  split <;> simp [remaining]

lemma remaining_enter (new : StoredSession) : (o.enter new).remaining ≤ 3 := by
  unfold Opened.enter
  split <;> simp [remaining]

lemma remaining_change (new : StoredSession) (organizationId : Uuid) : (o.change new organizationId).remaining ≤ 4 := by
  unfold Opened.change
  split
  · simp [remaining]
  · split <;> simp [remaining]

lemma remaining_next : (f.next now d version redis).1.remaining ≤ f.remaining - 1 := by
  cases f with
  | arriving r => exact remaining_handle
  | findByEmail r o dto =>
    dsimp only [next]
    split <;> simp [remaining]
  | listMemberships r o userId version =>
    dsimp only [next]
    split <;> simp [remaining]
  | findMembership r o current organizationId =>
    dsimp only [next]
    split <;> simp [remaining]
  | getRoles r o new organizationId login =>
    cases login with
    | true => simp [next, remaining]
    | false => exact (remaining_change _ _).trans (by simp [remaining])
  | expireRecorded o new => exact remaining_enter new
  | destroy o auth =>
    dsimp only [next]
    split <;> simp [remaining]
  | _ => simp [next, remaining]

end Serve

end WebFrame

namespace Redis

variable {now : Instant} {d : AccessDb} {redis : Redis} {r : WebRequest} {k : IndexKey} {x : StoredSession}
  {sessionId : Uuid}

def step (now : Instant) (d : AccessDb) (p : WebFrame × Redis) : WebFrame × Redis := p.1.next now d (fun _ => 0) p.2

lemma serve_answered (redis : Redis) (now : Instant) (d : AccessDb) (r : WebRequest) :
    ((step now d)^[9] (.arriving r, redis)).1.remaining = 0 := by
  have hcount (n : ℕ) (p : WebFrame × Redis) : ((step now d)^[n] p).1.remaining ≤ p.1.remaining - n := by
    induction n generalizing p with
    | zero => exact le_rfl
    | succ n ih =>
      rw [Function.iterate_succ_apply]
      have hstep : (step now d p).1.remaining ≤ p.1.remaining - 1 := WebFrame.remaining_next
      have hrest := ih (step now d p)
      omega
  exact Nat.le_zero.mp (hcount 9 (.arriving r, redis))

lemma serve_stored (hcurrent : ∀ sessionId x, redis.store.get now sessionId = some x → x.auth.Current d)
    (hx : (redis.serve now d r).store.get now sessionId = some x) : x.auth.Current d := by
  let P (p : WebFrame × Redis) : Prop := p.1.Formed ∧ p.1.CarriesCurrent d ∧
    ∀ sessionId x, p.2.store.get now sessionId = some x → x.auth.Current d
  have hstep (p : WebFrame × Redis) (hp : P p) : P (step now d p) := by
    obtain ⟨hformed, hcarries, hstored⟩ := hp
    refine ⟨WebFrame.formed hformed, WebFrame.next_carriesCurrent hformed hcarries, fun sessionId x hx => ?_⟩
    rcases WebFrame.next_stored hformed hx with hbefore | hsaved
    · exact hstored sessionId x hbefore
    · exact hcarries x hsaved
  have hstart : P (.arriving r, redis) := ⟨trivial, WebFrame.carriesCurrent_none rfl, hcurrent⟩
  have hend : P ((step now d)^[9] (.arriving r, redis)) := Function.Iterate.rec P hstart hstep 9
  exact hend.2.2 sessionId x hx

lemma get_foldl_del (store : Keys Uuid StoredSession) (sessionIds : List Uuid) :
    (sessionIds.foldl Keys.del store).get now sessionId =
      if sessionId ∈ sessionIds then none else store.get now sessionId := by
  induction sessionIds generalizing store with
  | nil => simp
  | cons first rest ih =>
    rw [List.foldl_cons, ih, Keys.get_del]
    by_cases hrest : sessionId ∈ rest <;> by_cases hfirst : sessionId = first <;> simp [hrest, hfirst]

lemma revokeAll_stored : (redis.revokeAll now k).store.get now sessionId =
    if sessionId ∈ redis.index.smembers now k then none else redis.store.get now sessionId := by
  unfold revokeAll
  split
  next hnone => simp [hnone]
  next => exact get_foldl_del _ _

end Redis

namespace AccessDb

variable {d d' : AccessDb} {organizationId other userId targetId : Uuid} {q : Request} {role : MembershipRoleName}
  {dto : UpdateMembershipRolesInput}

@[simp] lemma setTenant_same (t : IdentityDb) : (d.setTenant organizationId t).tenant organizationId = t :=
  Function.update_self ..

@[simp] lemma setTenant_other (t : IdentityDb) (h : other ≠ organizationId) :
    (d.setTenant organizationId t).tenant other = d.tenant other := Function.update_of_ne h ..

lemma setTenant_all {P : IdentityDb → Prop} {t : IdentityDb} (hother : P (d.tenant other))
    (hsame : other = organizationId → P t) : P ((d.setTenant organizationId t).tenant other) := by
  by_cases h : other = organizationId
  · subst h
    simpa using hsame rfl
  · simpa [h] using hother

lemma updateRoles_ok (h : d.updateRoles organizationId q targetId dto = .ok d') :
    ∃ t, MembershipService.call ⟨q, targetId, .updateRoles dto⟩ (d.tenant organizationId) = (.ok (), t) ∧
      d' = d.setTenant organizationId t := by
  unfold updateRoles at h
  split at h
  · cases h
  next t hcall => exact ⟨t, hcall, (Except.ok.inj h).symm⟩

lemma updateRoles_unique (hd : d.OnePerUser) (h : d.updateRoles organizationId q targetId dto = .ok d') :
    d'.OnePerUser := by
  obtain ⟨t, hcall, rfl⟩ := updateRoles_ok h
  obtain ⟨_, hmemberships, _⟩ := call_updateRoles hcall
  refine fun other => setTenant_all (hd other) (fun _ => ?_)
  rw [IdentityDb.OnePerUser, hmemberships]
  exact hd organizationId

lemma updateRoles_holds (h : d.updateRoles organizationId q targetId dto = .ok d')
    (hheld : (d.tenant other).Holds userId role)
    (hkept : ∀ m ∈ (d.tenant organizationId).memberships.rows, m.id = targetId → other = organizationId →
      m.userId = userId → role ∈ dto.roles) : (d'.tenant other).Holds userId role := by
  obtain ⟨t, hcall, rfl⟩ := updateRoles_ok h
  obtain ⟨_, hmemberships, hothers, htarget⟩ := call_updateRoles hcall
  refine setTenant_all (P := fun t => t.Holds userId role) hheld (fun hsame => ?_)
  subst hsame
  obtain ⟨m, hm, huser, hactive, row, hrow, hid, hrole⟩ := hheld
  rw [← hmemberships] at hm
  by_cases hsame : m.id = targetId
  · have hgiven := hkept m (hmemberships ▸ hm) hsame rfl huser
    obtain ⟨row', hrow', hid', hrole'⟩ := (htarget role).mpr hgiven
    exact ⟨m, hm, huser, hactive, row', hrow', hid'.trans hsame.symm, hrole'⟩
  · exact ⟨m, hm, huser, hactive, row, (hothers row (hid ▸ hsame)).mpr hrow, hid, hrole⟩

lemma updateRoles_only (hd : d.OnePerUser) (h : d.updateRoles organizationId q targetId dto = .ok d')
    {m : OrganizationMembership} (hm : m ∈ (d.tenant organizationId).memberships.rows) (hid : m.id = targetId)
    (hheld : (d'.tenant organizationId).Holds m.userId role) : role ∈ dto.roles := by
  obtain ⟨t, hcall, rfl⟩ := updateRoles_ok h
  obtain ⟨_, hmemberships, _, htarget⟩ := call_updateRoles hcall
  rw [setTenant_same] at hheld
  obtain ⟨m', hm', huser, _, row, hrow, hrowId, hrole⟩ := hheld
  rw [hmemberships] at hm'
  obtain rfl := List.inj_on_of_nodup_map (hd organizationId) hm' hm huser
  exact (htarget role).mp ⟨row, hrow, hrowId.trans hid, hrole⟩

lemma deactivate_found (h : d.deactivate organizationId q targetId = .ok (userId, d')) :
    ∃ m ∈ (d.tenant organizationId).memberships.rows, m.id = targetId ∧ m.userId = userId := by
  obtain ⟨rows, updated, hcall, hupdated, hupdatedId, huser, rfl⟩ := deactivate_ok h
  rw [call_deactivated hcall] at hupdated
  rcases (Table.mem_update _ targetId (OrganizationMembership.deactivated q) (deactivated_id q)).mp hupdated with
    ⟨m, hm, hid, rfl⟩ | ⟨_, hne⟩
  · exact ⟨m, hm, hid, huser⟩
  · exact absurd hupdatedId hne

lemma deactivate_target (h : d.deactivate organizationId q targetId = .ok (userId, d')) {m : OrganizationMembership}
    (hm : m ∈ (d.tenant organizationId).memberships.rows) (hid : m.id = targetId) : m.userId = userId := by
  obtain ⟨m', hm', hid', huser⟩ := deactivate_found h
  obtain rfl := (d.tenant organizationId).memberships.eq_of_key hm hm' (hid.trans hid'.symm)
  exact huser

lemma deactivate_holds (h : d.deactivate organizationId q targetId = .ok (userId, d')) {user : Uuid}
    (hheld : (d.tenant other).Holds user role) (hne : other = organizationId → user ≠ userId) :
    (d'.tenant other).Holds user role := by
  obtain ⟨rows, updated, hcall, _, _, _, rfl⟩ := deactivate_ok h
  refine setTenant_all (P := fun t => t.Holds user role) hheld (fun hsame => ?_)
  subst hsame
  rw [call_deactivated hcall]
  obtain ⟨m, hm, hmUser, hactive, hrow⟩ := hheld
  have hother : m.id ≠ targetId := fun hid => hne rfl (hmUser.symm.trans (deactivate_target h hm hid))
  refine ⟨m, ?_, hmUser, hactive, hrow⟩
  exact (Table.mem_update _ targetId (OrganizationMembership.deactivated q) (deactivated_id q)).mpr (Or.inr ⟨hm, hother⟩)

end AccessDb

structure AccessState.Grants (s s' : AccessState) : Prop where
  now : s'.now = s.now
  redis : s'.redis = s.redis
  unique : s.db.OnePerUser → s'.db.OnePerUser
  holds : ∀ organizationId userId role, (s.db.tenant organizationId).Holds userId role →
    (s'.db.tenant organizationId).Holds userId role

section Grants

variable {s s' : AccessState} {d : AccessDb} {r : InviteRequest} {a : ActivationRequest} {t t' : IdentityDb}
  {userId : Uuid}

lemma account_tenant {user : Account} (h : r.account s.db = .ok (user, d)) : d.tenant = s.db.tenant := by
  unfold InviteRequest.account at h
  split at h
  · obtain ⟨_, rfl⟩ := Prod.mk.inj (Except.ok.inj h)
    rfl
  · obtain ⟨_, _, hok⟩ := bind_eq_ok.mp h
    obtain ⟨_, rfl⟩ := Prod.mk.inj (Except.ok.inj hok)
    rfl

lemma create_ok (h : r.create userId t = .ok t') : (∀ m ∈ t.memberships.rows, m.userId ≠ userId) ∧
    t'.memberships.rows = t.memberships.rows ++ [⟨r.membershipId, userId, .invited, none, none⟩] ∧
    ∀ row ∈ t.roles, row ∈ t'.roles := by
  simp only [InviteRequest.create, bind_eq_ok, ensure_eq_ok, require_eq_ok, Txn.exec_eq_ok] at h
  obtain ⟨_, hnew, memberships, hinserted, created, ⟨_, hroles⟩, hok⟩ := h
  obtain ⟨rows, rfl, _, _⟩ := run_createRoles _ hroles
  obtain rfl := Except.ok.inj hok
  refine ⟨by simpa using hnew, Table.insert_rows hinserted, fun row hrow => ?_⟩
  exact List.mem_append_left _ hrow

lemma invite_grants (h : r.run s = .ok s') : s.Grants s' := by
  unfold InviteRequest.run at h
  obtain ⟨_, _, hrest⟩ := bind_eq_ok.mp h
  dsimp only at hrest
  split at hrest
  · cases hrest
  · obtain ⟨⟨user, d⟩, haccount, hcreate⟩ := bind_eq_ok.mp hrest
    obtain ⟨t, hcreated, hok⟩ := bind_eq_ok.mp hcreate
    obtain rfl := Except.ok.inj hok
    have htenant := account_tenant haccount
    obtain ⟨hnew, hrows, hroles⟩ := create_ok hcreated
    rw [htenant] at hnew hrows hroles
    refine ⟨rfl, rfl, fun hunique other => ?_, fun other userId role hheld => ?_⟩
    · refine AccessDb.setTenant_all (htenant ▸ hunique other) (fun _ => ?_)
      have hbefore := hunique r.organizationId
      rw [IdentityDb.OnePerUser, hrows, List.map_append]
      refine hbefore.append (List.nodup_singleton _) ?_
      simpa using hnew
    · refine AccessDb.setTenant_all (P := fun t => t.Holds userId role) (htenant ▸ hheld) (fun hsame => ?_)
      subst hsame
      refine IdentityDb.holds_mono (fun m hm _ => ?_) hroles hheld
      rw [hrows]
      exact List.mem_append_left _ hm

lemma setPassword_tenant (user : Account) (d : AccessDb) (passwordHash : Option String) :
    (ActivationRequest.setPassword user d passwordHash).tenant = d.tenant := by
  cases passwordHash <;> rfl

lemma activateMembership_users (id : Uuid) (needsPassword : Bool) (userId : Uuid) (t : IdentityDb) :
    (ActivationRequest.activateMembership id needsPassword userId t).memberships.rows.map OrganizationMembership.userId =
      t.memberships.rows.map OrganizationMembership.userId := by
  change ((t.memberships.update id ActivationRequest.activated ActivationRequest.activated_id).rows.map _) = _
  rw [Table.update_rows, List.map_map]
  refine List.map_congr_left (fun m _ => ?_)
  rw [Function.comp_apply]
  split <;> rfl

lemma activate_grants (h : a.run s = .ok s') : s.Grants s' := by
  unfold ActivationRequest.run at h
  obtain ⟨⟨organizationId, m⟩, _, hrest⟩ := bind_eq_ok.mp h
  obtain ⟨_, _, hrest⟩ := bind_eq_ok.mp hrest
  split at hrest
  · cases hrest
  · obtain ⟨user, _, hrest⟩ := bind_eq_ok.mp hrest
    obtain ⟨passwordHash, _, hok⟩ := bind_eq_ok.mp hrest
    obtain rfl := Except.ok.inj hok
    have htenant := setPassword_tenant user s.db passwordHash
    refine ⟨rfl, rfl, fun hunique other => ?_, fun other userId role hheld => ?_⟩
    · refine AccessDb.setTenant_all (htenant ▸ hunique other) (fun _ => ?_)
      rw [htenant]
      rw [IdentityDb.OnePerUser, activateMembership_users]
      exact hunique organizationId
    · refine AccessDb.setTenant_all (P := fun t => t.Holds userId role) (htenant ▸ hheld) (fun hsame => ?_)
      subst hsame
      rw [htenant]
      obtain ⟨m', hm', huser, hactive, hrow⟩ := hheld
      by_cases hid : m'.id = m.id
      · refine ⟨ActivationRequest.activated m', ?_, huser, rfl, hrow⟩
        exact (Table.mem_update _ m.id _ ActivationRequest.activated_id).mpr (Or.inl ⟨m', hm', hid, rfl⟩)
      · refine ⟨m', ?_, huser, hactive, hrow⟩
        exact (Table.mem_update _ m.id _ ActivationRequest.activated_id).mpr (Or.inr ⟨hm', hid⟩)

end Grants

namespace AccessState

variable {s s' : AccessState} {e : AccessRequest} {es : List AccessRequest}

def stored (s : AccessState) (sessionId : Uuid) : Option StoredSession := s.redis.store.get s.now sessionId

def RolesHeld (s : AccessState) : Prop := ∀ (route : Route) required sessionId x, route.required = some required →
  required ≠ [] → s.stored sessionId = some x → route.Admits (some x.auth) →
    ∃ organizationId, x.auth.organizationId = some organizationId ∧
      ∃ m ∈ (s.db.tenant organizationId).memberships.rows, m.userId = x.auth.userId ∧ m.status = .active ∧
        ∃ row ∈ (s.db.tenant organizationId).roles, row.membershipId = m.id ∧ row.role ∈ required

def Fresh (s : AccessState) : Prop := ∀ sessionId x, s.stored sessionId = some x → x.auth.Current s.db

lemma rolesHeld_iff : s.RolesHeld ↔ s.Fresh := by
  constructor
  · intro hheld sessionId x hx role hrole
    have hadmits : Route.Admits ⟨false, some [role]⟩ (some x.auth) :=
      (Route.admits_iff rfl (List.cons_ne_nil _ _)).mpr ⟨rfl, role, List.mem_singleton_self role, hrole⟩
    obtain ⟨organizationId, horganization, m, hm, huser, hactive, row, hrow, hid, hrequired⟩ :=
      hheld ⟨false, some [role]⟩ [role] sessionId x rfl (List.cons_ne_nil _ _) hx hadmits
    exact ⟨organizationId, horganization, m, hm, huser, hactive, row, hrow, hid, List.mem_singleton.mp hrequired⟩
  · intro hfresh route required sessionId x hrequired hne hx hadmits
    obtain ⟨_, role, hwanted, hrole⟩ := (Route.admits_iff hrequired hne).mp hadmits
    obtain ⟨organizationId, horganization, m, hm, huser, hactive, row, hrow, hid, rfl⟩ := hfresh sessionId x hx role hrole
    exact ⟨organizationId, horganization, m, hm, huser, hactive, row, hrow, hid, hwanted⟩

def OfTarget (s : AccessState) (organizationId targetId : Uuid) (x : StoredSession) : Prop :=
  x.auth.organizationId = some organizationId ∧
    ∃ m ∈ (s.db.tenant organizationId).memberships.rows, m.id = targetId ∧ m.userId = x.auth.userId

/-- updateRoles leaves every role that a session of the member carries, and the index key lists the sessions of the
member that deactivate is to end. -/
def Reaches (s : AccessState) : AccessRequest → Prop
  | .updateRoles organizationId q targetId dto =>
    (s.db.updateRoles organizationId q targetId dto).toOption.isSome → ∀ sessionId x, s.stored sessionId = some x →
      s.OfTarget organizationId targetId x → ∀ role ∈ x.auth.roles.getD [], role ∈ dto.roles
  | .deactivate organizationId q targetId =>
    (s.db.deactivate organizationId q targetId).toOption.isSome → ∀ sessionId x, s.stored sessionId = some x →
      s.OfTarget organizationId targetId x → x.auth.roles.getD [] ≠ [] →
        sessionId ∈ s.redis.index.smembers s.now (.organization x.auth.userId organizationId)
  | _ => True

lemma fresh_grants (h : s.Grants s') (hs : s.Fresh) : s'.Fresh := by
  intro sessionId x hx
  rw [stored, h.redis, h.now] at hx
  exact (hs sessionId x hx).mono (fun organizationId role => h.holds organizationId _ role)

lemma exec_unique (h : s.exec e = .ok s') (hs : s.db.OnePerUser) : s'.db.OnePerUser := by
  cases e with
  | web r =>
    obtain rfl := Except.ok.inj h
    exact hs
  | updateRoles organizationId q targetId dto =>
    obtain ⟨d, hd, rfl⟩ := map_eq_ok.mp h
    exact AccessDb.updateRoles_unique hs hd
  | deactivate organizationId q targetId =>
    obtain ⟨⟨userId, d⟩, hd, rfl⟩ := map_eq_ok.mp h
    exact WebState.unique_deactivate hs hd
  | invite r => exact (invite_grants h).unique hs
  | activate a => exact (activate_grants h).unique hs
  | tick t =>
    obtain rfl := Except.ok.inj h
    exact hs

lemma next_unique (s : AccessState) (e : AccessRequest) (hs : s.db.OnePerUser) : (s.next e).db.OnePerUser := by
  rcases attempt_cases (fun e s => exec s e) s e with hrefused | hok
  · rw [next, hrefused]
    exact hs
  · exact exec_unique hok hs

lemma exec_fresh (h : s.exec e = .ok s') (hs : s.Fresh) (hreaches : s.Reaches e) : s'.Fresh := by
  cases e with
  | web r =>
    obtain rfl := Except.ok.inj h
    exact fun sessionId x hx => Redis.serve_stored hs hx
  | updateRoles organizationId q targetId dto =>
    obtain ⟨d, hd, rfl⟩ := map_eq_ok.mp h
    have hkept := hreaches (by rw [hd]; rfl)
    intro sessionId x hx role hrole
    obtain ⟨other, horganization, hheld⟩ := hs sessionId x hx role hrole
    refine ⟨other, horganization, AccessDb.updateRoles_holds hd hheld (fun m hm hid hsame huser => ?_)⟩
    exact hkept sessionId x hx ⟨hsame ▸ horganization, m, hm, hid, huser⟩ role hrole
  | deactivate organizationId q targetId =>
    obtain ⟨⟨userId, d⟩, hd, rfl⟩ := map_eq_ok.mp h
    have hlisted := hreaches (by rw [hd]; rfl)
    intro sessionId x hx role hrole
    change (s.redis.revokeAll s.now (.organization userId organizationId)).store.get s.now sessionId = some x at hx
    rw [Redis.revokeAll_stored] at hx
    split at hx
    · cases hx
    next hnot =>
      obtain ⟨other, horganization, hheld⟩ := hs sessionId x hx role hrole
      refine ⟨other, horganization, AccessDb.deactivate_holds hd hheld (fun hsame huser => hnot ?_)⟩
      subst hsame
      obtain ⟨m, hm, hid, hmUser⟩ := AccessDb.deactivate_found hd
      rw [← huser]
      exact hlisted sessionId x hx ⟨horganization, m, hm, hid, hmUser.trans huser.symm⟩ (List.ne_nil_of_mem hrole)
  | invite r => exact fresh_grants (invite_grants h) hs
  | activate a => exact fresh_grants (activate_grants h) hs
  | tick t =>
    obtain rfl := Except.ok.inj h
    exact fun sessionId x hx => hs sessionId x (Keys.get_earlier (le_max_left _ _) hx)

lemma not_reaches_not_fresh (hunique : s.db.OnePerUser) (hoff : ¬ s.Reaches e) : ¬ (s.next e).Fresh := by
  intro hfresh
  cases e with
  | updateRoles organizationId q targetId dto =>
    refine hoff (fun haccepted sessionId x hx htarget role hrole => ?_)
    obtain ⟨d, hd⟩ : ∃ d, s.db.updateRoles organizationId q targetId dto = .ok d := ⟨_, eq_accepted haccepted⟩
    have hnext : s.next (.updateRoles organizationId q targetId dto) = { s with db := d } :=
      attempt_of_ok (map_eq_ok.mpr ⟨d, hd, rfl⟩)
    rw [hnext] at hfresh
    obtain ⟨horganization, m, hm, hid, huser⟩ := htarget
    obtain ⟨other, hother, hheld⟩ := hfresh sessionId x hx role hrole
    obtain rfl := Option.some.inj (horganization.symm.trans hother)
    exact AccessDb.updateRoles_only hunique hd hm hid (huser ▸ hheld)
  | deactivate organizationId q targetId =>
    refine hoff (fun haccepted sessionId x hx htarget hroles => ?_)
    obtain ⟨⟨userId, d⟩, hd⟩ : ∃ after, s.db.deactivate organizationId q targetId = .ok after :=
      ⟨_, eq_accepted haccepted⟩
    have hnext : s.next (.deactivate organizationId q targetId) =
        { s with db := d, redis := s.redis.revokeAll s.now (.organization userId organizationId) } :=
      attempt_of_ok (map_eq_ok.mpr ⟨(userId, d), hd, rfl⟩)
    rw [hnext] at hfresh
    obtain ⟨horganization, m, hm, hid, huser⟩ := htarget
    have htargetUser : x.auth.userId = userId := huser.symm.trans (AccessDb.deactivate_target hd hm hid)
    by_contra hnot
    have hstored : (s.redis.revokeAll s.now (.organization userId organizationId)).store.get s.now sessionId = some x := by
      rw [Redis.revokeAll_stored, ← htargetUser, if_neg hnot]
      exact hx
    obtain ⟨role, hrole⟩ := List.exists_mem_of_ne_nil _ hroles
    obtain ⟨other, hother, hheld⟩ := hfresh sessionId x hstored role hrole
    obtain rfl := Option.some.inj (horganization.symm.trans hother)
    rw [htargetUser] at hheld
    exact IdentityDb.excludes_not_holds (AccessDb.deactivate_excludes hunique hd) hheld
  | _ => exact hoff trivial

lemma reaches_of_added {organizationId targetId : Uuid} {q : Request} {dto : UpdateMembershipRolesInput} (hs : s.Fresh)
    (hadded : ∀ m ∈ (s.db.tenant organizationId).memberships.rows, m.id = targetId → ∀ role,
      (s.db.tenant organizationId).Holds m.userId role → role ∈ dto.roles) :
    s.Reaches (.updateRoles organizationId q targetId dto) := by
  intro _ sessionId x hx ⟨horganization, m, hm, hid, huser⟩ role hrole
  obtain ⟨other, hother, hheld⟩ := hs sessionId x hx role hrole
  obtain rfl := Option.some.inj (horganization.symm.trans hother)
  exact hadded m hm hid role (huser ▸ hheld)

def begin (now : Instant) (db : AccessDb) (invitation : Uuid → Uuid → Invitation) : AccessState :=
  { now, db, invitation }

lemma begin_fresh (now : Instant) (db : AccessDb) (invitation : Uuid → Uuid → Invitation) :
    (begin now db invitation).Fresh := by
  intro sessionId x hx
  cases hx

end AccessState

open AccessState

theorem roles_held {now : Instant} {db : AccessDb} {invitation : Uuid → Uuid → Invitation} (hunique : db.OnePerUser)
    (es : List AccessRequest) :
    (∀ ds, ds <+: es → (ds.foldl next (begin now db invitation)).RolesHeld) ↔
      Run (Guarded (Total next) Reaches) (begin now db invitation) es (es.foldl next (begin now db invitation)) := by
  have hstart : (begin now db invitation).RolesHeld := rolesHeld_iff.mpr (begin_fresh now db invitation)
  refine lawful_iff_guarded (J := fun s => s.db.OnePerUser) (fun s e => next_unique s e) (fun s e _ hlaw hreaches => ?_)
    (fun s e hs _ hoff hlaw => ?_) hunique hstart es
  · rw [rolesHeld_iff] at hlaw ⊢
    rcases attempt_cases (fun e s => exec s e) s e with hrefused | hok
    · rwa [next, hrefused]
    · exact exec_fresh hok hlaw hreaches
  · exact not_reaches_not_fresh hs hoff (rolesHeld_iff.mp hlaw)

instance (d : IdentityDb) (userId : Uuid) (role : MembershipRoleName) : Decidable (d.Holds userId role) :=
  inferInstanceAs (Decidable (∃ m ∈ d.memberships.rows, m.userId = userId ∧ m.status = .active ∧
    ∃ row ∈ d.roles, row.membershipId = m.id ∧ row.role = role))

namespace Sample

def admin : Request := ⟨0, fun n => 40 + n, fun _ => .stored, 2⟩

def accessStart : AccessState := AccessState.begin 0 access (fun _ _ => {})

def memberLogin : AccessRequest := .web (loginThenOther ⟨0, Nat.zero_lt_two⟩)

def promotion : List AccessRequest := [memberLogin, .updateRoles 7 admin 10 { roles := [.dispatcher, .accounting] }]

def demotion : List AccessRequest := [memberLogin, .updateRoles 7 admin 10 { roles := [.accounting] }]

/-- The session is renewed after six days, and the index key has run out at the deactivation. -/
def lateDeactivation : List AccessRequest :=
  [memberLogin, .tick (days 6), .web (loginThenOther ⟨1, Nat.one_lt_two⟩), .tick (days 8), .deactivate 7 admin 10]

end Sample

open Sample

theorem roles_held_sample : (promotion.foldl next accessStart).RolesHeld := by
  have hheld : ∀ role, members.Holds 1 role → role ∈ [.dispatcher, .accounting] := by
    intro role
    cases role <;> decide
  have hrun : Run (Guarded (Total next) Reaches) accessStart promotion (promotion.foldl next accessStart) := by
    have hlogin : accessStart.Reaches memberLogin := trivial
    have hfresh : (accessStart.next memberLogin).Fresh := exec_fresh rfl (begin_fresh _ _ _) hlogin
    refine .cons ⟨rfl, hlogin⟩ (.cons ⟨rfl, reaches_of_added hfresh (fun m hm hid role hrole => ?_)⟩ (.nil _))
    have huser : ∀ m ∈ members.memberships.rows, m.id = 10 → m.userId = 1 := by decide
    rw [huser m hm hid] at hrole
    exact hheld role hrole
  exact (roles_held access_onePerUser promotion).mpr hrun promotion List.prefix_rfl

theorem roles_outdated : ¬ (demotion.foldl next accessStart).RolesHeld ∧
    ¬ (lateDeactivation.foldl next accessStart).RolesHeld := by
  constructor
  · intro hheld
    have hstored : (demotion.foldl next accessStart).stored 100 =
        some ⟨⟨1, some 7, some 10, some [.dispatcher]⟩, 0⟩ := by decide +kernel
    obtain ⟨other, hother, hholds⟩ := rolesHeld_iff.mp hheld 100 _ hstored .dispatcher (by decide)
    obtain rfl := Option.some.inj hother
    have hnot : ¬ ((demotion.foldl next accessStart).db.tenant 7).Holds 1 .dispatcher := by decide +kernel
    exact hnot hholds
  · intro hheld
    have hstored : (lateDeactivation.foldl next accessStart).stored 100 =
        some ⟨⟨1, some 7, some 10, some [.dispatcher]⟩, 0⟩ := by decide +kernel
    obtain ⟨other, hother, hholds⟩ := rolesHeld_iff.mp hheld 100 _ hstored .dispatcher (by decide)
    obtain rfl := Option.some.inj hother
    have hnot : ¬ ((lateDeactivation.foldl next accessStart).db.tenant 7).Holds 1 .dispatcher := by decide +kernel
    exact hnot hholds

end Truckmaster.Identity
