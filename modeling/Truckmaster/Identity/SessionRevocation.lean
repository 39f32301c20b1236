import Truckmaster.Identity.WebSessions

namespace Truckmaster.Identity

open Common ExpiringKeys Fallible Runs Tables Transactions

/-- The sessions that the revocation is to end: those of the user in the organization, or those that the user had
before the password got this number. -/
def IndexKey.Outdated : IndexKey → ℕ → StoredSession → Prop
  | .organization userId organizationId, _, x =>
    x.auth.userId = userId ∧ x.auth.organizationId = some organizationId
  | .user userId, version, x => x.auth.userId = userId ∧ x.version < version

lemma IndexKey.Outdated.mem_indexKeys {k : IndexKey} {version : ℕ} {x : StoredSession} (h : k.Outdated version x) :
    k ∈ x.auth.indexKeys := by
  cases k with
  | organization userId organizationId =>
    obtain ⟨rfl, horganization⟩ := h
    simp [SessionData.indexKeys, horganization]
  | user userId =>
    obtain ⟨rfl, _⟩ := h
    exact List.mem_cons_self

namespace WebFrame

def saving : WebFrame → Option (Opened × StoredSession)
  | .enterOrganization o new _ => some (o, new)
  | .expireEntered o new _ => some (o, new)
  | .ending o new => new.map (fun new => (o, new))
  | _ => none

/-- The request takes the session away from the key. -/
def Replaces (f : WebFrame) (sessionId : Uuid) (k : IndexKey) : Prop :=
  ∃ o new, f.saving = some (o, new) ∧ o.sessionId = sessionId ∧ k ∉ new.auth.indexKeys ∧
    ∃ x, o.loaded = some x ∧ k ∈ x.auth.indexKeys

def Forgets : WebFrame → Uuid → Prop
  | .forgetOrganization o _ _, sessionId => o.sessionId = sessionId
  | .forgetUser o _, sessionId => o.sessionId = sessionId
  | _, _ => False

def Formed : WebFrame → Prop
  | .findMembership _ o current _ => o.loaded = some current
  | .getRoles _ o new organizationId login => new.auth.organizationId = some organizationId ∧
    (login = false → ∃ x, o.loaded = some x ∧ x.auth.userId = new.auth.userId)
  | .leaveOrganization o new previous _ => new.auth.organizationId ≠ some previous ∧
    ∃ x, o.loaded = some x ∧ x.auth.userId = new.auth.userId ∧ x.auth.organizationId = some previous
  | _ => True

inductive Effect (now : Instant) (f f' : WebFrame) (redis redis' : Redis) : Prop
  | keeps (store : ∀ sessionId, redis'.store.get now sessionId = redis.store.get now sessionId)
    (index : ∀ k sessionId, sessionId ∈ redis.index.smembers now k → sessionId ∈ redis'.index.smembers now k)
    (replaces : ∀ sessionId k, f.Replaces sessionId k → f'.Replaces sessionId k)
    (forgets : ∀ sessionId, ¬ f'.Forgets sessionId)
  | leaves (sessionId : Uuid) (k : IndexKey) (store : redis'.store = redis.store)
    (index : ∀ k' other, other ∈ redis.index.smembers now k' → (k' = k ∧ other = sessionId) ∨
      other ∈ redis'.index.smembers now k')
    (before : ∀ sessionId k, ¬ f.Replaces sessionId k) (replaces : f'.Replaces sessionId k)
    (forgets : ∀ sessionId, ¬ f'.Forgets sessionId)
  | sets (o : Opened) (new : StoredSession) (frame : f = .ending o (some new))
    (changed : o.loaded.map StoredSession.auth ≠ some new.auth) (next : f' = .answered)
    (store : ∀ sessionId, redis'.store.get now sessionId =
      if sessionId = o.sessionId then some new else redis.store.get now sessionId)
    (index : redis'.index = redis.index)
  | destroys (sessionId : Uuid) (before : ∀ sessionId k, ¬ f.Replaces sessionId k)
    (store : ∀ other, redis'.store.get now other = if other = sessionId then none else redis.store.get now other)
    (index : redis'.index = redis.index) (forgets : ∀ other, f'.Forgets other → other = sessionId)
  | forgets (sessionId : Uuid) (before : ∀ sessionId k, ¬ f.Replaces sessionId k) (frame : f.Forgets sessionId)
    (store : redis'.store = redis.store)
    (index : ∀ k other, other ∈ redis.index.smembers now k → other = sessionId ∨ other ∈ redis'.index.smembers now k)
    (next : ∀ other, f'.Forgets other → other = sessionId)

variable {now : Instant} {d : AccessDb} {version : Uuid → ℕ} {redis : Redis} {f : WebFrame} {o : Opened}
  {r : WebRequest} {new : StoredSession} {sessionId organizationId : Uuid} {k : IndexKey}

lemma not_replaces (h : f.saving = none) (sessionId : Uuid) (k : IndexKey) : ¬ f.Replaces sessionId k := by
  rintro ⟨o, new, hsaving, _⟩
  cases h.symm.trans hsaving

lemma replaces_saving (hsaving : f.saving = some (o, new)) :
    f.Replaces sessionId k ↔ o.sessionId = sessionId ∧ k ∉ new.auth.indexKeys ∧
      ∃ x, o.loaded = some x ∧ k ∈ x.auth.indexKeys := by
  constructor
  · rintro ⟨o', new', h, hrest⟩
    obtain ⟨rfl, rfl⟩ := Prod.mk.inj (Option.some.inj (hsaving.symm.trans h))
    exact hrest
  · exact fun h => ⟨o, new, hsaving, h⟩

lemma effect_quiet {f f' : WebFrame} (hbefore : f.saving = none) (hforgets : ∀ sessionId, ¬ f'.Forgets sessionId) :
    Effect now f f' redis redis :=
  .keeps (fun _ => rfl) (fun _ _ => id) (fun _ _ h => absurd h (not_replaces hbefore _ _)) hforgets

lemma handle_forgets : ¬ (o.handle r).Forgets sessionId := by
  unfold Opened.handle
  split <;> exact id

lemma enter_forgets : ¬ (o.enter new).Forgets sessionId := by
  unfold Opened.enter
  split <;> exact id

lemma change_forgets : ¬ (o.change new organizationId).Forgets sessionId := by
  unfold Opened.change
  split
  · exact id
  · split <;> exact id

lemma ttl_later (now : Instant) : now < now + sessionTtlMs := lt_add_of_pos_right now (by decide)

lemma effect_index {f f' : WebFrame} {g : Keys IndexKey (List Uuid) → Keys IndexKey (List Uuid)}
    (hindex : ∀ k sessionId, sessionId ∈ redis.index.smembers now k → sessionId ∈ (g redis.index).smembers now k)
    (hreplaces : ∀ sessionId k, f.Replaces sessionId k → f'.Replaces sessionId k)
    (hforgets : ∀ sessionId, ¬ f'.Forgets sessionId) : Effect now f f' redis (onIndex redis g) :=
  .keeps (fun _ => rfl) hindex hreplaces hforgets

lemma effect_ending (new : Option StoredSession) :
    Effect now (.ending o new) .answered redis { redis with store := o.save now redis.store new } := by
  by_cases hset : ∃ x, new = some x ∧ o.loaded.map StoredSession.auth ≠ some x.auth
  · obtain ⟨x, rfl, hchanged⟩ := hset
    refine .sets o x rfl hchanged rfl (fun sessionId => ?_) rfl
    rw [Opened.save, if_neg hchanged]
    exact Keys.get_set (ttl_later now)
  · have hsave : o.save now redis.store new = redis.store.expire now o.sessionId (now + sessionTtlMs) := by
      cases new with
      | none => rfl
      | some x => exact if_pos (not_not.mp (fun hne => hset ⟨x, rfl, hne⟩))
    refine .keeps (fun sessionId => ?_) (fun _ _ => id) (fun sessionId k hreplaces => ?_) (fun _ => id)
    · rw [hsave]
      exact Keys.get_expire (ttl_later now)
    · obtain ⟨o', x, hsaving, _, hnot, y, hy, hcovered⟩ := hreplaces
      obtain ⟨x', rfl, heq⟩ := Option.map_eq_some_iff.mp hsaving
      obtain ⟨rfl, rfl⟩ := Prod.mk.inj heq
      refine absurd ⟨x', rfl, fun hsame => hnot ?_⟩ hset
      rw [hy, Option.map_some, Option.some.injEq] at hsame
      exact hsame ▸ hcovered

lemma effect (h : f.Formed) : Effect now f (f.next now d version redis).1 redis (f.next now d version redis).2 := by
  cases f with
  | arriving r => exact effect_quiet rfl (fun _ => handle_forgets)
  | findByEmail r o dto =>
    dsimp only [next]
    split <;> exact effect_quiet rfl (fun _ => id)
  | listMemberships r o userId version =>
    dsimp only [next]
    split <;> exact effect_quiet rfl (fun _ => id)
  | findMembership r o current organizationId =>
    dsimp only [next]
    split <;> exact effect_quiet rfl (fun _ => id)
  | getRoles r o new organizationId login =>
    refine effect_quiet rfl (fun _ => ?_)
    dsimp only [next]
    split
    · exact id
    · exact change_forgets
  | recordSession o new =>
    dsimp only [next]
    exact effect_index (fun _ _ h => Keys.mem_smembers_sadd.mpr (Or.inl h))
      (fun _ _ h => absurd h (not_replaces rfl _ _)) (fun _ => id)
  | expireRecorded o new =>
    dsimp only [next]
    refine effect_index (fun k _ h => ?_) (fun _ _ h => absurd h (not_replaces rfl _ _)) (fun _ => enter_forgets)
    rwa [Keys.smembers_expire (ttl_later now)]
  | leaveOrganization o new previous organizationId =>
    obtain ⟨hother, x, hloaded, huser, horganization⟩ := h
    refine .leaves o.sessionId (.organization new.auth.userId previous) rfl (fun k' other hmem => ?_)
      (not_replaces rfl) ((replaces_saving rfl).mpr ⟨rfl, ?_, x, hloaded, ?_⟩) (fun _ => id)
    · by_cases hsame : k' = .organization new.auth.userId previous ∧ other = o.sessionId
      · exact Or.inl hsame
      · exact Or.inr (Keys.mem_smembers_srem.mpr ⟨hmem, hsame⟩)
    · intro hmem
      rcases List.mem_cons.mp hmem with heq | hmem
      · cases heq
      · obtain ⟨organization, horganization, heq⟩ := List.mem_map.mp hmem
        cases heq
        exact hother (Option.mem_toList.mp horganization)
    · rw [SessionData.indexKeys, horganization, huser]
      exact List.mem_cons_of_mem _ List.mem_cons_self
  | enterOrganization o new organizationId =>
    dsimp only [next]
    exact effect_index (fun _ _ h => Keys.mem_smembers_sadd.mpr (Or.inl h))
      (fun _ _ h => (replaces_saving rfl).mpr ((replaces_saving rfl).mp h)) (fun _ => id)
  | expireEntered o new organizationId =>
    dsimp only [next]
    refine effect_index (fun k _ h => ?_) (fun _ _ h => (replaces_saving rfl).mpr ((replaces_saving rfl).mp h))
      (fun _ => id)
    rwa [Keys.smembers_expire (ttl_later now)]
  | ending o new => exact effect_ending new
  | destroy o auth =>
    refine .destroys o.sessionId (not_replaces rfl) (fun other => Keys.get_del) rfl (fun other hforgets => ?_)
    dsimp only [next] at hforgets
    split at hforgets
    · exact hforgets.elim
    · exact hforgets.symm
  | forgetOrganization o auth organizationId =>
    refine .forgets o.sessionId (not_replaces rfl) rfl rfl (fun k other hmem => ?_) (fun other hforgets => hforgets.symm)
    by_cases hsame : other = o.sessionId
    · exact Or.inl hsame
    · exact Or.inr (Keys.mem_smembers_srem.mpr ⟨hmem, fun h => hsame h.2⟩)
  | forgetUser o auth =>
    refine .forgets o.sessionId (not_replaces rfl) rfl rfl (fun k other hmem => ?_) (fun other hforgets => hforgets.elim)
    by_cases hsame : other = o.sessionId
    · exact Or.inl hsame
    · exact Or.inr (Keys.mem_smembers_srem.mpr ⟨hmem, fun h => hsame h.2⟩)
  | answered => exact effect_quiet rfl (fun _ => id)

lemma formed (h : f.Formed) : (f.next now d version redis).1.Formed := by
  cases f with
  | arriving r =>
    change (Opened.handle _ r).Formed
    unfold Opened.handle
    split
    · trivial
    next hloaded => exact hloaded
    next hloaded => exact hloaded
    · trivial
    · trivial
  | findByEmail r o dto =>
    dsimp only [next]
    split <;> trivial
  | listMemberships r o userId version =>
    dsimp only [next]
    split
    · exact ⟨rfl, nofun⟩
    · trivial
  | findMembership r o current organizationId =>
    dsimp only [next]
    split
    · trivial
    · exact ⟨rfl, fun _ => ⟨current, h, rfl⟩⟩
  | getRoles r o new organizationId login =>
    obtain ⟨horganization, hlogin⟩ := h
    cases login with
    | true => trivial
    | false =>
      obtain ⟨x, hloaded, huser⟩ := hlogin rfl
      change (Opened.change o _ organizationId).Formed
      unfold Opened.change
      split
      · trivial
      next previous hprevious =>
        split
        · trivial
        next hne =>
          rw [hloaded, Option.bind_some] at hprevious
          exact ⟨fun heq => hne (Option.some.inj (heq.symm.trans horganization)), x, hloaded, huser, hprevious⟩
  | expireRecorded o new =>
    change (o.enter new).Formed
    unfold Opened.enter
    split <;> trivial
  | destroy o auth =>
    dsimp only [next]
    split <;> trivial
  | _ => trivial

end WebFrame

namespace RevocationFrame

def target : RevocationFrame → Option (IndexKey × ℕ)
  | .readIndex k version => some (k, version)
  | .deleteSessions k version _ => some (k, version)
  | .returned k version => some (k, version)
  | _ => none

def Reads : RevocationFrame → IndexKey → ℕ → Prop
  | .readIndex k version, k', version' => k = k' ∧ version = version'
  | _, _, _ => False

def Deletes : RevocationFrame → IndexKey → Prop
  | .deleteSessions k _ _, k' => k = k'
  | _, _ => False

end RevocationFrame

section Db

variable {d : IdentityDb} {userId : Uuid}

def IdentityDb.Excludes (d : IdentityDb) (userId : Uuid) : Prop :=
  ∀ m ∈ d.memberships.rows, m.userId = userId → m.status ≠ .active

def IdentityDb.OnePerUser (d : IdentityDb) : Prop := (d.memberships.rows.map OrganizationMembership.userId).Nodup

lemma write_users (w : IdentityWrite) (d : IdentityDb) :
    (d.write w).memberships.rows.map OrganizationMembership.userId =
      d.memberships.rows.map OrganizationMembership.userId := by
  cases w with
  | setInactive q id =>
    change ((d.memberships.update id (.deactivated q) (deactivated_id q)).rows.map _) = _
    rw [Table.update_rows, List.map_map]
    refine List.map_congr_left (fun m _ => ?_)
    simp only [Function.comp_apply]
    split <;> rfl
  | _ => rfl

lemma write_excludes (w : IdentityWrite) (d : IdentityDb) (h : d.Excludes userId) : (d.write w).Excludes userId := by
  cases w with
  | setInactive q id =>
    intro m hm huser
    rcases (d.memberships.mem_update id (.deactivated q) (deactivated_id q)).mp hm with ⟨a, _, _, rfl⟩ | ⟨hmem, _⟩
    · exact nofun
    · exact h m hmem huser
  | _ => exact h

lemma call_keeps {P : IdentityDb → Prop} (hP : ∀ w d, P d → P (d.write w)) (r : MembershipRequest) (hd : P d) :
    P (MembershipService.call r d).2 := by
  have hassert := Txn.commit_keeps hP (MembershipService.assertHasRole r) hd
  unfold MembershipService.call
  rcases h : (MembershipService.assertHasRole r).commit IdentityDb.write d with ⟨e | _, t⟩ <;> rw [h] at hassert
  · exact hassert
  · exact Txn.commit_keeps hP _ hassert

lemma call_ok {r : MembershipRequest} {t : IdentityDb} (h : MembershipService.call r d = (.ok (), t)) :
    d.IsActive r.targetId ∧ (MembershipService.change r r.op >>= fun _ =>
      Txn.write (.record (r.event r.op.action .human))).run IdentityDb.write d = (.ok (), t) := by
  unfold MembershipService.call at h
  rcases MembershipService.commit_assertHasRole r d with ⟨hassert, hadmits⟩ | ⟨hassert, _⟩ <;> rw [hassert] at h
  · have hrun := Txn.commit_eq_ok.mp h
    have hactive : d.IsActive r.targetId := by
      obtain ⟨target, _, hfound, _⟩ := Txn.run_bind_ok.mp hrun
      simp only [MembershipService.requireMembership, Txn.run_bind, Txn.run_read, Txn.run_lift, Prod.mk.injEq] at hfound
      exact ⟨target, MembershipService.requireMembership_ok hfound.1⟩
    by_cases hlast : MembershipService.LastAdmin r d
    · obtain ⟨e, herror⟩ := MembershipService.run_lastAdmin hlast
      cases herror.symm.trans hrun
    · rcases MembershipService.run_not_lastAdmin hadmits hlast with ⟨e, herror⟩ | hchange
      · cases herror.symm.trans hrun
      · exact ⟨hactive, hchange ▸ hrun⟩
  · cases h

lemma call_deactivated {q : Request} {targetId : Uuid} {t : IdentityDb}
    (h : MembershipService.call ⟨q, targetId, .deactivate⟩ d = (.ok (), t)) :
    t = { d with
      memberships := d.memberships.update targetId (.deactivated q) (deactivated_id q)
      audit := d.audit ++ [MembershipRequest.event ⟨q, targetId, .deactivate⟩ "User Deactivated" .human] } := by
  obtain ⟨_, hrun⟩ := call_ok h
  exact (Prod.mk.inj hrun).2.symm

lemma deactivated_inactive {q : Request} {targetId : Uuid} {m : OrganizationMembership}
    (hm : m ∈ (d.memberships.update targetId (.deactivated q) (deactivated_id q)).rows) (hid : m.id = targetId) :
    m.status = .inactive := by
  rcases (d.memberships.mem_update targetId (.deactivated q) (deactivated_id q)).mp hm with ⟨_, _, _, rfl⟩ | ⟨_, hne⟩
  · rfl
  · exact absurd hid hne

end Db

namespace AccessDb

variable {d t : AccessDb} {organizationId userId targetId : Uuid} {q : Request}

def OnePerUser (d : AccessDb) : Prop := ∀ organizationId, (d.tenant organizationId).OnePerUser

lemma deactivate_ok (h : d.deactivate organizationId q targetId = .ok (userId, t)) :
    ∃ rows updated, MembershipService.call ⟨q, targetId, .deactivate⟩ (d.tenant organizationId) = (.ok (), rows) ∧
      updated ∈ rows.memberships.rows ∧ updated.id = targetId ∧ updated.userId = userId ∧
      t = { d with tenant := Function.update d.tenant organizationId rows } := by
  unfold deactivate at h
  rcases hcall : MembershipService.call ⟨q, targetId, .deactivate⟩ (d.tenant organizationId) with ⟨e | _, rows⟩
  · rw [hcall] at h
    cases h
  · rw [hcall] at h
    simp only [bind_eq_ok, require_eq_ok, pure_eq_ok, Prod.mk.injEq] at h
    obtain ⟨updated, hfound, huser, rfl⟩ := h
    have hid : updated.id = targetId := by simpa using List.find?_some hfound
    exact ⟨rows, updated, rfl, List.mem_of_find?_eq_some hfound, hid, huser, rfl⟩

lemma deactivate_tenant {P : IdentityDb → Prop} (hP : ∀ w d, P d → P (d.write w)) {other : Uuid}
    (h : d.deactivate organizationId q targetId = .ok (userId, t)) (hd : P (d.tenant other)) : P (t.tenant other) := by
  obtain ⟨rows, updated, hcall, _, _, _, rfl⟩ := deactivate_ok h
  by_cases hsame : other = organizationId
  · subst hsame
    have hkeeps := call_keeps hP ⟨q, targetId, .deactivate⟩ hd
    rw [hcall] at hkeeps
    simpa using hkeeps
  · simpa [hsame] using hd

lemma deactivate_includes (h : d.deactivate organizationId q targetId = .ok (userId, t)) :
    ¬ (d.tenant organizationId).Excludes userId := by
  obtain ⟨rows, updated, hcall, hmem, hid, rfl, _⟩ := deactivate_ok h
  obtain ⟨⟨m, hm, hmid, hactive⟩, _⟩ := call_ok hcall
  obtain rfl := call_deactivated hcall
  rcases ((d.tenant organizationId).memberships.mem_update targetId (.deactivated q) (deactivated_id q)).mp hmem with
    ⟨a, ha, haid, rfl⟩ | ⟨_, hne⟩
  · obtain rfl := (d.tenant organizationId).memberships.eq_of_key hm ha (hmid.trans haid.symm)
    exact fun hexcludes => hexcludes m hm rfl hactive
  · exact absurd hid hne

lemma deactivate_excludes (hd : d.OnePerUser) (h : d.deactivate organizationId q targetId = .ok (userId, t)) :
    (t.tenant organizationId).Excludes userId := by
  have hunique := deactivate_tenant (P := IdentityDb.OnePerUser)
    (fun w d hd => by rw [IdentityDb.OnePerUser, write_users]; exact hd) h (hd organizationId)
  obtain ⟨rows, updated, hcall, hmem, hid, huser, rfl⟩ := deactivate_ok h
  simp only [Function.update_self] at hunique ⊢
  intro m hm hsame
  obtain rfl := List.inj_on_of_nodup_map hunique hm hmem (hsame.trans huser.symm)
  rw [call_deactivated hcall] at hm
  rw [deactivated_inactive hm hid]
  exact nofun

end AccessDb

namespace WebState

variable {I J : Type} {s t : WebState I J} {i : I} {j : J} {k : IndexKey} {sessionId : Uuid} {x new : StoredSession}
  {version : ℕ}

def stored (s : WebState I J) (sessionId : Uuid) : Option StoredSession := s.redis.store.get s.now sessionId

def members (s : WebState I J) (k : IndexKey) : List Uuid := s.redis.index.smembers s.now k

def Replaced (s : WebState I J) (sessionId : Uuid) (k : IndexKey) : Prop := ∃ i, (s.request i).Replaces sessionId k

/-- A session that has changed may be saved: its keys list it and none of them is being deleted, no logout is removing
it from them, and where a deactivation or a reset is committed that is to end it, that one is still to read its key. -/
structure MaySave (s : WebState I J) (sessionId : Uuid) (new : StoredSession) : Prop where
  listed : ∀ k ∈ new.auth.indexKeys, sessionId ∈ s.members k ∧ ∀ j, ¬ (s.revocation j).Deletes k
  kept : ∀ i, ¬ (s.request i).Forgets sessionId
  active : ∀ organizationId ∈ new.auth.organizationId, (s.db.tenant organizationId).Excludes new.auth.userId →
    ∃ j, (s.revocation j).Reads (.organization new.auth.userId organizationId) 0
  password : ∀ version ≤ s.version new.auth.userId, new.version < version →
    ∃ j, (s.revocation j).Reads (.user new.auth.userId) version

/-- No key that lists a session runs out before the session does, and no session is saved that may not be. -/
def Sound (s : WebState I J) : WebEvent I J → Prop
  | .request i => ∀ o new, s.request i = .ending o (some new) → o.loaded.map StoredSession.auth ≠ some new.auth →
    s.MaySave o.sessionId new
  | .revocation _ => True
  | .tick t => ∀ sessionId x, s.redis.store.get (max s.now t) sessionId = some x → ∀ k ∈ x.auth.indexKeys,
    sessionId ∈ s.members k → (s.redis.index.get (max s.now t) k).isSome

/-- The rows show a revocation of this key under this number, and a deactivation has none. -/
def Barred (s : WebState I J) : IndexKey → ℕ → Prop
  | .organization userId organizationId, version => version = 0 ∧ (s.db.tenant organizationId).Excludes userId
  | .user userId, version => version ≤ s.version userId

structure Tracked (s : WebState I J) : Prop where
  formed : ∀ i, (s.request i).Formed
  unique : s.db.OnePerUser
  listed : ∀ sessionId x, s.stored sessionId = some x → ∀ k ∈ x.auth.indexKeys,
    sessionId ∈ s.members k ∨ s.Replaced sessionId k
  forgotten : ∀ i sessionId, (s.request i).Forgets sessionId → s.stored sessionId = none
  pending : ∀ j k version pending, s.revocation j = .deleteSessions k version pending → ∀ sessionId x,
    s.stored sessionId = some x → k ∈ x.auth.indexKeys → sessionId ∈ pending ∨ s.Replaced sessionId k
  barred : ∀ j k version, (s.revocation j).target = some (k, version) → s.Barred k version
  single : ∀ j j' k version, (s.revocation j).target = some (k, version) → (s.revocation j').target = some (k, version) →
    j = j'
  gone : ∀ j k version, s.revocation j = .returned k version → ∀ sessionId x, s.stored sessionId = some x →
    k.Outdated version x → s.Replaced sessionId k

lemma MaySave.still_reads (h : s.MaySave sessionId new) (hbarred : s.Barred k version) (houtdated : k.Outdated version new) :
    ∃ j, (s.revocation j).Reads k version := by
  cases k with
  | organization userId organizationId =>
    obtain ⟨rfl, hexcludes⟩ := hbarred
    obtain ⟨rfl, horganization⟩ := houtdated
    exact h.active organizationId horganization hexcludes
  | user userId =>
    obtain ⟨rfl, hlt⟩ := houtdated
    exact h.password version hbarred hlt

lemma MaySave.not_outdated (h : s.MaySave sessionId new) (hs : s.Tracked) (hj : s.revocation j = .returned k version) :
    ¬ k.Outdated version new := by
  intro houtdated
  have htarget : (s.revocation j).target = some (k, version) := by rw [hj]; rfl
  obtain ⟨j', hreads⟩ := h.still_reads (hs.barred j k version htarget) houtdated
  cases hframe : s.revocation j' with
  | readIndex k' version' =>
    rw [hframe] at hreads
    obtain ⟨rfl, rfl⟩ := hreads
    obtain rfl := hs.single j j' k' version' htarget (by rw [hframe]; rfl)
    cases hj.symm.trans hframe
  | _ => rw [hframe] at hreads; exact hreads

section Request

variable [DecidableEq I] {f' : WebFrame} {redis' : Redis}

def advance (s : WebState I J) (i : I) (f' : WebFrame) (redis' : Redis) : WebState I J :=
  { s with redis := redis', request := Function.update s.request i f' }

lemma advance_replaced (hreplaces : ∀ sessionId k, (s.request i).Replaces sessionId k → f'.Replaces sessionId k)
    (h : s.Replaced sessionId k) : (s.advance i f' redis').Replaced sessionId k := by
  obtain ⟨i', hi'⟩ := h
  refine ⟨i', ?_⟩
  by_cases hsame : i' = i
  · subst hsame
    simpa [advance] using hreplaces _ _ hi'
  · simpa [advance, hsame] using hi'

lemma advance_replaced_quiet (hbefore : ∀ sessionId k, ¬ (s.request i).Replaces sessionId k)
    (h : s.Replaced sessionId k) : (s.advance i f' redis').Replaced sessionId k :=
  advance_replaced (fun _ _ h => absurd h (hbefore _ _)) h

lemma advance_tracked (hs : s.Tracked) (hformed : f'.Formed)
    (hstore : ∀ sessionId x, redis'.store.get s.now sessionId = some x → s.stored sessionId = some x)
    (hindex : ∀ sessionId x k, redis'.store.get s.now sessionId = some x → sessionId ∈ s.members k →
      sessionId ∈ redis'.index.smembers s.now k ∨ (s.advance i f' redis').Replaced sessionId k)
    (hreplaced : ∀ sessionId x k, redis'.store.get s.now sessionId = some x → s.Replaced sessionId k →
      (s.advance i f' redis').Replaced sessionId k)
    (hforgets : ∀ sessionId, f'.Forgets sessionId → redis'.store.get s.now sessionId = none) :
    (s.advance i f' redis').Tracked := by
  constructor
  · intro i'
    by_cases hsame : i' = i
    · subst hsame
      simpa [advance] using hformed
    · simpa [advance, hsame] using hs.formed i'
  · exact hs.unique
  · intro sessionId x hx k hk
    rcases hs.listed sessionId x (hstore _ _ hx) k hk with hmem | hreplacing
    · exact hindex sessionId x k hx hmem
    · exact Or.inr (hreplaced _ _ _ hx hreplacing)
  · intro i' sessionId hforget
    by_cases hsame : i' = i
    · subst hsame
      refine hforgets sessionId ?_
      simpa [advance] using hforget
    · have hnone := hs.forgotten i' sessionId (by simpa [advance, hsame] using hforget)
      cases hafter : redis'.store.get s.now sessionId with
      | none => exact hafter
      | some x => cases hnone.symm.trans (hstore _ _ hafter)
  · intro j k version pending hj sessionId x hx hk
    rcases hs.pending j k version pending hj sessionId x (hstore _ _ hx) hk with hmem | hreplacing
    · exact Or.inl hmem
    · exact Or.inr (hreplaced _ _ _ hx hreplacing)
  · exact hs.barred
  · exact hs.single
  · intro j k version hj sessionId x hx houtdated
    exact hreplaced _ _ _ hx (hs.gone j k version hj sessionId x (hstore _ _ hx) houtdated)

lemma set_tracked {o : Opened} (hs : s.Tracked) (hframe : s.request i = .ending o (some new))
    (hmay : s.MaySave o.sessionId new)
    (hstore : ∀ sessionId, redis'.store.get s.now sessionId =
      if sessionId = o.sessionId then some new else s.stored sessionId)
    (hindex : redis'.index = s.redis.index) : (s.advance i .answered redis').Tracked := by
  have hother (sessionId : Uuid) (k : IndexKey) (hne : sessionId ≠ o.sessionId) (h : s.Replaced sessionId k) :
      (s.advance i .answered redis').Replaced sessionId k := by
    obtain ⟨i', hi'⟩ := h
    refine ⟨i', ?_⟩
    by_cases hsame : i' = i
    · subst hsame
      rw [hframe] at hi'
      exact absurd ((WebFrame.replaces_saving rfl).mp hi').1.symm hne
    · simpa [advance, hsame] using hi'
  have hcases (sessionId : Uuid) (x : StoredSession) (hx : redis'.store.get s.now sessionId = some x) :
      sessionId = o.sessionId ∧ x = new ∨ sessionId ≠ o.sessionId ∧ s.stored sessionId = some x := by
    rw [hstore] at hx
    split at hx
    next heq => exact Or.inl ⟨heq, (Option.some.inj hx).symm⟩
    next hne => exact Or.inr ⟨hne, hx⟩
  constructor
  · intro i'
    by_cases hsame : i' = i
    · subst hsame
      simp [advance, WebFrame.Formed]
    · simpa [advance, hsame] using hs.formed i'
  · exact hs.unique
  · intro sessionId x hx k hk
    have hmembers : (s.advance i .answered redis').members k = s.members k := congrArg (fun index => index.smembers s.now k) hindex
    rw [hmembers]
    rcases hcases sessionId x hx with ⟨rfl, rfl⟩ | ⟨hne, hold⟩
    · exact Or.inl (hmay.listed k hk).1
    · exact (hs.listed sessionId x hold k hk).imp id (hother sessionId k hne)
  · intro i' sessionId hforget
    by_cases hsame : i' = i
    · subst hsame
      simp [advance, WebFrame.Forgets] at hforget
    · have hforget' : (s.request i').Forgets sessionId := by simpa [advance, hsame] using hforget
      change redis'.store.get s.now sessionId = none
      rw [hstore, if_neg (fun heq : sessionId = o.sessionId => hmay.kept i' (heq ▸ hforget'))]
      exact hs.forgotten i' sessionId hforget'
  · intro j k version pending hj sessionId x hx hk
    rcases hcases sessionId x hx with ⟨rfl, rfl⟩ | ⟨hne, hold⟩
    · refine absurd ?_ ((hmay.listed k hk).2 j)
      rw [show s.revocation j = _ from hj]
      rfl
    · exact (hs.pending j k version pending hj sessionId x hold hk).imp id (hother sessionId k hne)
  · exact hs.barred
  · exact hs.single
  · intro j k version hj sessionId x hx houtdated
    rcases hcases sessionId x hx with ⟨rfl, rfl⟩ | ⟨hne, hold⟩
    · exact absurd houtdated (hmay.not_outdated hs hj)
    · exact hother sessionId k hne (hs.gone j k version hj sessionId x hold houtdated)

lemma request_tracked [DecidableEq J] (hs : s.Tracked) (hsound : s.Sound (.request i)) : (s.next (.request i)).Tracked := by
  have hformed : ((s.request i).next s.now s.db s.version s.redis).1.Formed := WebFrame.formed (hs.formed i)
  have heffect : WebFrame.Effect s.now (s.request i) ((s.request i).next s.now s.db s.version s.redis).1 s.redis
      ((s.request i).next s.now s.db s.version s.redis).2 := WebFrame.effect (hs.formed i)
  change (s.advance i ((s.request i).next s.now s.db s.version s.redis).1
    ((s.request i).next s.now s.db s.version s.redis).2).Tracked
  generalize (s.request i).next s.now s.db s.version s.redis = after at hformed heffect
  obtain ⟨f', redis'⟩ := after
  cases heffect with
  | keeps hstore hindex hreplaces hforgets =>
    refine advance_tracked hs hformed (fun sessionId x hx => (hstore sessionId).symm.trans hx)
      (fun sessionId x k _ hmem => Or.inl (hindex k sessionId hmem)) (fun _ _ _ _ h => advance_replaced hreplaces h)
      (fun sessionId h => absurd h (hforgets sessionId))
  | leaves left kLeft hstore hindex hbefore hreplaces hforgets =>
    dsimp only at hstore hindex hreplaces hforgets
    refine advance_tracked hs hformed (fun sessionId x hx => by rwa [hstore] at hx) (fun sessionId x k _ hmem => ?_)
      (fun _ _ _ _ h => advance_replaced_quiet hbefore h) (fun sessionId h => absurd h (hforgets sessionId))
    rcases hindex k sessionId hmem with ⟨rfl, rfl⟩ | hstill
    · exact Or.inr ⟨i, by simpa [advance] using hreplaces⟩
    · exact Or.inl hstill
  | sets o new hframe hchanged hnext hstore hindex =>
    dsimp only at hnext hstore hindex
    subst hnext
    exact set_tracked hs hframe (hsound o new hframe hchanged) hstore hindex
  | destroys destroyed hbefore hstore hindex hforgets =>
    dsimp only at hstore hindex hforgets
    refine advance_tracked hs hformed (fun sessionId x hx => ?_) (fun sessionId x k _ hmem => Or.inl (hindex ▸ hmem))
      (fun _ _ _ _ h => advance_replaced_quiet hbefore h) (fun sessionId h => ?_)
    · rw [hstore] at hx
      split at hx
      · cases hx
      · exact hx
    · rw [hforgets sessionId h, hstore, if_pos rfl]
  | forgets forgotten hbefore hframe hstore hindex hnext =>
    dsimp only at hstore hindex hnext
    have hnone := hs.forgotten i forgotten hframe
    refine advance_tracked hs hformed (fun sessionId x hx => by rwa [hstore] at hx) (fun sessionId x k hx hmem => ?_)
      (fun _ _ _ _ h => advance_replaced_quiet hbefore h) (fun sessionId h => ?_)
    · rcases hindex k sessionId hmem with rfl | hstill
      · rw [hstore] at hx
        cases hnone.symm.trans hx
      · exact Or.inl hstill
    · rw [hnext sessionId h, hstore]
      exact hnone

end Request

section Revocation

lemma barred_mono (hdb : ∀ organizationId userId, (s.db.tenant organizationId).Excludes userId →
      (t.db.tenant organizationId).Excludes userId) (hversion : ∀ userId, s.version userId ≤ t.version userId)
    (h : s.Barred k version) : t.Barred k version := by
  cases k with
  | organization userId organizationId => exact ⟨h.1, hdb organizationId userId h.2⟩
  | user userId => exact le_trans h (hversion userId)

lemma revoke_tracked_of [DecidableEq J] (hs : s.Tracked) (frame : RevocationFrame) (hunique : t.db.OnePerUser)
    (hdb : ∀ organizationId userId, (s.db.tenant organizationId).Excludes userId →
      (t.db.tenant organizationId).Excludes userId) (hversion : ∀ userId, s.version userId ≤ t.version userId)
    (hrequest : t.request = s.request) (hrevocation : t.revocation = Function.update s.revocation j frame)
    (hstore : ∀ sessionId x, t.stored sessionId = some x → s.stored sessionId = some x)
    (hindex : ∀ sessionId x k, t.stored sessionId = some x → k ∈ x.auth.indexKeys → sessionId ∈ s.members k →
      sessionId ∈ t.members k ∨ s.Replaced sessionId k)
    (hpending : ∀ k version pending, frame = .deleteSessions k version pending → ∀ sessionId x,
      t.stored sessionId = some x → k ∈ x.auth.indexKeys → sessionId ∈ pending ∨ s.Replaced sessionId k)
    (hbarred : ∀ k version, frame.target = some (k, version) → t.Barred k version)
    (hsingle : ∀ k version, frame.target = some (k, version) →
      (s.revocation j).target = some (k, version) ∨ ¬ s.Barred k version)
    (hgone : ∀ k version, frame = .returned k version → ∀ sessionId x, t.stored sessionId = some x →
      k ∈ x.auth.indexKeys → s.Replaced sessionId k) : t.Tracked := by
  have hreplaced (sessionId : Uuid) (k : IndexKey) : t.Replaced sessionId k ↔ s.Replaced sessionId k := by
    rw [Replaced, Replaced, hrequest]
  constructor
  · rw [hrequest]
    exact hs.formed
  · exact hunique
  · intro sessionId x hx k hk
    rw [hreplaced]
    rcases hs.listed sessionId x (hstore _ _ hx) k hk with hmem | hreplacing
    · exact hindex sessionId x k hx hk hmem
    · exact Or.inr hreplacing
  · intro i sessionId hforget
    rw [hrequest] at hforget
    cases hafter : t.stored sessionId with
    | none => rfl
    | some x => cases (hs.forgotten i sessionId hforget).symm.trans (hstore _ _ hafter)
  · intro j' k version pending hj sessionId x hx hk
    rw [hreplaced]
    rw [hrevocation, Function.update_apply] at hj
    split at hj
    · exact hpending k version pending hj sessionId x hx hk
    · exact hs.pending j' k version pending hj sessionId x (hstore _ _ hx) hk
  · intro j' k version hj
    rw [hrevocation, Function.update_apply] at hj
    split at hj
    · exact hbarred k version hj
    · exact barred_mono hdb hversion (hs.barred j' k version hj)
  · have halone (j' : J) (k : IndexKey) (version : ℕ) (hframe : frame.target = some (k, version))
        (hj' : (s.revocation j').target = some (k, version)) : j = j' :=
      (hsingle k version hframe).elim (fun hj => hs.single j j' k version hj hj')
        (fun hnot => absurd (hs.barred j' k version hj') hnot)
    intro j₁ j₂ k version h₁ h₂
    rw [hrevocation, Function.update_apply] at h₁ h₂
    split at h₁ <;> split at h₂
    next heq heq' => exact heq.trans heq'.symm
    next heq _ => exact heq.trans (halone j₂ k version h₁ h₂)
    next _ heq => exact (halone j₁ k version h₂ h₁).symm.trans heq.symm
    next => exact hs.single j₁ j₂ k version h₁ h₂
  · intro j' k version hj sessionId x hx houtdated
    rw [hreplaced]
    rw [hrevocation, Function.update_apply] at hj
    split at hj
    · exact hgone k version hj sessionId x hx houtdated.mem_indexKeys
    · exact hs.gone j' k version hj sessionId x (hstore _ _ hx) houtdated

lemma unique_deactivate {d d' : AccessDb} {organizationId userId targetId : Uuid} {q : Request} (hd : d.OnePerUser)
    (h : d.deactivate organizationId q targetId = .ok (userId, d')) : d'.OnePerUser := fun other =>
  AccessDb.deactivate_tenant (P := IdentityDb.OnePerUser)
    (fun w d hd => by rw [IdentityDb.OnePerUser, write_users]; exact hd) h (hd other)

lemma resetPassword_tenant {d d' : AccessDb} {p : PasswordChange} {userId : Uuid}
    (h : d.resetPassword p = .ok (userId, d')) : d'.tenant = d.tenant := by
  simp only [AccessDb.resetPassword, bind_eq_ok, pure_eq_ok, Prod.mk.injEq] at h
  obtain ⟨_, _, _, _, _, _, _, _, _, rfl⟩ := h
  rfl

variable [DecidableEq J]

lemma refused_tracked (hs : s.Tracked) (e : AppError) :
    Tracked { s with revocation := Function.update s.revocation j (.refused e) } :=
  revoke_tracked_of hs (.refused e) hs.unique (fun _ _ => id) (fun _ => le_rfl) rfl rfl (fun _ _ => id)
    (fun _ _ _ _ _ => Or.inl) nofun nofun nofun nofun

lemma commitDeactivate_tracked (hs : s.Tracked) (organizationId targetId : Uuid) (q : Request) :
    (s.commitDeactivate j (s.db.deactivate organizationId q targetId) organizationId).Tracked := by
  cases h : s.db.deactivate organizationId q targetId with
  | error e => exact refused_tracked hs e
  | ok result =>
    obtain ⟨userId, d⟩ := result
    refine revoke_tracked_of hs (.readIndex (.organization userId organizationId) 0) (unique_deactivate hs.unique h)
      (fun other user hexcludes => ?_) (fun _ => le_rfl) rfl rfl (fun _ _ => id) (fun _ _ _ _ _ => Or.inl) nofun
      (fun k version htarget => ?_) (fun k version htarget => ?_) nofun
    · exact AccessDb.deactivate_tenant (P := fun d => d.Excludes user) (fun w d => write_excludes w d) h hexcludes
    · obtain ⟨rfl, rfl⟩ := Prod.mk.inj (Option.some.inj htarget)
      exact ⟨rfl, AccessDb.deactivate_excludes hs.unique h⟩
    · obtain ⟨rfl, rfl⟩ := Prod.mk.inj (Option.some.inj htarget)
      exact Or.inr (fun hbarred => AccessDb.deactivate_includes h hbarred.2)

lemma commitReset_tracked (hs : s.Tracked) (p : PasswordChange) :
    (s.commitReset j (s.db.resetPassword p)).Tracked := by
  cases h : s.db.resetPassword p with
  | error e => exact refused_tracked hs e
  | ok result =>
    obtain ⟨userId, d⟩ := result
    have htenant := resetPassword_tenant h
    refine revoke_tracked_of hs (.readIndex (.user userId) (s.version userId + 1)) ?_ ?_ (fun other => ?_) rfl rfl
      (fun _ _ => id) (fun _ _ _ _ _ => Or.inl) nofun (fun k version htarget => ?_)
      (fun k version htarget => ?_) nofun
    · exact fun organizationId => (congrFun htenant organizationId) ▸ hs.unique organizationId
    · exact fun organizationId user hexcludes => (congrFun htenant organizationId) ▸ hexcludes
    · change _ ≤ Function.update s.version userId (s.version userId + 1) other
      rw [Function.update_apply]
      split
      next heq => exact heq ▸ Nat.le_succ _
      next => exact le_rfl
    · obtain ⟨rfl, rfl⟩ := Prod.mk.inj (Option.some.inj htarget)
      exact (Function.update_self userId (s.version userId + 1) s.version).ge
    · obtain ⟨rfl, rfl⟩ := Prod.mk.inj (Option.some.inj htarget)
      exact Or.inr (Nat.not_succ_le_self (s.version userId))

lemma revoke_tracked (hs : s.Tracked) (j : J) : (s.revoke j).Tracked := by
  unfold revoke
  have hbarred := hs.barred j
  have hpending := hs.pending j
  split
  · exact commitDeactivate_tracked hs _ _ _
  · exact commitReset_tracked hs _
  next k version hframe =>
    have hbefore : (s.revocation j).target = some (k, version) := by rw [hframe]; rfl
    refine revoke_tracked_of hs _ hs.unique (fun _ _ => id) (fun _ => le_rfl) rfl rfl (fun _ _ => id)
      (fun _ _ _ _ _ => Or.inl) (fun k' version' pending heq sessionId x hx hk => ?_) (fun k' version' htarget => ?_)
      (fun k' version' htarget => ?_) (fun k' version' heq sessionId x hx hk => ?_)
    · split at heq
      · cases heq
      next hsome =>
        cases heq
        exact hs.listed sessionId x hx k hk
    · split at htarget <;> cases htarget <;> exact hbarred k version hbefore
    · split at htarget <;> cases htarget <;> exact Or.inl hbefore
    · split at heq
      next hnone =>
        cases heq
        refine (hs.listed sessionId x hx k hk).resolve_left (fun hmem => ?_)
        rw [members, hnone] at hmem
        exact List.not_mem_nil hmem
      · cases heq
  next k version deleted pending hframe =>
    have hbefore : (s.revocation j).target = some (k, version) := by rw [hframe]; rfl
    have hstored (sessionId : Uuid) (x : StoredSession)
        (hx : (s.redis.store.del deleted).get s.now sessionId = some x) :
        sessionId ≠ deleted ∧ s.stored sessionId = some x := by
      rw [Keys.get_del] at hx
      split at hx
      · cases hx
      next hne => exact ⟨hne, hx⟩
    refine revoke_tracked_of hs (.deleteSessions k version pending) hs.unique (fun _ _ => id) (fun _ => le_rfl) rfl rfl
      (fun sessionId x hx => (hstored sessionId x hx).2) (fun _ _ _ _ _ => Or.inl)
      (fun k' version' pending' heq sessionId x hx hk => ?_) (fun k' version' htarget => ?_)
      (fun k' version' htarget => Or.inl (hbefore.trans htarget)) nofun
    · obtain ⟨rfl, rfl, rfl⟩ := RevocationFrame.deleteSessions.inj heq
      obtain ⟨hne, hold⟩ := hstored sessionId x hx
      exact (hpending k version (deleted :: pending) hframe sessionId x hold hk).imp
        (fun hmem => (List.mem_cons.mp hmem).resolve_left hne) id
    · exact hbarred k' version' (hbefore.trans htarget)
  next k version hframe =>
    have hbefore : (s.revocation j).target = some (k, version) := by rw [hframe]; rfl
    have hnone (sessionId : Uuid) (x : StoredSession) (hx : s.stored sessionId = some x) (hk : k ∈ x.auth.indexKeys) :
        s.Replaced sessionId k :=
      (hpending k version [] hframe sessionId x hx hk).resolve_left List.not_mem_nil
    refine revoke_tracked_of hs (.returned k version) hs.unique (fun _ _ => id) (fun _ => le_rfl) rfl rfl
      (fun _ _ => id) (fun sessionId x k' hx hk hmem => ?_) nofun (fun k' version' htarget => ?_)
      (fun k' version' htarget => Or.inl (hbefore.trans htarget)) (fun k' version' heq sessionId x hx hk => ?_)
    · by_cases hsame : k' = k
      · exact Or.inr (hsame ▸ hnone sessionId x hx (hsame ▸ hk))
      · exact Or.inl (Keys.mem_smembers_del.mpr ⟨hmem, hsame⟩)
    · exact hbarred k' version' (hbefore.trans htarget)
    · obtain ⟨rfl, rfl⟩ := RevocationFrame.returned.inj heq
      exact hnone sessionId x hx hk
  · exact hs
  · exact hs

lemma tick_tracked {u : Instant} [DecidableEq I] (hs : s.Tracked) (hsound : s.Sound (.tick u)) :
    (s.next (.tick u)).Tracked := by
  have hle : s.now ≤ max s.now u := le_max_left _ _
  have hstored (sessionId : Uuid) (x : StoredSession) (hx : (s.next (.tick u)).stored sessionId = some x) :
      s.stored sessionId = some x := Keys.get_earlier hle hx
  refine ⟨hs.formed, hs.unique, fun sessionId x hx k hk => ?_, fun i sessionId hforget => ?_,
    fun j k version pending hj sessionId x hx hk => hs.pending j k version pending hj sessionId x (hstored _ _ hx) hk,
    hs.barred, hs.single, fun j k version hj sessionId x hx => hs.gone j k version hj sessionId x (hstored _ _ hx)⟩
  · refine (hs.listed sessionId x (hstored _ _ hx) k hk).imp (fun hmem => ?_) id
    exact Keys.mem_smembers_later hle (hsound sessionId x hx k hk hmem) hmem
  · cases hafter : (s.next (.tick u)).stored sessionId with
    | none => rfl
    | some x => cases (hs.forgotten i sessionId hforget).symm.trans (hstored _ _ hafter)

end Revocation

lemma next_tracked [DecidableEq I] [DecidableEq J] {e : WebEvent I J} (hs : s.Tracked) (hsound : s.Sound e) :
    (s.next e).Tracked := by
  cases e with
  | request i => exact request_tracked hs hsound
  | revocation j => exact revoke_tracked hs j
  | tick u => exact tick_tracked hs hsound

section Runs

variable [DecidableEq I] [DecidableEq J] {e : WebEvent I J} {es es' : List (WebEvent I J)}

def begin (now : Instant) (db : AccessDb) (requests : I → WebRequest) (revocations : J → RevocationOp) :
    WebState I J where
  now := now
  db := db
  request i := .arriving (requests i)
  revocation j := .requested (revocations j)

omit [DecidableEq I] [DecidableEq J] in
lemma begin_tracked {now : Instant} {db : AccessDb} (requests : I → WebRequest) (revocations : J → RevocationOp)
    (hunique : db.OnePerUser) : (begin now db requests revocations).Tracked :=
  ⟨fun _ => trivial, hunique, nofun, fun _ _ h => h.elim, nofun, nofun, nofun, nofun⟩

omit [DecidableEq I] in
lemma revoke_other {j' : J} (hne : j ≠ j') : (s.revoke j').revocation j = s.revocation j := by
  unfold revoke
  split
  · unfold commitDeactivate
    split <;> exact Function.update_of_ne hne _ _
  · unfold commitReset
    split <;> exact Function.update_of_ne hne _ _
  · exact Function.update_of_ne hne _ _
  · exact Function.update_of_ne hne _ _
  · exact Function.update_of_ne hne _ _
  · rfl
  · rfl

lemma next_returned (hj : s.revocation j = .returned k version) : (s.next e).revocation j = .returned k version := by
  cases e with
  | request i => exact hj
  | tick u => exact hj
  | revocation j' =>
    by_cases hsame : j = j'
    · subst hsame
      change (s.revoke j).revocation j = _
      rw [revoke, hj]
      exact hj
    · exact (revoke_other hsame).trans hj

omit [DecidableEq I] in
lemma revoke_sessions (s : WebState I J) (j : J) : (s.revoke j).request = s.request ∧
    ∀ sessionId x, (s.revoke j).stored sessionId = some x → s.stored sessionId = some x := by
  unfold revoke
  split
  · unfold commitDeactivate
    split <;> exact ⟨rfl, fun _ _ => id⟩
  · unfold commitReset
    split <;> exact ⟨rfl, fun _ _ => id⟩
  · exact ⟨rfl, fun _ _ => id⟩
  next k version deleted pending _ =>
    refine ⟨rfl, fun sessionId x hx => ?_⟩
    change (s.redis.store.del deleted).get s.now sessionId = some x at hx
    rw [Keys.get_del] at hx
    split at hx
    · cases hx
    · exact hx
  · exact ⟨rfl, fun _ _ => id⟩
  · exact ⟨rfl, fun _ _ => id⟩
  · exact ⟨rfl, fun _ _ => id⟩

lemma next_outdated (hs : s.Tracked) (hsound : s.Sound e) (hj : s.revocation j = .returned k version)
    (hx : (s.next e).stored sessionId = some x) (houtdated : k.Outdated version x) :
    s.stored sessionId = some x ∧
      ∀ i, (s.request i).Replaces sessionId k → ((s.next e).request i).Replaces sessionId k := by
  cases e with
  | tick u => exact ⟨Keys.get_earlier (le_max_left _ _) hx, fun _ => id⟩
  | revocation j =>
    obtain ⟨hrequest, hstored⟩ := revoke_sessions s j
    exact ⟨hstored _ _ hx, fun i h => (congrFun hrequest i) ▸ h⟩
  | request i =>
    have heffect : WebFrame.Effect s.now (s.request i) ((s.request i).next s.now s.db s.version s.redis).1 s.redis
        ((s.request i).next s.now s.db s.version s.redis).2 := WebFrame.effect (hs.formed i)
    change (s.advance i ((s.request i).next s.now s.db s.version s.redis).1
      ((s.request i).next s.now s.db s.version s.redis).2).stored sessionId = some x at hx
    change _ ∧ ∀ i', _ → ((s.advance i ((s.request i).next s.now s.db s.version s.redis).1
      ((s.request i).next s.now s.db s.version s.redis).2).request i').Replaces sessionId k
    generalize (s.request i).next s.now s.db s.version s.redis = after at hx heffect
    obtain ⟨f', redis'⟩ := after
    change redis'.store.get s.now sessionId = some x at hx
    have hframes (hreplaces : (s.request i).Replaces sessionId k → f'.Replaces sessionId k) (i' : I)
        (h : (s.request i').Replaces sessionId k) :
        ((s.advance i f' redis').request i').Replaces sessionId k := by
      by_cases hsame : i' = i
      · subst hsame
        simpa [advance] using hreplaces h
      · simpa [advance, hsame] using h
    cases heffect with
    | keeps hstore hindex hreplaces hforgets => exact ⟨(hstore sessionId).symm.trans hx, hframes (hreplaces _ _)⟩
    | leaves left kLeft hstore hindex hbefore hreplaces hforgets =>
      exact ⟨by rwa [hstore] at hx, hframes (fun h => absurd h (hbefore _ _))⟩
    | sets o new hframe hchanged hnext hstore hindex =>
      have hmay := hsound o new hframe hchanged
      rw [hstore] at hx
      split at hx
      · obtain rfl := Option.some.inj hx
        exact absurd houtdated (hmay.not_outdated hs hj)
      next hne =>
        refine ⟨hx, hframes (fun h => ?_)⟩
        rw [hframe] at h
        exact absurd ((WebFrame.replaces_saving rfl).mp h).1.symm hne
    | destroys destroyed hbefore hstore hindex hforgets =>
      rw [hstore] at hx
      split at hx
      · cases hx
      · exact ⟨hx, hframes (fun h => absurd h (hbefore _ _))⟩
    | forgets forgotten hbefore hframe hstore hindex hnext =>
      exact ⟨by rwa [hstore] at hx, hframes (fun h => absurd h (hbefore _ _))⟩

lemma run_tracked (h : Run (Guarded (Total next) Sound) s es t) (hs : s.Tracked) : t.Tracked := by
  refine h.invariant (fun a e b ha hb => ?_) hs
  obtain ⟨rfl, hsound⟩ := hb
  exact next_tracked ha hsound

lemma run_outdated {P : WebState I J → Prop} (h : Run (Guarded (Total next) Sound) s es t) (hs : s.Tracked)
    (hj : s.revocation j = .returned k version)
    (hP : ∀ s e, P s → (∀ i, (s.request i).Replaces sessionId k → ((s.next e).request i).Replaces sessionId k) →
      P (s.next e))
    (hstart : ∀ x, s.stored sessionId = some x → k.Outdated version x → P s) :
    ∀ x, t.stored sessionId = some x → k.Outdated version x → P t := by
  induction h with
  | nil => exact hstart
  | @cons a b c e es he _ ih =>
    obtain ⟨rfl, hsound⟩ := he
    refine ih (next_tracked hs hsound) (next_returned hj) (fun x hx houtdated => ?_)
    obtain ⟨hbefore, hreplaces⟩ := next_outdated hs hsound hj hx houtdated
    exact hP a e (hstart x hbefore houtdated) hreplaces

end Runs

end WebState

open WebState

theorem sessions_revoked {I J : Type} [DecidableEq I] [DecidableEq J] {now : Instant} {db : AccessDb}
    {requests : I → WebRequest} {revocations : J → RevocationOp} {es es' : List (WebEvent I J)} {s t : WebState I J}
    (hunique : db.OnePerUser)
    (h : Run (Guarded (Total next) Sound) (begin now db requests revocations) es s)
    (h' : Run (Guarded (Total next) Sound) s es' t) {j : J} {k : IndexKey} {version : ℕ}
    (hj : s.revocation j = .returned k version)
    (hanswered : ∀ i, s.request i = .arriving (requests i) ∨ t.request i = .answered) :
    ∀ sessionId x, t.redis.store.get t.now sessionId = some x → ¬ k.Outdated version x := by
  intro sessionId x hx houtdated
  have hs := run_tracked h (begin_tracked requests revocations hunique)
  by_cases hleft : ∃ y, s.stored sessionId = some y ∧ k.Outdated version y
  · obtain ⟨y, hy, hyOutdated⟩ := hleft
    obtain ⟨i, hreplaces⟩ := hs.gone j k version hj sessionId y hy hyOutdated
    have hstill : (t.request i).Replaces sessionId k :=
      run_outdated (P := fun u => (u.request i).Replaces sessionId k) h' hs hj (fun _ _ hi hall => hall i hi)
        (fun _ _ _ => hreplaces) x hx houtdated
    rcases hanswered i with harriving | hdone
    · rw [harriving] at hreplaces
      exact WebFrame.not_replaces rfl _ _ hreplaces
    · rw [hdone] at hstill
      exact WebFrame.not_replaces rfl _ _ hstill
  · exact run_outdated (P := fun _ => False) h' hs hj (fun _ _ hfalse _ => hfalse)
      (fun y hy hyOutdated => hleft ⟨y, hy, hyOutdated⟩) x hx houtdated

namespace WebState

variable {I J : Type} [Fintype I] [Fintype J]

instance (f : WebFrame) (sessionId : Uuid) : Decidable (f.Forgets sessionId) := by
  unfold WebFrame.Forgets
  split <;> infer_instance

instance (f : RevocationFrame) (k : IndexKey) (version : ℕ) : Decidable (f.Reads k version) := by
  unfold RevocationFrame.Reads
  split <;> infer_instance

instance (f : RevocationFrame) (k : IndexKey) : Decidable (f.Deletes k) := by
  unfold RevocationFrame.Deletes
  split <;> infer_instance

instance (d : IdentityDb) (userId : Uuid) : Decidable (d.Excludes userId) := by
  unfold IdentityDb.Excludes
  infer_instance

instance (s : WebState I J) (sessionId : Uuid) (new : StoredSession) : Decidable (s.MaySave sessionId new) :=
  decidable_of_iff
    ((∀ k ∈ new.auth.indexKeys, sessionId ∈ s.members k ∧ ∀ j, ¬ (s.revocation j).Deletes k) ∧
      (∀ i, ¬ (s.request i).Forgets sessionId) ∧
      (∀ organizationId ∈ new.auth.organizationId, (s.db.tenant organizationId).Excludes new.auth.userId →
        ∃ j, (s.revocation j).Reads (.organization new.auth.userId organizationId) 0) ∧
      ∀ version ≤ s.version new.auth.userId, new.version < version →
        ∃ j, (s.revocation j).Reads (.user new.auth.userId) version)
    ⟨fun ⟨hlisted, hkept, hactive, hpassword⟩ => ⟨hlisted, hkept, hactive, hpassword⟩,
      fun h => ⟨h.listed, h.kept, h.active, h.password⟩⟩

def SoundNow (s : WebState I J) : WebEvent I J → Prop
  | .request i => match s.request i with
    | .ending o (some new) => o.loaded.map StoredSession.auth = some new.auth ∨ s.MaySave o.sessionId new
    | _ => True
  | .revocation _ => True
  | .tick _ => False

instance (s : WebState I J) (e : WebEvent I J) : Decidable (s.SoundNow e) := by
  unfold SoundNow
  split
  · split <;> infer_instance
  · infer_instance
  · infer_instance

omit [Fintype I] [Fintype J] in
lemma SoundNow.sound {s : WebState I J} {e : WebEvent I J} (h : s.SoundNow e) : s.Sound e := by
  cases e with
  | request i =>
    intro o new hframe hchanged
    unfold SoundNow at h
    simp only [hframe] at h
    exact h.resolve_left hchanged
  | revocation j => trivial
  | tick u => exact h.elim

end WebState

namespace RevocationFrame

def result : RevocationFrame → Option (IndexKey × ℕ)
  | .returned k version => some (k, version)
  | _ => none

lemma result_eq {f : RevocationFrame} {k : IndexKey} {version : ℕ} (h : f.result = some (k, version)) :
    f = .returned k version := by
  cases f with
  | returned k' version' =>
    obtain ⟨rfl, rfl⟩ := Prod.mk.inj (Option.some.inj h)
    rfl
  | _ => cases h

end RevocationFrame

def WebFrame.isAnswered : WebFrame → Bool
  | .answered => true
  | _ => false

lemma WebFrame.isAnswered_eq {f : WebFrame} (h : f.isAnswered = true) : f = .answered := by
  cases f with
  | answered => rfl
  | _ => cases h

namespace Sample

def members : IdentityDb where
  memberships := ⟨[⟨10, 1, .active, none, none⟩, ⟨20, 2, .active, none, none⟩], by decide⟩
  roles := [⟨11, 10, .dispatcher⟩, ⟨21, 20, .admin⟩]
  audit := []

def access : AccessDb where
  accounts := ⟨[{ id := 1, email := "member", passwordHash := some "old", status := .active },
    { id := 2, email := "admin", passwordHash := some "admin", status := .active }], by decide⟩
  organizations := [7]
  tenant _ := members
  resetTokens := [{ id := 30, tokenHash := "token", expiresAt := 100, userId := 1 }]

def browser (cookie : Option Uuid) (op : WebOp) : WebRequest := ⟨cookie, 100, fun _ => .stored, op⟩

def password (now : Instant) (password : String) : PasswordChange := ⟨now, "token", password, id, .stored⟩

def loginThenOther (i : Fin 2) : WebRequest :=
  if i = 0 then browser none (.login ⟨"member", "old", fun password hash => password == hash⟩) else browser (some 100) .other

def deactivation : RevocationOp := .deactivate 7 ⟨0, fun n => 40 + n, fun _ => .stored, 2⟩ 10

def reset : RevocationOp := .resetPassword (password 0 "a new password 1")

def webStart (op : RevocationOp) : WebState (Fin 2) (Fin 1) := begin 0 access loginThenOther (fun _ => op)

def webAfter (op : RevocationOp) (events : List (WebEvent (Fin 2) (Fin 1))) : WebState (Fin 2) (Fin 1) :=
  events.foldl next (webStart op)

def serve (n : ℕ) (i : Fin 2) : List (WebEvent (Fin 2) (Fin 1)) := List.replicate n (.request i)

def revokeNow (n : ℕ) : List (WebEvent (Fin 2) (Fin 1)) := List.replicate n (.revocation 0)

def days (n : ℕ) : Instant := n * (24 * 60 * 60 * 1000)

def loginRevoked : List (WebEvent (Fin 2) (Fin 1)) := serve 8 0 ++ revokeNow 1 ++ serve 1 0 ++ revokeNow 3

/-- The session is renewed after six days, and the index key runs out after seven. -/
def keyRunsOut : List (WebEvent (Fin 2) (Fin 1)) :=
  serve 9 0 ++ [.tick (days 6)] ++ serve 2 1 ++ [.tick (days 8)] ++ revokeNow 2

def saveInFlight : List (WebEvent (Fin 2) (Fin 1)) := serve 8 0 ++ revokeNow 4 ++ serve 1 0 ++ serve 2 1

end Sample

open Sample

lemma access_onePerUser : access.OnePerUser := by
  have hmembers : (members.memberships.rows.map OrganizationMembership.userId).Nodup := by decide
  exact fun _ => hmembers

theorem sessions_revoked_sample : ∃ k version, (webAfter deactivation loginRevoked).revocation 0 = .returned k version ∧
    ∀ sessionId x, (webAfter deactivation loginRevoked).stored sessionId = some x → ¬ k.Outdated version x := by
  have hchecked : Run (Guarded (Total next) SoundNow) (webStart deactivation) loginRevoked
      (webAfter deactivation loginRevoked) := run_total_checked (by decide +kernel)
  have hrun : Run (Guarded (Total next) Sound) (webStart deactivation) loginRevoked (webAfter deactivation loginRevoked) :=
    hchecked.mono (fun _ _ _ h => ⟨h.1, h.2.sound⟩)
  have hreturned : ((webAfter deactivation loginRevoked).revocation 0).result = some (.organization 1 7, 0) := by
    decide +kernel
  have hanswered : ((webAfter deactivation loginRevoked).request 0).isAnswered = true := by decide +kernel
  refine ⟨.organization 1 7, 0, RevocationFrame.result_eq hreturned, ?_⟩
  refine sessions_revoked access_onePerUser hrun (.nil _) (RevocationFrame.result_eq hreturned) (fun i => ?_)
  match i with
  | 0 => exact Or.inr (WebFrame.isAnswered_eq hanswered)
  | 1 => exact Or.inl rfl

def Survives (t : WebState (Fin 2) (Fin 1)) : Prop :=
  (∀ i, t.request i = .answered) ∧ ∃ k version, t.revocation 0 = .returned k version ∧
    ∃ x, t.stored 100 = some x ∧ k.Outdated version x

lemma survives_of {t : WebState (Fin 2) (Fin 1)} (k : IndexKey) (version : ℕ) {x : StoredSession}
    (hanswered : ∀ i, (t.request i).isAnswered = true) (hreturned : (t.revocation 0).result = some (k, version))
    (hstored : t.stored 100 = some x) (houtdated : k.Outdated version x) : Survives t :=
  ⟨fun i => WebFrame.isAnswered_eq (hanswered i), k, version, RevocationFrame.result_eq hreturned, x, hstored, houtdated⟩

/-- A key that has run out, or a save after the revocation, leaves a session of a deactivated member, and a save after
a reset leaves one of the old password. -/
theorem session_survives : Survives (webAfter deactivation keyRunsOut) ∧ Survives (webAfter deactivation saveInFlight) ∧
    Survives (webAfter reset saveInFlight) := by
  have hstored : (webAfter deactivation keyRunsOut).stored 100 =
      some ⟨⟨1, some 7, some 10, some [.dispatcher]⟩, 0⟩ := by decide +kernel
  have hsaved : (webAfter deactivation saveInFlight).stored 100 =
      some ⟨⟨1, some 7, some 10, some [.dispatcher]⟩, 0⟩ := by decide +kernel
  have hreset : (webAfter reset saveInFlight).stored 100 =
      some ⟨⟨1, some 7, some 10, some [.dispatcher]⟩, 0⟩ := by decide +kernel
  exact ⟨survives_of (.organization 1 7) 0 (by decide +kernel) (by decide +kernel) hstored ⟨rfl, rfl⟩,
    survives_of (.organization 1 7) 0 (by decide +kernel) (by decide +kernel) hsaved ⟨rfl, rfl⟩,
    survives_of (.user 1) 1 (by decide +kernel) (by decide +kernel) hreset ⟨rfl, Nat.zero_lt_one⟩⟩

end Truckmaster.Identity
