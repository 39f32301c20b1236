import Truckmaster.Tenancy.PrismaService

/-! What the transactions of the pool see and write: a connection carries nothing over from the calls before. -/

namespace Truckmaster.Tenancy

open Common RowSecurity Runs

variable {n : ℕ} {δ α : Type}

def Shared (k : Key) (r : Row δ) : Prop :=
  k.table.protection = .open ∨ k.table.protection = .tenantIsolationWithSystemDefaults ∧ r.organizationId = none

instance (k : Key) (r : Row δ) : Decidable (Shared k r) := by
  unfold Shared
  infer_instance

def Caller.Permits (rows : Database δ) (k : Key) (r : Row δ) : Caller → Prop
  | .tenant organizationId => k.table.protection ≠ .open ∧ r.organizationId.isSome ∧ r.organizationId = castUuid organizationId
  | .user userId => k.table.protection = .membership ∧ r.userId.isSome ∧ r.userId = castUuid userId ∨
      k.table.protection = .role ∧ ∃ id m, r.membershipId = some id ∧ rows ⟨.organizationMembership, id⟩ = some m ∧
        m.userId.isSome ∧ m.userId = castUuid userId
  | .invitation tokenHash => k.table.protection = .membership ∧ r.invitationTokenHash = some tokenHash
  | .bare => False

def Caller.context : Caller → Context
  | .tenant organizationId => ⟨castUuid organizationId, none, none⟩
  | .user userId => ⟨none, castUuid userId, none⟩
  | .invitation tokenHash => ⟨none, none, some tokenHash⟩
  | .bare => ⟨none, none, none⟩

section Policies

variable {rows : Database δ} {k : Key} {r : Row δ}

lemma sqlEq_iff {β : Type} [DecidableEq β] {a b : Option β} : sqlEq a b = true ↔ a.isSome ∧ a = b := by
  cases a with
  | none => simp [sqlEq]
  | some x =>
    cases b with
    | none => simp [sqlEq]
    | some y => simp [sqlEq]

@[simp] lemma sqlEq_none {β : Type} [DecidableEq β] (a : Option β) : sqlEq a none = false := by
  cases a <;> rfl

lemma policy_iff (caller : Caller) :
    policy caller.context rows k r = true ↔ Shared k r ∨ caller.Permits rows k r := by
  unfold policy Shared Caller.Permits Caller.context
  cases hk : k.table.protection <;> cases caller <;>
    simp [membershipVisible, sqlEq_iff, Option.any_eq_true, Option.isNone_iff_eq_none]
  intro hhash
  rw [hhash]
  rfl

end Policies

section Settings

/-- A setting that policies take for NULL. -/
def Blank (setting : Option String) : Prop := setting = none ∨ setting = some ""

structure Settings.AllBlank (s : Settings) : Prop where
  currentOrgId : Blank s.currentOrgId
  currentUserId : Blank s.currentUserId
  currentInvitationTokenHash : Blank s.currentInvitationTokenHash

variable {before inForce : Option String} {s settings : Settings}

lemma Blank.nullIfEmpty (h : Blank before) : nullIfEmpty before = none := by
  rcases h with rfl | rfl <;> rfl

lemma Blank.settingUuid (h : Blank before) : settingUuid before = some none := by
  rw [Tenancy.settingUuid, h.nullIfEmpty]

lemma Blank.revert (h : Blank before) : Blank (revert before inForce) := by
  unfold Tenancy.revert
  split
  · exact h
  · rcases h with rfl | rfl
    · exact .inr rfl
    · exact .inr rfl

lemma Settings.AllBlank.reverted {t : Settings} (h : s.AllBlank) : (s.reverted t).AllBlank :=
  ⟨h.currentOrgId.revert, h.currentUserId.revert, h.currentInvitationTokenHash.revert⟩

lemma castUuid_of_matches {text : String} (h : UUID_RE text = true) : ∃ id, castUuid text = some id := by
  unfold castUuid
  rw [if_pos h]
  exact ⟨_, rfl⟩

lemma settingUuid_of_matches {text : String} (h : UUID_RE text = true) :
    settingUuid (some text) = some (castUuid text) := by
  have hne : text ≠ "" := by
    rintro rfl
    simp [UUID_RE] at h
  obtain ⟨id, hid⟩ := castUuid_of_matches h
  simp [settingUuid, nullIfEmpty, Option.filter, hne, hid]

lemma context_of_settings {caller : Caller} (hblank : s.AllBlank) (h : caller.settings s = some settings) :
    settings.context = some caller.context := by
  unfold Settings.context
  cases caller with
  | tenant organizationId =>
    simp only [Caller.settings] at h
    split at h
    next hmatches =>
      cases h
      simp [settingUuid_of_matches hmatches, hblank.currentUserId.settingUuid,
        hblank.currentInvitationTokenHash.nullIfEmpty, Caller.context]
    next => cases h
  | user userId =>
    simp only [Caller.settings] at h
    split at h
    next hmatches =>
      cases h
      simp [settingUuid_of_matches hmatches, hblank.currentOrgId.settingUuid,
        hblank.currentInvitationTokenHash.nullIfEmpty, Caller.context]
    next => cases h
  | invitation tokenHash =>
    simp only [Caller.settings] at h
    split at h
    next => cases h
    next hne =>
      cases h
      simp [hblank.currentOrgId.settingUuid, hblank.currentUserId.settingUuid, nullIfEmpty, Option.filter, hne,
        Caller.context]
  | bare =>
    cases h
    simp [hblank.currentOrgId.settingUuid, hblank.currentUserId.settingUuid,
      hblank.currentInvitationTokenHash.nullIfEmpty, Caller.context]

end Settings

/-- Between transactions a connection has only blank settings, within one only those of its call beside them. -/
def Connection.Settled (c : Connection δ) : Prop :=
  c.settings.AllBlank ∧ ∀ x, c.session = some x → x.caller.settings c.settings = some x.settings

def Pool.Settled (p : Pool n δ) : Prop := ∀ c, (p.connections c).Settled

namespace Pool

variable {constraints : Constraints (Fin n) Key (Row δ)} {p q : Pool n δ} {c : Fin n} {x : Session δ} {caller : Caller}

lemma put_connections (c' : Fin n) : ((p.put c x).connections c') =
    if c' = c then { p.connections c with session := some x } else p.connections c' := by
  unfold put
  by_cases hc : c' = c
  · subst hc
    simp
  · simp [hc]

lemma close_connections (c' : Fin n) : ((p.close c x).connections c') =
    if c' = c then ⟨(p.connections c).settings.reverted x.settings, none⟩ else p.connections c' := by
  unfold close
  by_cases hc : c' = c
  · subst hc
    simp
  · simp [hc]

lemma Settled.put (h : p.Settled) (hx : x.caller.settings (p.connections c).settings = some x.settings) :
    (p.put c x).Settled := by
  intro c'
  rw [put_connections]
  split
  next =>
    refine ⟨(h c).1, ?_⟩
    rintro y ⟨⟩
    exact hx
  next => exact h c'

lemma Settled.close (h : p.Settled) : (p.close c x).Settled := by
  intro c'
  rw [close_connections]
  split
  next => exact ⟨(h c).1.reverted, by rintro y ⟨⟩⟩
  next => exact h c'

lemma Settled.adopt (h : p.Settled) (hx : (p.connections c).session = some x) (hbare : x.caller = .bare)
    {organizationId : String} (hmatches : UUID_RE organizationId = true) : (p.adopt c x organizationId).Settled := by
  have hsettings := (h c).2 x hx
  rw [hbare] at hsettings
  have hsame : (p.connections c).settings = x.settings := Option.some.inj hsettings
  refine h.put ?_
  rw [hsame]
  exact if_pos hmatches

lemma Settled.effect {e : Event n δ α} (h : p.Settled) (he : Effect constraints p e q) : q.Settled := by
  cases he with
  | nothing => exact h
  | opened _ hsettings => exact h.put hsettings
  | adopted hx _ _ hbare hmatches => exact h.adopt hx hbare hmatches
  | wrote hx _ _ _ _ _ _ =>
    have hsettings := (h e.connection).2 _ hx
    exact h.put hsettings
  | failed hx _ =>
    have hsettings := (h e.connection).2 _ hx
    exact h.put hsettings
  | ended _ _ => exact h.close
  | @committed x _ _ _ =>
    have hclosed := h.close (c := e.connection) (x := x)
    exact hclosed

lemma settled_new (n : ℕ) (rows : Database δ) : (new n rows).Settled := by
  intro c
  exact ⟨⟨.inl rfl, .inl rfl, .inl rfl⟩, by rintro y ⟨⟩⟩

lemma settled_of_run {rows : Database δ} {events : List (Event n δ α)} (hrun : Run (Total (next constraints)) (new n rows) events p) :
    p.Settled := by
  refine hrun.invariant (fun p e q h he => ?_) (settled_new n rows)
  cases he
  exact h.effect (next_effect p e)

lemma Settled.context (h : p.Settled) (hx : (p.connections c).session = some x) :
    x.settings.context = some x.caller.context := context_of_settings (h c).1 ((h c).2 x hx)

lemma conclude_wrote {o : Outcome Key (Row δ) α} {ws : List (Write Key (Row δ))} (h : (p.conclude constraints c x o).2 = .wrote ws) :
    o = .wrote ws ∧ ∃ acts, constraints p.rows p.logs c ws = .stand acts := by
  cases o with
  | wrote ws' =>
    unfold conclude at h
    dsimp only at h
    cases hkeys : constraints p.rows p.logs c ws' with
    | stand acts =>
      rw [hkeys] at h
      cases h
      exact ⟨rfl, acts, hkeys⟩
    | violated =>
      rw [hkeys] at h
      cases h
    | waits =>
      rw [hkeys] at h
      cases h
  | _ => cases h

lemma serve_outcome {s : Statement Key (Row δ) α} {o : Outcome Key (Row δ) α}
    (h : (p.serve constraints ⟨c, caller, .statement s⟩).2 = .outcome o) : ∃ x context, (p.connections c).session = some x ∧
      x.caller = caller ∧ x.settings.context = some context ∧
      (p.conclude constraints c x (s.execute policy context (pending p.rows x.log) (p.locked c))).2 = o := by
  unfold serve at h
  dsimp only at h
  cases hx : (p.connections c).session with
  | none =>
    rw [hx] at h
    cases h
  | some x =>
    rw [hx] at h
    dsimp only at h
    split at h
    next hcaller =>
      split at h
      next => cases h
      next =>
        unfold execute at h
        cases hcontext : x.settings.context with
        | none =>
          rw [hcontext] at h
          cases h
        | some context =>
          rw [hcontext] at h
          exact ⟨x, context, rfl, hcaller, hcontext, Answer.outcome.inj h⟩
    next => cases h

lemma serve_statement (h : p.Settled) {s : Statement Key (Row δ) α}
    (hanswer : (p.serve constraints ⟨c, caller, .statement s⟩).2 ≠ .unavailable)
    (hopen : (p.serve constraints ⟨c, caller, .statement s⟩).2 ≠ .aborted) :
    ∃ o, (p.serve constraints ⟨c, caller, .statement s⟩).2 = .outcome o := by
  unfold serve at *
  dsimp only at *
  cases hx : (p.connections c).session with
  | none =>
    rw [hx] at hanswer
    exact absurd rfl hanswer
  | some x =>
    rw [hx] at hanswer hopen
    dsimp only at *
    split
    next hcaller =>
      rw [if_pos hcaller] at hopen
      split
      next hfailed =>
        rw [if_pos hfailed] at hopen
        exact absurd rfl hopen
      next =>
        unfold execute
        rw [h.context hx]
        exact ⟨_, rfl⟩
    next hcaller =>
      rw [if_neg hcaller] at hanswer
      exact absurd rfl hanswer

end Pool

namespace OrganizationService

def countOf (table : Table) (ids : List Uuid) (id : Uuid) (qualifies : δ → Bool) : Statement Key (Row δ) ℕ :=
  .select (fun rows => ids.countP (fun i =>
    (rows ⟨table, i⟩).any (fun r => r.organizationId == some id && qualifies r.columns)))

def qualifyingCarrierCount (ids : List Uuid) (id : Uuid) (pendingOrActive : δ → Bool) : Statement Key (Row δ) ℕ :=
  countOf .carrier ids id pendingOrActive

def qualifyingDriverCount (ids : List Uuid) (id : Uuid) (active : δ → Bool) : Statement Key (Row δ) ℕ :=
  countOf .driver ids id active

end OrganizationService

section Runs

variable {constraints : Constraints (Fin n) Key (Row δ)} {rows : Database δ} {events : List (Event n δ α)} {p : Pool n δ}

theorem statement_confined (hrun : Run (Total (Pool.next constraints)) (Pool.new n rows) events p) {c : Fin n} {caller : Caller}
    {s : Statement Key (Row δ) α} (hanswer : (p.serve constraints ⟨c, caller, .statement s⟩).2 ≠ .unavailable)
    (hopen : (p.serve constraints ⟨c, caller, .statement s⟩).2 ≠ .aborted) :
    ∃ x visible o, (p.connections c).session = some x ∧ x.caller = caller ∧
      (p.serve constraints ⟨c, caller, .statement s⟩).2 = .outcome o ∧
      (∀ k r, visible k = some r ↔
        pending p.rows x.log k = some r ∧ (Shared k r ∨ caller.Permits (pending p.rows x.log) k r)) ∧
      (∀ read, s = .select read → o = .read (read visible)) ∧
      ∀ ws, o = .wrote ws → ∀ w ∈ ws,
        (∀ old, pending p.rows x.log w.1 = some old →
          Shared w.1 old ∨ caller.Permits (pending p.rows x.log) w.1 old) ∧
        ∀ new, w.2 = some new → Shared w.1 new ∨ caller.Permits (pending p.rows x.log) w.1 new := by
  have hsettled := Pool.settled_of_run hrun
  obtain ⟨o, ho⟩ := Pool.serve_statement hsettled hanswer hopen
  obtain ⟨x, context, hx, rfl, hcontext, hexecute⟩ := Pool.serve_outcome ho
  rw [hsettled.context hx] at hcontext
  cases hcontext
  refine ⟨x, seen policy x.caller.context (pending p.rows x.log), o, hx, rfl, ho, fun k r => ?_, ?_, ?_⟩
  · rw [seen, restrict_eq_some, policy_iff]
  · rintro read rfl
    exact hexecute.symm
  · rintro ws rfl w hw
    obtain ⟨hwrote, _⟩ := Pool.conclude_wrote hexecute
    obtain ⟨hold, hnew, _⟩ := Statement.execute_wrote hwrote hw
    exact ⟨fun old h => (policy_iff _).mp (hold old h), fun new h => (policy_iff _).mp (hnew new h)⟩

theorem platform_counts_zero {events : List (Event n δ ℕ)} {p : Pool n δ}
    (hrun : Run (Total (Pool.next constraints)) (Pool.new n rows) events p) {c : Fin n} {ids : List Uuid} {id : Uuid}
    {qualifies : δ → Bool} {count : ℕ} {st : Statement Key (Row δ) ℕ}
    (hst : st = OrganizationService.qualifyingCarrierCount ids id qualifies ∨
      st = OrganizationService.qualifyingDriverCount ids id qualifies)
    (h : (p.serve constraints ⟨c, .bare, .statement st⟩).2 = .outcome (.read count)) : count = 0 := by
  obtain ⟨x, context, hx, hcaller, hcontext, ho⟩ := Pool.serve_outcome h
  rw [(Pool.settled_of_run hrun).context hx, hcaller] at hcontext
  cases hcontext
  have hnone (table : Table) (htable : table.protection = .tenantIsolation) (i : Uuid) :
      seen policy Caller.bare.context (pending p.rows x.log) ⟨table, i⟩ = none := by
    rw [seen, restrict_eq_none]
    intro r _
    rw [Bool.eq_false_iff, ne_eq, policy_iff]
    rintro ((hopen | ⟨hdefaults, _⟩) | hpermits)
    · cases hopen.symm.trans htable
    · cases hdefaults.symm.trans htable
    · exact hpermits
  rcases hst with rfl | rfl
  · cases ho
    exact List.countP_eq_zero.mpr (fun i _ => by simp [hnone .carrier rfl i])
  · cases ho
    exact List.countP_eq_zero.mpr (fun i _ => by simp [hnone .driver rfl i])

end Runs

section Frame

def Owned (organizationId : Uuid) (k : Key) (r : Row δ) : Bool :=
  (k.table.protection = .tenantIsolation ∨ k.table.protection = .tenantIsolationWithSystemDefaults) ∧
    r.organizationId = some organizationId

def Caller.Of (organizationId : Uuid) : Caller → Prop
  | .tenant text => castUuid text = some organizationId
  | _ => False

instance (organizationId : Uuid) (caller : Caller) : Decidable (caller.Of organizationId) := by
  unfold Caller.Of
  split <;> infer_instance

variable {organizationId : Uuid} {rows : Database δ} {caller : Caller} {k : Key} {r : Row δ}

lemma not_owned (hother : ¬ caller.Of organizationId) (h : policy caller.context rows k r = true) :
    Owned organizationId k r = false := by
  rw [policy_iff] at h
  rw [Owned, decide_eq_false_iff_not]
  rintro ⟨htable, horg⟩
  rcases h with (hopen | ⟨_, hnone⟩) | hpermits
  · rcases htable with htable | htable <;> cases hopen.symm.trans htable
  · cases hnone.symm.trans horg
  · cases caller with
    | tenant text =>
      obtain ⟨_, _, hcast⟩ := hpermits
      exact hother (hcast.symm.trans horg)
    | user userId =>
      rcases hpermits with ⟨hk, _⟩ | ⟨hk, _⟩ <;> rcases htable with htable | htable <;> cases hk.symm.trans htable
    | invitation tokenHash =>
      obtain ⟨hk, _⟩ := hpermits
      rcases htable with htable | htable <;> cases hk.symm.trans htable
    | bare => exact hpermits

structure Framed (organizationId : Uuid) (rows : Database δ) (p : Pool n δ) : Prop where
  settled : p.Settled
  rows : restrict (Owned organizationId) p.rows = restrict (Owned organizationId) rows
  old : ∀ c x, (p.connections c).session = some x → ¬ x.caller.Of organizationId →
    ∀ w ∈ x.log, restrict (Owned organizationId) p.rows w.1 = none
  new : ∀ c x, (p.connections c).session = some x → ¬ x.caller.Of organizationId →
    ∀ w ∈ x.log, ∀ r, w.2 = some r → Owned organizationId w.1 r = false

/-- The foreign keys that another call sets off write over none of the organization's rows. -/
def Spares (organizationId : Uuid) (constraints : Constraints (Fin n) Key (Row δ)) (p : Pool n δ) (e : Event n δ α) : Prop :=
  ∀ ws acts, ¬ e.caller.Of organizationId → (p.serve constraints e).2 = .outcome (.wrote ws) →
    constraints p.rows p.logs e.connection ws = .stand acts → ∀ w ∈ acts,
      restrict (Owned organizationId) p.rows w.1 = none ∧ ∀ r, w.2 = some r → Owned organizationId w.1 r = false

variable {constraints : Constraints (Fin n) Key (Row δ)} {p q : Pool n δ}

lemma Framed.put {c : Fin n} {x : Session δ} (h : Framed organizationId rows p) (hsettled : (p.put c x).Settled)
    (hold : ¬ x.caller.Of organizationId → ∀ w ∈ x.log, restrict (Owned organizationId) p.rows w.1 = none)
    (hnew : ¬ x.caller.Of organizationId → ∀ w ∈ x.log, ∀ r, w.2 = some r → Owned organizationId w.1 r = false) :
    Framed organizationId rows (p.put c x) := by
  refine ⟨hsettled, h.rows, fun c' y hy hother => ?_, fun c' y hy hother => ?_⟩
  · rw [Pool.put_connections] at hy
    split at hy
    next =>
      cases hy
      exact hold hother
    next => exact h.old c' y hy hother
  · rw [Pool.put_connections] at hy
    split at hy
    next =>
      cases hy
      exact hnew hother
    next => exact h.new c' y hy hother

lemma Framed.close {c : Fin n} {x : Session δ} (h : Framed organizationId rows p) :
    Framed organizationId rows (p.close c x) := by
  have hleft {c' : Fin n} {y : Session δ} (hy : ((p.close c x).connections c').session = some y) :
      (p.connections c').session = some y := by
    rw [Pool.close_connections] at hy
    split at hy
    next => cases hy
    next => exact hy
  exact ⟨h.settled.close, h.rows, fun c' y hy => h.old c' y (hleft hy), fun c' y hy => h.new c' y (hleft hy)⟩

lemma Framed.commit {c : Fin n} {x : Session δ} (h : Framed organizationId rows p)
    (hx : (p.connections c).session = some x) (hother : ¬ x.caller.Of organizationId) :
    Framed organizationId rows (p.commit c x) := by
  have hrows : restrict (Owned organizationId) (p.commit c x).rows = restrict (Owned organizationId) p.rows :=
    restrict_pending_outside (h.old c x hx hother) (h.new c x hx hother)
  have hclosed := h.close (c := c) (x := x)
  refine ⟨hclosed.settled, hrows.trans h.rows, fun c' y hy hy' => ?_, hclosed.new⟩
  rw [hrows]
  exact hclosed.old c' y hy hy'

lemma Framed.wrote {c : Fin n} {x : Session δ} (h : Framed organizationId rows p)
    (hx : (p.connections c).session = some x) (hother : ¬ x.caller.Of organizationId) {s : Statement Key (Row δ) α}
    {locked : Key → Bool} {ws : List (Write Key (Row δ))}
    (ho : s.execute policy x.caller.context (pending p.rows x.log) locked = .wrote ws) {w : Write Key (Row δ)} (hw : w ∈ ws) :
    restrict (Owned organizationId) p.rows w.1 = none ∧ ∀ r, w.2 = some r → Owned organizationId w.1 r = false := by
  obtain ⟨hold, hnew, _⟩ := Statement.execute_wrote ho hw
  refine ⟨?_, fun r hr => not_owned hother (hnew r hr)⟩
  rcases pending_cases p.rows x.log w.1 with ⟨heq, _⟩ | ⟨v, hv, hkey, _⟩
  · rw [restrict_eq_none]
    exact fun r hr => not_owned hother (hold r (heq.trans hr))
  · exact hkey ▸ h.old _ x hx hother v hv

lemma Framed.effect {e : Event n δ α} (h : Framed organizationId rows p) (he : Effect constraints p e q)
    (hcommit : e.caller.Of organizationId → e.action ≠ .commit) (hspares : Spares organizationId constraints p e) :
    Framed organizationId rows q := by
  have hsettled := h.settled.effect he
  cases he with
  | nothing => exact h
  | opened _ _ => exact h.put hsettled (by simp) (by simp)
  | @adopted x text hx _ _ hbare _ =>
    have hother : ¬ x.caller.Of organizationId := by
      rw [hbare]
      exact id
    exact h.put hsettled (fun _ => h.old _ x hx hother) (fun _ => h.new _ x hx hother)
  | @wrote x context s ws acts hx hcaller hfailed hs hcontext ho hkeys =>
    obtain rfl := Option.some.inj ((h.settled.context hx).symm.trans hcontext)
    have hanswer : (p.serve constraints e).2 = .outcome (.wrote ws) := by
      rw [Pool.serve_statement_eq hx hcaller hfailed hs, Pool.execute, hcontext]
      dsimp only
      rw [ho, Pool.conclude, hkeys]
    have hlog : ¬ x.caller.Of organizationId → ∀ w ∈ x.log ++ (ws ++ acts),
        restrict (Owned organizationId) p.rows w.1 = none ∧ ∀ r, w.2 = some r → Owned organizationId w.1 r = false := by
      intro hother w hw
      rcases List.mem_append.mp hw with hw | hw
      · exact ⟨h.old _ x hx hother w hw, h.new _ x hx hother w hw⟩
      · rcases List.mem_append.mp hw with hw | hw
        · exact h.wrote hx hother ho hw
        · exact hspares ws acts (hcaller ▸ hother) hanswer hkeys w hw
    exact h.put hsettled (fun hother w hw => (hlog hother w hw).1) (fun hother w hw => (hlog hother w hw).2)
  | @failed x hx _ => exact h.put hsettled (h.old _ x hx) (h.new _ x hx)
  | ended _ _ => exact h.close
  | committed hx hcaller haction => exact h.commit hx (fun hof => hcommit (hcaller ▸ hof) haction)

lemma framed_new (n : ℕ) (organizationId : Uuid) (rows : Database δ) : Framed organizationId rows (Pool.new n rows) :=
  ⟨Pool.settled_new n rows, rfl, by rintro c x ⟨⟩, by rintro c x ⟨⟩⟩

/-- The rows of an organization change only where a transaction for it commits or a foreign key that another sets off acts on
them. -/
theorem organization_rows_kept {events : List (Event n δ α)}
    (hrun : Run (Guarded (Total (Pool.next constraints)) (Spares organizationId constraints)) (Pool.new n rows) events p)
    (hcommit : ∀ e ∈ events, e.caller.Of organizationId → e.action ≠ .commit) :
    restrict (Owned organizationId) p.rows = restrict (Owned organizationId) rows := by
  have hguarded : Run (Guarded (Guarded (Total (Pool.next constraints)) (Spares organizationId constraints))
      (fun _ e => e.caller.Of organizationId → e.action ≠ .commit)) (Pool.new n rows) events p :=
    hrun.guarded (fun e he _ => hcommit e he)
  refine (hguarded.invariant (fun p e q h he => ?_) (framed_new n organizationId rows)).rows
  obtain ⟨⟨rfl, hspares⟩, hguard⟩ := he
  exact h.effect (Pool.next_effect p e) hguard hspares

end Frame

namespace PoolSample

def basin : String := "00000000-0000-4000-8000-00000000000a"

def mesa : String := "00000000-0000-4000-8000-00000000000b"

def basinId : Uuid := 302240678275694148452362

def mesaId : Uuid := 302240678275694148452363

lemma castUuid_mesa : castUuid mesa = some mesaId := by decide +kernel

/-- A Load of each organization with the user who closed it (0 where nobody has), a carrier of the first, a document type of
the system, and three users. -/
def rows : Database ℕ := fun k =>
  if k = ⟨.load, 1⟩ then some ⟨some basinId, none, none, none, 300⟩
  else if k = ⟨.load, 2⟩ then some ⟨some mesaId, none, none, none, 300⟩
  else if k = ⟨.carrier, 3⟩ then some ⟨some basinId, none, none, none, 1⟩
  else if k = ⟨.documentTypeDefinition, 4⟩ then some ⟨none, none, none, none, 700⟩
  else if k ∈ [⟨.user, 200⟩, ⟨.user, 300⟩, ⟨.user, 400⟩] then some ⟨none, none, none, none, 0⟩ else none

def loads : List Key := [⟨.load, 1⟩, ⟨.load, 2⟩, ⟨.load, 5⟩]

/-- The user whom a row names under `load_closed_by_user_id_fkey`. -/
def closer (w : Write Key (Row ℕ)) : Option Key :=
  if w.1.table = .load then (w.2.filter (fun r => r.columns ≠ 0)).map (fun r => ⟨.user, r.columns⟩) else none

/-- `load_closed_by_user_id_fkey`: the user is there, or no Load is closed by him any more. It waits for what other open
transactions have done to the users and Loads in question. -/
def userKeys : Constraints (Fin 2) Key (Row ℕ) := fun rows logs c ws =>
  let others := (List.finRange 2).flatMap (fun c' => if c' = c then [] else logs c')
  let now := pending rows (logs c ++ ws)
  let deleted := (ws.filter (fun w => w.2.isNone)).map Prod.fst
  let acts := loads.filterMap (fun k => (now k).bind (fun r =>
    if (closer (k, some r)).any (· ∈ deleted) then some (k, some { r with columns := 0 }) else none))
  if others.any (fun w => w.1 ∈ acts.map Prod.fst ++ ws.filterMap closer || (closer w).any (· ∈ deleted)) then .waits
  else if (ws.filterMap closer).all (fun k => (now k).isSome) then .stand acts else .violated

def readLoads : Statement Key (Row ℕ) ℕ :=
  .select (fun rows => (loads.filterMap (fun k => (rows k).map Row.columns)).sum)

def closeLoads (user : ℕ) : Statement Key (Row ℕ) ℕ :=
  .update (fun rows => loads.filterMap (fun k => (rows k).map (fun r => (k, { r with columns := user }))))

def createLoad (id user : ℕ) : Statement Key (Row ℕ) ℕ :=
  .insert (fun _ => [(⟨.load, id⟩, ⟨some basinId, none, none, none, user⟩)])

def deleteUser (user : ℕ) : Statement Key (Row ℕ) ℕ := .delete (fun _ => [⟨.user, user⟩])

def first : Fin 2 := ⟨0, Nat.zero_lt_two⟩

def second : Fin 2 := ⟨1, Nat.one_lt_two⟩

def opening : List (Event 2 ℕ ℕ) :=
  [⟨first, .tenant basin, .begin⟩, ⟨second, .tenant mesa, .begin⟩, ⟨second, .tenant mesa, .statement (closeLoads 200)⟩,
    ⟨first, .tenant basin, .statement readLoads⟩, ⟨first, .tenant basin, .statement (closeLoads 400)⟩,
    ⟨second, .tenant mesa, .commit⟩]

/-- A Load is closed by a user who is there, the deletion of another opens a Load again, and a Load that names him is refused. -/
def closing : List (Event 2 ℕ ℕ) :=
  [⟨first, .tenant basin, .statement (createLoad 5 300)⟩, ⟨first, .tenant basin, .statement (deleteUser 400)⟩,
    ⟨first, .tenant basin, .statement readLoads⟩, ⟨first, .tenant basin, .commit⟩, ⟨first, .tenant basin, .begin⟩,
    ⟨first, .tenant basin, .statement (createLoad 6 400)⟩, ⟨first, .tenant basin, .commit⟩, ⟨first, .tenant mesa, .begin⟩,
    ⟨second, .bare, .begin⟩]

def events : List (Event 2 ℕ ℕ) := opening ++ closing

def copper : String := "00000000-0000-4000-8000-00000000000c"

def creation : List (Event 2 ℕ ℕ) :=
  [⟨second, .bare, .begin⟩, ⟨second, .bare, .statement (deleteUser 200)⟩,
    ⟨second, .bare, .setOrganization copper⟩, ⟨second, .tenant copper,
      .statement (.insert (fun _ => [(⟨.carrier, 5⟩, ⟨castUuid copper, none, none, none, 1⟩)]))⟩,
    ⟨second, .tenant copper, .commit⟩]

def after (events : List (Event 2 ℕ ℕ)) : Pool 2 ℕ := events.foldl (Pool.next userKeys) (Pool.new 2 rows)

lemma events_commits : ∀ e ∈ opening ++ creation, e.caller.Of basinId → e.action ≠ .commit := by
  intro e he hof hcommit
  simp only [opening, creation, List.cons_append, List.nil_append, List.mem_cons, List.not_mem_nil, or_false] at he
  rcases he with rfl | rfl | rfl | rfl | rfl | rfl | rfl | rfl | rfl | rfl | rfl
  any_goals cases hcommit
  · exact absurd (castUuid_mesa.symm.trans hof) (by decide +kernel)
  · exact absurd hof (by decide +kernel)

def spares (p : Pool 2 ℕ) (e : Event 2 ℕ ℕ) : Bool :=
  match (p.serve userKeys e).2 with
  | .outcome (.wrote ws) => match userKeys p.rows p.logs e.connection ws with
    | .stand acts => acts.all (fun w => (restrict (Owned basinId) p.rows w.1).isNone && w.2.all (fun r => !Owned basinId w.1 r))
    | _ => true
  | _ => true

lemma spares_of_checked {p : Pool 2 ℕ} {e : Event 2 ℕ ℕ} (h : spares p e = true) : Spares basinId userKeys p e := by
  intro ws acts _ hanswer hkeys w hw
  unfold spares at h
  rw [hanswer] at h
  dsimp only at h
  rw [hkeys] at h
  obtain ⟨hold, hnew⟩ := Bool.and_eq_true_iff.mp (List.all_eq_true.mp h w hw)
  refine ⟨Option.isNone_iff_eq_none.mp hold, fun r hr => ?_⟩
  rw [hr] at hnew
  simpa using hnew

lemma mesa_reads : ((after events).serve userKeys ⟨first, .tenant mesa, .statement readLoads⟩).2 = .outcome (.read 200) := rfl

lemma mesa_closes : ((after events).serve userKeys ⟨first, .tenant mesa, .statement (closeLoads 300)⟩).2 =
    .outcome (.wrote [(⟨.load, 2⟩, some ⟨some mesaId, none, none, none, 300⟩)]) := rfl

lemma bare_counts : ((after events).serve userKeys ⟨second, .bare, .statement (OrganizationService.qualifyingCarrierCount [3] basinId
    (fun status => status == 1))⟩).2 = .outcome (.read 0) := rfl

end PoolSample

open PoolSample in
theorem statement_confined_sample :
    (∃ visible : Database ℕ, ((after events).serve userKeys ⟨first, .tenant mesa, .statement readLoads⟩).2 =
      .outcome (.read (loads.filterMap (fun k => (visible k).map Row.columns)).sum) ∧
      ∀ k r, visible k = some r → Shared k r ∨ r.organizationId = some mesaId) ∧
    ∃ ws, ((after events).serve userKeys ⟨first, .tenant mesa, .statement (closeLoads 300)⟩).2 = .outcome (.wrote ws) ∧
      ws.length = 1 ∧ ∀ w ∈ ws, ∀ new, w.2 = some new → Shared w.1 new ∨ new.organizationId = some mesaId := by
  have hrun : Run (Total (Pool.next userKeys)) (Pool.new 2 rows) events (after events) := run_total _ _ events
  constructor
  · have havailable : ((after events).serve userKeys ⟨first, .tenant mesa, .statement readLoads⟩).2 ≠ .unavailable := by
      rw [mesa_reads]
      rintro ⟨⟩
    have hopen : ((after events).serve userKeys ⟨first, .tenant mesa, .statement readLoads⟩).2 ≠ .aborted := by
      rw [mesa_reads]
      rintro ⟨⟩
    obtain ⟨x, visible, o, _, _, hanswer, hvisible, hread, _⟩ := statement_confined hrun havailable hopen
    refine ⟨visible, hanswer.trans (congrArg _ (hread _ rfl)), fun k r hr => ?_⟩
    rcases ((hvisible k r).mp hr).2 with hshared | ⟨_, _, hcast⟩
    · exact .inl hshared
    · exact .inr (hcast.trans castUuid_mesa)
  · have havailable : ((after events).serve userKeys ⟨first, .tenant mesa, .statement (closeLoads 300)⟩).2 ≠ .unavailable := by
      rw [mesa_closes]
      rintro ⟨⟩
    have hopen : ((after events).serve userKeys ⟨first, .tenant mesa, .statement (closeLoads 300)⟩).2 ≠ .aborted := by
      rw [mesa_closes]
      rintro ⟨⟩
    obtain ⟨x, visible, o, _, _, hanswer, _, _, hwrote⟩ := statement_confined hrun havailable hopen
    obtain rfl := Answer.outcome.inj (mesa_closes.symm.trans hanswer)
    refine ⟨_, mesa_closes, rfl, fun w hw new hnew => ?_⟩
    rcases (hwrote _ rfl w hw).2 new hnew with hshared | ⟨_, _, hcast⟩
    · exact .inl hshared
    · exact .inr (hcast.trans castUuid_mesa)

open PoolSample in
theorem organization_rows_kept_sample :
    restrict (Owned basinId) (after (opening ++ creation)).rows = restrict (Owned basinId) rows := by
  have hrun : Run (Guarded (Total (Pool.next userKeys)) (fun p e => spares p e = true)) (Pool.new 2 rows) (opening ++ creation)
      (after (opening ++ creation)) := run_total_checked (by decide +kernel)
  exact organization_rows_kept (hrun.mono (fun _ _ _ h => ⟨h.1, spares_of_checked h.2⟩)) events_commits

open PoolSample in
theorem platform_counts_zero_sample :
    ∃ count, ((after events).serve userKeys ⟨second, .bare, .statement (OrganizationService.qualifyingCarrierCount [3] basinId
      (fun status => status == 1))⟩).2 = .outcome (.read count) ∧ count = 0 :=
  ⟨0, bare_counts, platform_counts_zero (run_total _ _ events) (.inl rfl) bare_counts⟩

end Truckmaster.Tenancy
