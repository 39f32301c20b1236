import Truckmaster.BackgroundJobs.LoadAlerts
import Truckmaster.Library.Fanouts
import Truckmaster.Library.Runs

namespace Truckmaster.BackgroundJobs

open Common Tables QuoteLoad Fanouts Runs

def sameNotificationEventWindowMs : ℤ := 60000

/-- What an interactive transaction may last at most, by the default of the database client. -/
def transactionTimeoutMs : ℤ := 5000

def Notification.key (n : Notification) : Uuid × NotificationType × Option Uuid :=
  (n.organizationId, n.type, n.relatedEntityId)

def alertPost : Post Notification (Uuid × NotificationType × Option Uuid) Uuid :=
  ⟨Notification.key, Notification.recipientUserId, Notification.event, Notification.createdAt, Notification.read⟩

def sweepOf : NotificationType → Option Sweep
  | .checkCallOverdue | .checkCallDueSoon => some .checkCall
  | .loadLate => some .lateness
  | _ => none

def PassState.Ahead (p : PassState) (organizationId : Uuid) (loadId : Option Uuid) : Prop :=
  organizationId ∈ p.organizations ∨ ∃ l ∈ p.pending, l.organizationId = organizationId ∧ some l.loadId = loadId

lemma PassState.Ahead.of_tail {p p' : PassState} {organizationId : Uuid} {loadId : Option Uuid}
    (h : p'.Ahead organizationId loadId) (horganizations : p'.organizations = p.organizations)
    (hpending : p'.pending = p.pending.tail) : p.Ahead organizationId loadId := by
  rcases h with h | ⟨l, hl, h⟩
  · exact Or.inl (horganizations ▸ h)
  · exact Or.inr ⟨l, List.mem_of_mem_tail (hpending ▸ hl), h⟩

namespace AlertState

/-- The passes of a sweep are more than the window apart, and a visit writes its new copies in one transaction. -/
def Timed (s : AlertState) : AlertEvent → Prop
  | .beginPass sweep now _ => ∀ t ∈ (s.passes sweep).latest, t + sameNotificationEventWindowMs < now
  | .visit sweep q =>
    (∀ t ∈ (s.passes sweep).latest, t ≤ q.now) ∧
    (∀ i, q.now ≤ q.createdAt i ∧ q.createdAt i ≤ q.finish) ∧ q.finish ≤ q.now + transactionTimeoutMs ∧
    (∀ i, q.uuid i ∉ s.notifications.map Notification.id) ∧ Function.Injective q.uuid
  | _ => True

structure PassKept (s : AlertState) (sweep : Sweep) (p : PassState) : Prop where
  organizations : p.organizations.Nodup
  pending : (p.pending.map (fun l => (l.organizationId, l.loadId))).Nodup
  read : ∀ l ∈ p.pending, l.organizationId ∉ p.organizations
  known : ∀ l ∈ p.pending, ∃ x ∈ s.loads.rows, x.id = l.loadId ∧ x.organizationId = l.organizationId
  began : ∀ b ∈ p.began, ∃ t ∈ p.latest, b ≤ t
  written : ∀ n ∈ s.notifications, sweepOf n.type = some sweep → ∃ t ∈ p.latest, n.createdAt ≤ t
  fresh : ∀ n ∈ s.notifications, sweepOf n.type = some sweep → p.Ahead n.organizationId n.relatedEntityId →
    ∃ b ∈ p.began, n.createdAt + sameNotificationEventWindowMs < b

structure Kept (s : AlertState) : Prop where
  log : Log alertPost sameNotificationEventWindowMs s.notifications s.fired
  ids : (s.notifications.map Notification.id).Nodup
  related : ∀ n ∈ s.notifications, (sweepOf n.type).isSome ∧ n.relatedEntityType = some "Load" ∧
    ∃ l ∈ s.loads.rows, n.relatedEntityId = some l.id ∧ l.organizationId = n.organizationId
  organizations : s.organizations.Nodup
  passes : ∀ sweep, s.PassKept sweep (s.passes sweep)

variable {s t : AlertState} {sweep : Sweep} {p : PassState} {l : Snapshot} {q : Visit}

@[simp] lemma withPass_passes : (s.withPass sweep p).passes sweep = p := Function.update_self ..

lemma Kept.withPass (h : s.Kept) (hp : s.PassKept sweep p) : (s.withPass sweep p).Kept := by
  refine ⟨h.log, h.ids, h.related, h.organizations, fun other => ?_⟩
  have hpass : s.PassKept other (Function.update s.passes sweep p other) := by
    by_cases hother : other = sweep
    · subst hother
      rw [Function.update_self]
      exact hp
    · rw [Function.update_of_ne hother]
      exact h.passes other
  exact ⟨hpass.organizations, hpass.pending, hpass.read, hpass.known, hpass.began, hpass.written, hpass.fresh⟩

lemma updateMany_notifications (f : Notification → Bool) :
    (s.updateMany f).notifications = s.notifications.map (fun n => { n with read := n.read || f n }) := by
  refine List.map_congr_left (fun n _ => ?_)
  cases f n <;> simp [Notification.markedRead]

lemma Kept.updateMany (h : s.Kept) (f : Notification → Bool) : (s.updateMany f).Kept := by
  have hback : ∀ n ∈ (s.updateMany f).notifications, ∃ m ∈ s.notifications, n = { m with read := m.read || f m } := by
    intro n hn
    rw [updateMany_notifications] at hn
    obtain ⟨m, hm, rfl⟩ := List.mem_map.mp hn
    exact ⟨m, hm, rfl⟩
  refine ⟨?_, ?_, fun n hn => ?_, h.organizations, fun sweep => ?_⟩
  · rw [updateMany_notifications]
    have hread (n : Notification) (hn : n.read = true) : (n.read || f n) = true := by rw [hn, Bool.true_or]
    exact h.log.mark _ (fun _ => rfl) (fun _ => rfl) (fun _ => rfl) (fun _ => rfl) hread
  · rw [updateMany_notifications, List.map_map]
    exact h.ids
  · obtain ⟨m, hm, rfl⟩ := hback n hn
    exact h.related m hm
  · have hp := h.passes sweep
    refine ⟨hp.organizations, hp.pending, hp.read, hp.known, hp.began, fun n hn hsweep => ?_, fun n hn hsweep hahead => ?_⟩
    · obtain ⟨m, hm, rfl⟩ := hback n hn
      exact hp.written m hm hsweep
    · obtain ⟨m, hm, rfl⟩ := hback n hn
      exact hp.fresh m hm hsweep hahead

section Copies

variable {type : NotificationType} {organizationId loadId : Uuid} {message : String} {users : List Uuid} {n : Notification}

lemma copies_recipients :
    (s.copies q type organizationId loadId message users).map Notification.recipientUserId = users := by
  rw [copies, List.map_map]
  exact List.zipIdx_map_fst 0 users

lemma copies_ids (hinjective : Function.Injective q.uuid) :
    ((s.copies q type organizationId loadId message users).map Notification.id).Nodup := by
  have hids : (s.copies q type organizationId loadId message users).map Notification.id =
      (users.zipIdx.map Prod.snd).map q.uuid := by
    rw [copies, List.map_map, List.map_map]
    rfl
  rw [hids, List.zipIdx_map_snd]
  exact List.Nodup.map hinjective List.nodup_range'

lemma mem_copies (hn : n ∈ s.copies q type organizationId loadId message users) :
    n.key = (organizationId, type, some loadId) ∧ n.relatedEntityType = some "Load" ∧ n.event = s.fired ∧
      n.read = false ∧ ∃ i, n.createdAt = q.createdAt i ∧ n.id = q.uuid i := by
  obtain ⟨⟨u, i⟩, _, rfl⟩ := List.mem_map.mp hn
  exact ⟨rfl, rfl, rfl, rfl, i, rfl, rfl⟩

end Copies

lemma within_window {now a b finish : ℤ} (ha : now ≤ a) (hb : b ≤ finish) (hquick : finish ≤ now + transactionTimeoutMs) :
    b ≤ a + sameNotificationEventWindowMs := by
  simp only [transactionTimeoutMs, sameNotificationEventWindowMs] at *
  omega

structure Ready (s : AlertState) (sweep : Sweep) (q : Visit) (organizationId loadId : Uuid) : Prop where
  known : ∃ x ∈ s.loads.rows, x.id = loadId ∧ x.organizationId = organizationId
  within : ∀ i, q.now ≤ q.createdAt i ∧ q.createdAt i ≤ q.finish
  quick : q.finish ≤ q.now + transactionTimeoutMs
  unused : ∀ i, q.uuid i ∉ s.notifications.map Notification.id
  injective : Function.Injective q.uuid
  latest : q.finish ∈ (s.passes sweep).latest
  visited : ¬ (s.passes sweep).Ahead organizationId (some loadId)
  old : ∀ n ∈ s.notifications, sweepOf n.type = some sweep → n.organizationId = organizationId →
    n.relatedEntityId = some loadId → n.createdAt + sameNotificationEventWindowMs < q.now

lemma Kept.fire {type : NotificationType} {organizationId loadId : Uuid} (h : s.Kept)
    (hready : s.Ready sweep q organizationId loadId) (htype : sweepOf type = some sweep) (dispatcherId : Uuid)
    (message action : String) (hours : Option ℤ) :
    (s.fire q type organizationId loadId dispatcherId message action hours).Kept := by
  rw [AlertState.fire]
  by_cases hout : s.outstanding type organizationId loadId = true
  · rw [if_pos hout]
    exact h
  rw [if_neg hout]
  obtain ⟨new, hnew⟩ : ∃ new, new = s.copies q type organizationId loadId message
    (s.recipients q.members organizationId dispatcherId) := ⟨_, rfl⟩
  rw [← hnew]
  have hmem : ∀ n ∈ new, n.key = (organizationId, type, some loadId) ∧ n.relatedEntityType = some "Load" ∧
      n.event = s.fired ∧ n.read = false ∧ ∃ i, n.createdAt = q.createdAt i ∧ n.id = q.uuid i :=
    fun n hn => mem_copies (hnew ▸ hn)
  have hsweep : ∀ n ∈ new, n.organizationId = organizationId ∧ n.type = type ∧ n.relatedEntityId = some loadId := by
    intro n hn
    have hkey := (hmem n hn).1
    exact ⟨congrArg (fun k => k.1) hkey, congrArg (fun k => k.2.1) hkey, congrArg (fun k => k.2.2) hkey⟩
  have htime : ∀ n ∈ new, q.now ≤ n.createdAt ∧ n.createdAt ≤ q.finish := by
    intro n hn
    obtain ⟨-, -, -, -, i, hi, -⟩ := hmem n hn
    rw [hi]
    exact hready.within i
  refine ⟨?_, ?_, fun n hn => ?_, h.organizations, fun other => ?_⟩
  · refine h.log.post (organizationId, type, some loadId) (fun n hn => (hmem n hn).2.2.1) (fun n hn => (hmem n hn).1)
      (fun a ha b hb heq => ?_) (fun a ha b hb => ?_) (fun a ha hkey => ⟨?_, fun b hb => ?_⟩)
    · exact List.inj_on_of_nodup_map (hnew ▸ copies_recipients.symm ▸ s.recipients_nodup _ _ _) ha hb heq
    · exact within_window (htime a ha).1 (htime b hb).2 hready.quick
    · obtain ⟨-, hentity, -⟩ := h.related a ha
      have hconcerns : a.concerns type organizationId loadId = true := by
        have horg : a.organizationId = organizationId := congrArg (fun k => k.1) hkey
        have htype : a.type = type := congrArg (fun k => k.2.1) hkey
        have hload : a.relatedEntityId = some loadId := congrArg (fun k => k.2.2) hkey
        simp [Notification.concerns, horg, htype, hentity, hload]
      by_contra hunread
      refine hout (List.any_eq_true.mpr ⟨a, ha, ?_⟩)
      rw [hconcerns, Bool.true_and, Bool.not_eq_true']
      exact Bool.eq_false_of_not_eq_true hunread
    · have hfar := hready.old a ha (by rw [← htype]; exact congrArg (fun k => sweepOf k.2.1) hkey)
        (congrArg (fun k => k.1) hkey) (congrArg (fun k => k.2.2) hkey)
      exact lt_of_lt_of_le hfar (htime b hb).1
  · rw [List.map_append]
    refine h.ids.append (hnew ▸ copies_ids hready.injective) ?_
    rw [List.disjoint_left]
    intro id hold hid
    obtain ⟨n, hn, rfl⟩ := List.mem_map.mp hid
    obtain ⟨-, -, -, -, i, -, hi⟩ := hmem n hn
    exact hready.unused i (hi ▸ hold)
  · rcases List.mem_append.mp hn with hn | hn
    · exact h.related n hn
    · obtain ⟨horg, hntype, hload⟩ := hsweep n hn
      obtain ⟨x, hx, hid, hxorg⟩ := hready.known
      rw [hntype, htype, hload, horg]
      exact ⟨rfl, (hmem n hn).2.1, x, hx, congrArg some hid.symm, hxorg⟩
  · have hp := h.passes other
    refine ⟨hp.organizations, hp.pending, hp.read, hp.known, hp.began, fun n hn hother => ?_, fun n hn hother hahead => ?_⟩
    · rcases List.mem_append.mp hn with hn | hn
      · exact hp.written n hn hother
      · rw [(hsweep n hn).2.1, htype] at hother
        obtain rfl := Option.some.inj hother
        exact ⟨q.finish, hready.latest, (htime n hn).2⟩
    · rcases List.mem_append.mp hn with hn | hn
      · exact hp.fresh n hn hother hahead
      · rw [(hsweep n hn).2.1, htype] at hother
        obtain rfl := Option.some.inj hother
        rw [(hsweep n hn).1, (hsweep n hn).2.2] at hahead
        exact absurd hahead hready.visited

lemma Ready.updateMany {organizationId loadId : Uuid} (h : s.Ready sweep q organizationId loadId)
    (f : Notification → Bool) : (s.updateMany f).Ready sweep q organizationId loadId := by
  refine ⟨h.known, h.within, h.quick, fun i => ?_, h.injective, h.latest, h.visited, fun n hn => ?_⟩
  · rw [updateMany_notifications, List.map_map]
    exact h.unused i
  · rw [updateMany_notifications] at hn
    obtain ⟨m, hm, rfl⟩ := List.mem_map.mp hn
    exact h.old m hm

lemma PassKept.tail (h : s.PassKept sweep p) {latest : Option Instant} (hlatest : ∀ t ∈ p.latest, ∃ t' ∈ latest, t ≤ t') :
    s.PassKept sweep { p with pending := p.pending.tail, latest } := by
  have hlater (x : Instant) (hx : ∃ t ∈ p.latest, x ≤ t) : ∃ t ∈ latest, x ≤ t := by
    obtain ⟨t, ht, hxt⟩ := hx
    obtain ⟨t', ht', htt⟩ := hlatest t ht
    exact ⟨t', ht', le_trans hxt htt⟩
  refine ⟨h.organizations, ?_, fun l hl => h.read l (List.mem_of_mem_tail hl),
    fun l hl => h.known l (List.mem_of_mem_tail hl), fun b hb => hlater b (h.began b hb),
    fun n hn hsweep => hlater _ (h.written n hn hsweep),
    fun n hn hsweep hahead => h.fresh n hn hsweep (hahead.of_tail rfl rfl)⟩
  exact h.pending.sublist ((List.tail_sublist p.pending).map _)

lemma Kept.visit (h : s.Kept) {rest : List Snapshot} (hpass : (s.passes sweep).pending = l :: rest)
    (htimed : s.Timed (.visit sweep q)) :
    (s.withPass sweep { s.passes sweep with pending := rest, latest := some q.finish }).Kept ∧
      (s.withPass sweep { s.passes sweep with pending := rest, latest := some q.finish }).Ready sweep q
        l.organizationId l.loadId := by
  obtain ⟨hlatest, hwithin, hquick, hunused, hinjective⟩ := htimed
  have hp := h.passes sweep
  have hmem : l ∈ (s.passes sweep).pending := hpass ▸ List.mem_cons_self
  have hnow : q.now ≤ q.finish := le_trans (hwithin 0).1 (hwithin 0).2
  have hrest : rest = (s.passes sweep).pending.tail := by rw [hpass, List.tail_cons]
  refine ⟨h.withPass ?_, ⟨hp.known l hmem, hwithin, hquick, hunused, hinjective, ?_, ?_, fun n hn hsweep horg hload => ?_⟩⟩
  · rw [hrest]
    exact hp.tail (fun t ht => ⟨q.finish, rfl, le_trans (hlatest t ht) hnow⟩)
  · rw [withPass_passes]
    rfl
  · have hfirst : (l.organizationId, l.loadId) ∉ rest.map (fun l => (l.organizationId, l.loadId)) := by
      have hnodup := hp.pending
      rw [hpass, List.map_cons, List.nodup_cons] at hnodup
      exact hnodup.1
    rw [withPass_passes]
    rintro (horg | ⟨l', hl', horg, hload⟩)
    · exact hp.read l hmem horg
    · exact hfirst (List.mem_map.mpr ⟨l', hl', Prod.ext horg (Option.some.inj hload)⟩)
  · obtain ⟨b, hb, hfar⟩ := hp.fresh n hn hsweep (Or.inr ⟨l, hmem, horg.symm, hload.symm⟩)
    obtain ⟨t, ht, hbt⟩ := hp.began b hb
    exact lt_of_lt_of_le hfar (le_trans hbt (hlatest t ht))

lemma Kept.withLoads (h : s.Kept) {loads : Table TenantLoad.id}
    (hloads : ∀ x ∈ s.loads.rows, ∃ y ∈ loads.rows, y.id = x.id ∧ y.organizationId = x.organizationId) :
    ({ s with loads } : AlertState).Kept := by
  refine ⟨h.log, h.ids, fun n hn => ?_, h.organizations, fun sweep => ?_⟩
  · obtain ⟨hsweep, hentity, x, hx, hid, horg⟩ := h.related n hn
    obtain ⟨y, hy, hyid, hyorg⟩ := hloads x hx
    exact ⟨hsweep, hentity, y, hy, by rw [hid, hyid], hyorg.trans horg⟩
  · have hp := h.passes sweep
    refine ⟨hp.organizations, hp.pending, hp.read, fun l hl => ?_, hp.began, hp.written, hp.fresh⟩
    obtain ⟨x, hx, hid, horg⟩ := hp.known l hl
    obtain ⟨y, hy, hyid, hyorg⟩ := hloads x hx
    exact ⟨y, hy, hyid.trans hid, hyorg.trans horg⟩

lemma Kept.putRows (h : s.Kept) (loadId : Uuid) (rows : LoadRows) : (s.putRows loadId rows).Kept := by
  refine h.withLoads (fun x hx => ?_)
  by_cases hid : x.id = loadId
  · refine ⟨_, (Table.mem_update _ _ _ _).mpr (Or.inl ⟨x, hx, hid, rfl⟩), ?_⟩
    split_ifs with hsame
    · exact ⟨hsame, rfl⟩
    · exact ⟨rfl, rfl⟩
  · exact ⟨x, (Table.mem_update _ _ _ _).mpr (Or.inr ⟨hx, hid⟩), rfl, rfl⟩

lemma Kept.createLoad (h : s.Kept) (x : TenantLoad) :
    ({ s with loads := (s.loads.insert x).getD s.loads } : AlertState).Kept := by
  refine h.withLoads (fun y hy => ?_)
  cases hinsert : s.loads.insert x with
  | none => exact ⟨y, hy, rfl, rfl⟩
  | some loads =>
    exact ⟨y, by rw [Option.getD_some, Table.insert_rows hinsert]; exact List.mem_append_left _ hy, rfl, rfl⟩

lemma Kept.visitLateness (h : s.Kept) (hready : s.Ready .lateness q l.organizationId l.loadId) (zone : Calendars.Zone) :
    (s.visitLateness zone q l).Kept := by
  rw [AlertState.visitLateness]
  split
  · exact h.fire hready rfl _ _ _ _
  · exact h

lemma Kept.visitCheckCall (h : s.Kept) (hready : s.Ready .checkCall q l.organizationId l.loadId) (hours : ℤ) :
    (s.visitCheckCall hours q l).Kept := by
  rw [AlertState.visitCheckCall]
  cases idle l q.now with
  | none => exact h
  | some x =>
    dsimp only
    split_ifs
    · exact h
    · exact (h.updateMany _).fire (hready.updateMany _) rfl _ _ _ _
    · exact h.fire hready rfl _ _ _ _

lemma Kept.beginPass (h : s.Kept) {now : Instant} {o : RowOrder} (htimed : s.Timed (.beginPass sweep now o)) :
    (s.withPass sweep ⟨o.arrange s.organizations, [], some now, some now⟩).Kept := by
  have hp := h.passes sweep
  have hbefore : ∀ n ∈ s.notifications, sweepOf n.type = some sweep → n.createdAt + sameNotificationEventWindowMs < now := by
    intro n hn hsweep
    obtain ⟨t, ht, hle⟩ := hp.written n hn hsweep
    exact lt_of_le_of_lt (add_le_add_left hle _) (htimed t ht)
  apply h.withPass
  refine ⟨((o.perm _).nodup_iff).mpr h.organizations, List.nodup_nil, fun l hl => (nomatch hl), fun l hl => (nomatch hl),
    fun b hb => ⟨now, rfl, (Option.mem_some_iff.mp hb).ge⟩, fun n hn hsweep => ⟨now, rfl, ?_⟩,
    fun n hn hsweep _ => ⟨now, rfl, hbefore n hn hsweep⟩⟩
  have hfar := hbefore n hn hsweep
  exact le_trans (Int.le_add_of_nonneg_right (by decide)) hfar.le

lemma Kept.readLoads (h : s.Kept) {organizationId : Uuid} {rest : List Uuid} {o : RowOrder}
    (hpass : (s.passes sweep).organizations = organizationId :: rest) :
    (s.withPass sweep { s.passes sweep with organizations := rest, pending := s.snapshots o organizationId }).Kept := by
  have hp := h.passes sweep
  have hnodup := hp.organizations
  rw [hpass, List.nodup_cons] at hnodup
  have hsnapshot : ∀ l ∈ s.snapshots o organizationId, l.organizationId = organizationId ∧
      ∃ x ∈ s.loads.rows, x.id = l.loadId ∧ x.organizationId = l.organizationId := by
    intro l hl
    obtain ⟨x, hx, rfl⟩ := List.mem_map.mp hl
    obtain ⟨hrow, hop⟩ := mem_findMany.mp hx
    rw [Tenants.isOperational, Bool.and_eq_true, beq_iff_eq] at hop
    exact ⟨hop.1, x, hrow, rfl, rfl⟩
  apply h.withPass
  refine ⟨hnodup.2, ?_, fun l hl => (hsnapshot l hl).1 ▸ hnodup.1, fun l hl => (hsnapshot l hl).2, hp.began, hp.written,
    fun n hn hsweep hahead => hp.fresh n hn hsweep ?_⟩
  · have hkeys : ((s.snapshots o organizationId).map Snapshot.loadId).Nodup := by
      rw [snapshots, List.map_map]
      exact ((findMany_perm o _ s.loads.rows).map TenantLoad.id).nodup_iff.mpr
        (s.loads.nodup.sublist (List.filter_sublist.map TenantLoad.id))
    exact List.Nodup.of_map Prod.snd (by rw [List.map_map]; exact hkeys)
  · rcases hahead with horg | ⟨l, hl, horg, -⟩
    · exact Or.inl (hpass ▸ List.mem_cons_of_mem _ horg)
    · exact Or.inl (hpass ▸ horg ▸ (hsnapshot l hl).1 ▸ List.mem_cons_self)

lemma next_kept (c : Settings) (h : s.Kept) {e : AlertEvent} (htimed : s.Timed e) : (next c s e).Kept := by
  cases e with
  | beginPass sweep now o => exact h.beginPass htimed
  | readLoads sweep o =>
    rcases hpass : s.passes sweep with ⟨_ | ⟨organizationId, rest⟩, _ | ⟨l, pending⟩, began, latest⟩ <;>
      simp only [next, hpass] <;> try exact h
    have hread := h.readLoads (o := o) (congrArg PassState.organizations hpass)
    rwa [hpass] at hread
  | visit sweep q =>
    rcases hpass : s.passes sweep with ⟨organizations, _ | ⟨l, rest⟩, began, latest⟩
    · simp only [next, hpass]
      exact h
    · obtain ⟨hkept, hready⟩ := h.visit (congrArg PassState.pending hpass) htimed
      rw [hpass] at hkept hready
      cases sweep with
      | checkCall =>
        simp only [next, hpass]
        exact hkept.visitCheckCall hready _
      | lateness =>
        simp only [next, hpass]
        exact hkept.visitLateness hready _
  | failedVisit sweep =>
    exact h.withPass ((h.passes sweep).tail (fun t ht => ⟨t, ht, le_rfl⟩))
  | markRead organizationId recipientUserId id =>
    simp only [next]
    split_ifs
    · exact h.updateMany _
    · exact h
  | markAllRead organizationId recipientUserId => exact h.updateMany _
  | logCheckCall organizationId loadId q dto =>
    simp only [next]
    split
    · exact h.putRows _ _
    · exact h
  | editLoad loadId rows hid => exact h.putRows _ _
  | createLoad l => exact h.createLoad l
  | staff members drivers =>
    exact ⟨h.log, h.ids, h.related, h.organizations, fun sweep =>
      ⟨(h.passes sweep).organizations, (h.passes sweep).pending, (h.passes sweep).read, (h.passes sweep).known,
        (h.passes sweep).began, (h.passes sweep).written, (h.passes sweep).fresh⟩⟩

structure Fresh (s : AlertState) : Prop where
  notifications : s.notifications = []
  passes : ∀ sweep, s.passes sweep = {}
  organizations : s.organizations.Nodup

lemma Fresh.kept (h : s.Fresh) : s.Kept := by
  have hnone : ∀ n, n ∉ s.notifications := fun n hn => by
    rw [h.notifications] at hn
    cases hn
  refine ⟨h.notifications ▸ log_nil, h.notifications ▸ List.nodup_nil, fun n hn => absurd hn (hnone n), h.organizations,
    fun sweep => ?_⟩
  rw [h.passes sweep]
  exact ⟨List.nodup_nil, List.nodup_nil, fun l hl => (nomatch hl), fun l hl => (nomatch hl), fun b hb => (nomatch hb),
    fun n hn => absurd hn (hnone n), fun n hn => absurd hn (hnone n)⟩

lemma run_kept {c : Settings} {es : List AlertEvent} (h : s.Fresh) (hrun : Run (Guarded (Total (next c)) Timed) s es t) :
    t.Kept :=
  hrun.invariant (fun _ _ _ hkept hstep => by
    obtain ⟨rfl, htimed⟩ := hstep
    exact next_kept c hkept htimed) h.kept

end AlertState

end Truckmaster.BackgroundJobs
