import Truckmaster.Reporting.NeedsAttention

/-! What the needs-attention list shows: each alert event once, to the viewers who have not read their copy. -/

namespace Truckmaster.Reporting.ReportingService

open Common Tables QuoteLoad BackgroundJobs Fanouts Pages Runs AlertState

section Orders

instance : Std.Total Newer where
  total a b := by
    rcases lt_trichotomy a.createdAt b.createdAt with h | h | h
    · exact Or.inr (Or.inl h)
    · rcases Nat.le_total a.id b.id with hid | hid
      · exact Or.inl (Or.inr ⟨h.symm, hid⟩)
      · exact Or.inr (Or.inr ⟨h, hid⟩)
    · exact Or.inl (Or.inl h)

instance : IsTrans Notification Newer where
  trans a b c := by
    rintro (hab | ⟨hab, hid⟩) (hbc | ⟨hbc, hid'⟩)
    · exact Or.inl (lt_trans hbc hab)
    · exact Or.inl (hbc ▸ hab)
    · exact Or.inl (hab ▸ hbc)
    · exact Or.inr ⟨hbc.trans hab, le_trans hid hid'⟩

lemma newer_antisymm {a b : Notification} (hab : Newer a b) (hba : Newer b a) : a.id = b.id := by
  rcases hab with hab | ⟨hab, hid⟩ <;> rcases hba with hba | ⟨hba, hid'⟩
  · exact absurd (lt_trans hab hba) (lt_irrefl _)
  · exact absurd hab (hba ▸ lt_irrefl _)
  · exact absurd hba (hab ▸ lt_irrefl _)
  · exact le_antisymm hid hid'

lemma earliest_le {ns : List Notification} {n : Notification} (hn : n ∈ ns) : earliest ns ≤ n.createdAt := by
  cases hmin : (ns.map Notification.createdAt).min? with
  | none => exact absurd (List.min?_eq_none_iff.mp hmin) (List.ne_nil_of_mem (List.mem_map_of_mem hn))
  | some t =>
    rw [earliest, hmin, Option.getD_some]
    exact (List.min?_eq_some_iff.mp hmin).2 _ (List.mem_map_of_mem hn)

lemma earliest_mem {ns : List Notification} (h : ns ≠ []) : ∃ n ∈ ns, earliest ns = n.createdAt := by
  cases hmin : (ns.map Notification.createdAt).min? with
  | none => exact absurd (List.map_eq_nil_iff.mp (List.min?_eq_none_iff.mp hmin)) h
  | some t =>
    obtain ⟨n, hn, ht⟩ := List.mem_map.mp (List.min?_eq_some_iff.mp hmin).1
    exact ⟨n, hn, by rw [earliest, hmin, Option.getD_some, ht]⟩

end Orders

section Collapse

variable {s : AlertState} {organizationId viewer : Uuid} {unread : List Notification} {m n : Notification}

lemma isCandidate_iff : isCandidate organizationId none n = true ↔
    n.organizationId = organizationId ∧ n.type ∈ needsAttentionNotificationTypes ∧ n.read = false := by
  simp [isCandidate, and_assoc]

/-- The copy that stands for its event in the list of the viewer. -/
def Represents (s : AlertState) (organizationId viewer : Uuid) (n : Notification) : Prop :=
  n ∈ s.notifications ∧ isCandidate organizationId none n = true ∧
    (n.recipientUserId = viewer ∨
      (∀ m ∈ s.notifications, m.event = n.event → m.recipientUserId ≠ viewer) ∧
        ∀ m ∈ s.notifications, isCandidate organizationId none m = true →
          notificationEventKey m = notificationEventKey n → Newer n m)

lemma key_of_eventKey (horg : m.organizationId = n.organizationId)
    (hkey : notificationEventKey m = notificationEventKey n) : alertPost.key m = alertPost.key n := by
  have htype : m.type = n.type := congrArg (fun k => k.1) hkey
  have hload : m.relatedEntityId = n.relatedEntityId := congrArg (fun k => k.2.2) hkey
  simp [alertPost, Notification.key, horg, htype, hload]

lemma eventKey_of_event (h : s.Kept) (hm : m ∈ s.notifications) (hn : n ∈ s.notifications) (hevent : m.event = n.event) :
    notificationEventKey m = notificationEventKey n ∧ m.organizationId = n.organizationId := by
  have hkey := (h.log.together m hm n hn hevent).1
  have htype : m.type = n.type := congrArg (fun k => k.2.1) hkey
  have hload : m.relatedEntityId = n.relatedEntityId := congrArg (fun k => k.2.2) hkey
  refine ⟨?_, congrArg (fun k => k.1) hkey⟩
  rw [notificationEventKey, notificationEventKey, htype, hload, (h.related m hm).2.1, (h.related n hn).2.1]

lemma unread_event (h : s.Kept) (hm : m ∈ s.notifications) (hn : n ∈ s.notifications)
    (hcm : isCandidate organizationId none m = true) (hcn : isCandidate organizationId none n = true)
    (hkey : notificationEventKey m = notificationEventKey n) : m.event = n.event := by
  rw [isCandidate_iff] at hcm hcn
  exact h.log.unread_event hm hn (key_of_eventKey (hcm.1.trans hcn.1.symm) hkey) hcm.2.2 hcn.2.2

section Reads

variable (h : s.Kept) (hunread : ∀ n, n ∈ unread ↔ n ∈ s.notifications ∧ isCandidate organizationId none n = true)

include h hunread

lemma mem_readCopies (o : RowOrder) (hn : n ∈ unread) (hm : m ∈ s.notifications) (hevent : m.event = n.event)
    (hviewer : m.recipientUserId = viewer) (hread : m.read = true)
    (hown : ∀ x ∈ unread, notificationEventKey x = notificationEventKey n → x.recipientUserId ≠ viewer) :
    m ∈ findViewerReadNotificationCopies o organizationId viewer unread s.notifications := by
  obtain ⟨hrow, hcandidate⟩ := (hunread n).mp hn
  obtain ⟨horg, -, -⟩ := isCandidate_iff.mp hcandidate
  obtain ⟨hkey, hmorg⟩ := eventKey_of_event h hm hrow hevent
  obtain ⟨-, -, l, -, hload, -⟩ := h.related n hrow
  have hchecked : n ∈ unread.filter (fun n => n.relatedEntityId.isSome &&
      !((unread.filter (fun n => n.recipientUserId == viewer)).map notificationEventKey).contains
        (notificationEventKey n)) := by
    refine List.mem_filter.mpr ⟨hn, ?_⟩
    rw [hload, Option.isSome_some, Bool.true_and, Bool.not_eq_true', List.contains_eq_mem, decide_eq_false_iff_not,
      List.mem_map]
    rintro ⟨x, hx, hxkey⟩
    obtain ⟨hxunread, hxviewer⟩ := List.mem_filter.mp hx
    exact hown x hxunread hxkey (beq_iff_eq.mp hxviewer)
  have htime := (h.log.together m hm n hrow hevent).2
  have htype : m.type = n.type := congrArg (fun k => k.1) hkey
  have hid : m.relatedEntityId = n.relatedEntityId := congrArg (fun k => k.2.2) hkey
  rw [findViewerReadNotificationCopies, if_neg (by
    rw [List.isEmpty_iff]
    exact List.ne_nil_of_mem hchecked), mem_findMany]
  refine ⟨hm, ?_⟩
  rw [hmorg, horg, hviewer, hread, htype, hid, List.contains_iff_mem.mpr (List.mem_map_of_mem hchecked),
    List.contains_iff_mem.mpr (List.mem_map_of_mem hchecked), beq_self_eq_true, beq_self_eq_true]
  exact decide_eq_true (sub_le_iff_le_add.mpr (le_trans (earliest_le hchecked) htime))

lemma readCopy_event (hn : n ∈ unread) (hm : m ∈ s.notifications) (horg : m.organizationId = organizationId)
    (hkey : notificationEventKey m = notificationEventKey n)
    (htime : earliest (unread.filter (fun x => notificationEventKey x == notificationEventKey n)) -
      sameNotificationEventWindowMs ≤ m.createdAt) : m.event = n.event := by
  have hcopy : n ∈ unread.filter (fun x => notificationEventKey x == notificationEventKey n) :=
    List.mem_filter.mpr ⟨hn, beq_self_eq_true _⟩
  obtain ⟨b, hb, hearliest⟩ := earliest_mem (List.ne_nil_of_mem hcopy)
  obtain ⟨hbunread, hbkey⟩ := List.mem_filter.mp hb
  obtain ⟨hbrow, hbcandidate⟩ := (hunread b).mp hbunread
  obtain ⟨hrow, hcandidate⟩ := (hunread n).mp hn
  have hbn : b.event = n.event := unread_event h hbrow hrow hbcandidate hcandidate (beq_iff_eq.mp hbkey)
  obtain ⟨hborg, -, hbread⟩ := isCandidate_iff.mp hbcandidate
  have hmb : alertPost.key m = alertPost.key b :=
    key_of_eventKey (horg.trans hborg.symm) (hkey.trans (beq_iff_eq.mp hbkey).symm)
  rw [hearliest] at htime
  exact ((h.log.event_iff_time hm hbrow hmb hbread).mpr htime).trans hbn

lemma represents_of_collapse (o : RowOrder) (hn : n ∈ collapseNotificationCopies unread viewer
        (findViewerReadNotificationCopies o organizationId viewer unread s.notifications)) :
    Represents s organizationId viewer n := by
  rw [collapseNotificationCopies, List.mem_filterMap] at hn
  obtain ⟨key, -, hn⟩ := hn
  cases hfind : (unread.filter (fun n => notificationEventKey n == key)).find? (fun n => n.recipientUserId == viewer) with
  | some own =>
    rw [collapseCopies, hfind] at hn
    obtain rfl := Option.some.inj hn
    obtain ⟨hrow, hcandidate⟩ := (hunread own).mp (List.mem_filter.mp (List.mem_of_find?_eq_some hfind)).1
    exact ⟨hrow, hcandidate, Or.inl (by simpa using List.find?_some hfind)⟩
  | none =>
    rw [collapseCopies, hfind] at hn
    dsimp only at hn
    split_ifs at hn with hany
    have hcopy := head_mem hn
    obtain ⟨hnunread, hnkey⟩ := List.mem_filter.mp hcopy
    rw [beq_iff_eq] at hnkey
    obtain ⟨hrow, hcandidate⟩ := (hunread n).mp hnunread
    have hown : ∀ x ∈ unread, notificationEventKey x = notificationEventKey n → x.recipientUserId ≠ viewer := by
      intro x hx hxkey hxviewer
      refine List.find?_eq_none.mp hfind x (List.mem_filter.mpr ⟨hx, ?_⟩) (beq_iff_eq.mpr hxviewer)
      rw [hxkey, hnkey, beq_self_eq_true]
    refine ⟨hrow, hcandidate, Or.inr ⟨fun m hm hevent hviewer => ?_, fun m hm hmcandidate hmkey => ?_⟩⟩
    · obtain ⟨hmkey, hmorg⟩ := eventKey_of_event h hm hrow hevent
      cases hread : m.read with
      | false =>
        have hmcandidate : isCandidate organizationId none m = true := by
          obtain ⟨horg, htype, -⟩ := isCandidate_iff.mp hcandidate
          exact isCandidate_iff.mpr ⟨hmorg.trans horg, (congrArg (fun k => k.1) hmkey : m.type = n.type) ▸ htype, hread⟩
        exact hown m ((hunread m).mpr ⟨hm, hmcandidate⟩) hmkey hviewer
      | true =>
        refine hany (List.any_eq_true.mpr ⟨m, mem_readCopies h hunread o hnunread hm hevent hviewer hread hown, ?_⟩)
        have htime := (h.log.together m hm n hrow hevent).2
        rw [hmkey, hnkey, beq_self_eq_true, Bool.true_and]
        exact decide_eq_true (sub_le_iff_le_add.mpr (le_trans (earliest_le hcopy) htime))
    · refine head_first hn m (List.mem_filter.mpr ⟨(hunread m).mpr ⟨hm, hmcandidate⟩, ?_⟩)
      rw [hmkey, hnkey, beq_self_eq_true]

lemma collapse_of_represents (o : RowOrder) (hn : Represents s organizationId viewer n) :
    n ∈ collapseNotificationCopies unread viewer
        (findViewerReadNotificationCopies o organizationId viewer unread s.notifications) := by
  obtain ⟨hrow, hcandidate, hrole⟩ := hn
  rw [collapseNotificationCopies, List.mem_filterMap]
  have hnunread : n ∈ unread := (hunread n).mpr ⟨hrow, hcandidate⟩
  refine ⟨notificationEventKey n, List.mem_eraseDups.mpr (List.mem_map_of_mem hnunread), ?_⟩
  have hcopy : n ∈ unread.filter (fun x => notificationEventKey x == notificationEventKey n) :=
    List.mem_filter.mpr ⟨hnunread, beq_self_eq_true _⟩
  have hsame : ∀ x ∈ unread.filter (fun x => notificationEventKey x == notificationEventKey n),
      x ∈ s.notifications ∧ x.event = n.event := by
    intro x hx
    obtain ⟨hxunread, hxkey⟩ := List.mem_filter.mp hx
    obtain ⟨hxrow, hxcandidate⟩ := (hunread x).mp hxunread
    exact ⟨hxrow, unread_event h hxrow hrow hxcandidate hcandidate (beq_iff_eq.mp hxkey)⟩
  rw [collapseCopies]
  cases hfind : (unread.filter (fun x => notificationEventKey x == notificationEventKey n)).find?
      (fun n => n.recipientUserId == viewer) with
  | some own =>
    obtain ⟨hownrow, hownevent⟩ := hsame own (List.mem_of_find?_eq_some hfind)
    have hownviewer : own.recipientUserId = viewer := by simpa using List.find?_some hfind
    rcases hrole with hviewer | ⟨hnone, -⟩
    · exact congrArg some (h.log.once own hownrow n hrow hownevent (hownviewer.trans hviewer.symm))
    · exact absurd hownviewer (hnone own hownrow hownevent)
  | none =>
    rcases hrole with hviewer | ⟨hnone, hnewest⟩
    · exact absurd (beq_iff_eq.mpr hviewer) (List.find?_eq_none.mp hfind n hcopy)
    · dsimp only
      rw [if_neg]
      · obtain ⟨a, ha⟩ := head_exists (r := Newer) (List.ne_nil_of_mem hcopy)
        obtain ⟨haunread, hakey⟩ := List.mem_filter.mp (head_mem ha)
        obtain ⟨harow, hacandidate⟩ := (hunread a).mp haunread
        have hid := newer_antisymm (head_first ha n hcopy) (hnewest a harow hacandidate (beq_iff_eq.mp hakey))
        rw [ha, List.inj_on_of_nodup_map h.ids harow hrow hid]
      · rw [List.any_eq_true]
        rintro ⟨m, hm, hpast⟩
        rw [Bool.and_eq_true, beq_iff_eq, decide_eq_true_eq] at hpast
        have hfound : m ∈ s.notifications ∧ m.organizationId = organizationId ∧ m.recipientUserId = viewer := by
          rw [findViewerReadNotificationCopies] at hm
          split_ifs at hm
          · cases hm
          · simp only [mem_findMany, Bool.and_eq_true, beq_iff_eq] at hm
            exact ⟨hm.1, hm.2.1.1.1.1.1, hm.2.1.1.1.1.2⟩
        exact hnone m hfound.1 (readCopy_event h hunread hnunread hfound.1 hfound.2.1 hpast.1 hpast.2) hfound.2.2

end Reads

lemma collapseCopies_mem {key : NotificationType × String × Option Uuid} {copies reads : List Notification}
    (hn : collapseCopies key copies viewer reads = some n) : n ∈ copies := by
  rw [collapseCopies] at hn
  cases hfind : copies.find? (fun n => n.recipientUserId == viewer) with
  | some own =>
    rw [hfind] at hn
    exact Option.some.inj hn ▸ List.mem_of_find?_eq_some hfind
  | none =>
    rw [hfind] at hn
    dsimp only at hn
    split_ifs at hn
    exact head_mem hn

lemma collapse_nodup (unread reads : List Notification) : (collapseNotificationCopies unread viewer reads).Nodup := by
  refine (nodup_eraseDups _).filterMap (fun key key' n hn hn' => ?_)
  have hkey := (List.mem_filter.mp (collapseCopies_mem hn)).2
  have hkey' := (List.mem_filter.mp (collapseCopies_mem hn')).2
  exact (beq_iff_eq.mp hkey).symm.trans (beq_iff_eq.mp hkey')

/-- An event of the organization with an unread copy, whose copy the viewer, if addressed, has not read. -/
def Wanted (s : AlertState) (organizationId viewer : Uuid) (event : ℕ) : Prop :=
  (∃ n ∈ s.notifications, n.event = event ∧ n.organizationId = organizationId ∧ n.read = false) ∧
    ∀ n ∈ s.notifications, n.event = event → n.recipientUserId = viewer → n.read = false

instance (s : AlertState) (organizationId viewer : Uuid) (event : ℕ) : Decidable (Wanted s organizationId viewer event) :=
  inferInstanceAs (Decidable ((∃ _ ∈ _, _ ∧ _ ∧ _) ∧ ∀ _ ∈ _, _ → _ → _))

lemma swept_types (type : NotificationType) : (sweepOf type).isSome ↔ type ∈ needsAttentionNotificationTypes := by
  cases type <;> decide

lemma candidate_of_unread (h : s.Kept) (hn : n ∈ s.notifications) (horg : n.organizationId = organizationId)
    (hread : n.read = false) : isCandidate organizationId none n = true :=
  isCandidate_iff.mpr ⟨horg, (swept_types n.type).mp (h.related n hn).1, hread⟩

lemma wanted_of_represents (h : s.Kept) (hn : Represents s organizationId viewer n) :
    Wanted s organizationId viewer n.event := by
  obtain ⟨hrow, hcandidate, hrole⟩ := hn
  obtain ⟨horg, -, hread⟩ := isCandidate_iff.mp hcandidate
  refine ⟨⟨n, hrow, rfl, horg, hread⟩, fun m hm hevent hviewer => ?_⟩
  rcases hrole with hown | ⟨hnone, -⟩
  · rwa [h.log.once m hm n hrow hevent (hviewer.trans hown.symm)]
  · exact absurd hviewer (hnone m hm hevent)

lemma represents_unique (h : s.Kept) (hm : Represents s organizationId viewer m)
    (hn : Represents s organizationId viewer n) (hevent : m.event = n.event) : m = n := by
  obtain ⟨hmrow, hmcandidate, hmrole⟩ := hm
  obtain ⟨hnrow, hncandidate, hnrole⟩ := hn
  have hkey := (eventKey_of_event h hmrow hnrow hevent).1
  rcases hmrole with hmown | ⟨hmnone, hmnewest⟩ <;> rcases hnrole with hnown | ⟨hnnone, hnnewest⟩
  · exact h.log.once m hmrow n hnrow hevent (hmown.trans hnown.symm)
  · exact absurd hmown (hnnone m hmrow hevent)
  · exact absurd hnown (hmnone n hnrow hevent.symm)
  · have hid := newer_antisymm (hmnewest n hnrow hncandidate hkey.symm) (hnnewest m hmrow hmcandidate hkey)
    exact List.inj_on_of_nodup_map h.ids hmrow hnrow hid

lemma represents_exists (h : s.Kept) {event : ℕ} (hwanted : Wanted s organizationId viewer event) :
    ∃ n, Represents s organizationId viewer n ∧ n.event = event := by
  obtain ⟨⟨n, hn, rfl, horg, hread⟩, hown⟩ := hwanted
  by_cases hviewer : ∃ m ∈ s.notifications, m.event = n.event ∧ m.recipientUserId = viewer
  · obtain ⟨m, hm, hevent, hrecipient⟩ := hviewer
    have hmorg := (eventKey_of_event h hm hn hevent).2
    exact ⟨m, ⟨hm, candidate_of_unread h hm (hmorg.trans horg) (hown m hm hevent hrecipient), Or.inl hrecipient⟩, hevent⟩
  · push Not at hviewer
    have hcandidate := candidate_of_unread h hn horg hread
    have hcopy : n ∈ s.notifications.filter (fun m =>
        isCandidate organizationId none m && notificationEventKey m == notificationEventKey n) :=
      List.mem_filter.mpr ⟨hn, by rw [hcandidate, beq_self_eq_true]; rfl⟩
    obtain ⟨a, ha⟩ := head_exists (r := Newer) (List.ne_nil_of_mem hcopy)
    obtain ⟨harow, hacopy⟩ := List.mem_filter.mp (head_mem ha)
    rw [Bool.and_eq_true, beq_iff_eq] at hacopy
    have hevent : a.event = n.event := unread_event h harow hn hacopy.1 hcandidate hacopy.2
    refine ⟨a, ⟨harow, hacopy.1, Or.inr ⟨fun m hm hmevent => hviewer m hm (hmevent.trans hevent), fun m hm hmc hmkey => ?_⟩⟩,
      hevent⟩
    refine head_first ha m (List.mem_filter.mpr ⟨hm, ?_⟩)
    rw [hmc, hmkey, hacopy.2, beq_self_eq_true]
    rfl

end Collapse

section List

/-- `Before`, with the notifications first among rows that it does not tell apart. -/
def sortKey (i : NeedsAttentionItem) : ℕᵒᵈ ×ₗ ℤᵒᵈ ×ₗ ℕ ×ₗ ℕ :=
  toLex (OrderDual.toDual (severityRank i.severity), toLex (OrderDual.toDual (needsAttentionTimestamp i),
    toLex (i.id, if i.source = .notification then 0 else 1)))

def Finer (a b : NeedsAttentionItem) : Prop := sortKey a ≤ sortKey b

instance : DecidableRel Finer := fun _ _ => inferInstanceAs (Decidable (_ ≤ _))

instance : Std.Total Finer := ⟨fun _ _ => le_total _ _⟩

instance : IsTrans NeedsAttentionItem Finer := ⟨fun _ _ _ => le_trans⟩

lemma finer_antisymm {a b : NeedsAttentionItem} (hab : Finer a b) (hba : Finer b a) :
    a.id = b.id ∧ a.source = b.source := by
  have hkey := le_antisymm hab hba
  simp only [sortKey, EmbeddingLike.apply_eq_iff_eq, Prod.mk.injEq] at hkey
  refine ⟨hkey.2.2.1, ?_⟩
  cases ha : a.source <;> cases hb : b.source <;> simp [ha, hb] at hkey ⊢

lemma before_iff_finer {a b : NeedsAttentionItem} (h : a.source = .notification ∨ b.source = .attentionItem) :
    Before a b ↔ Finer a b := by
  have hsource : (if a.source = .notification then 0 else 1) ≤ (if b.source = .notification then 0 else 1) := by
    rcases h with h | h
    · rw [if_pos h]
      exact Nat.zero_le _
    · rw [h, if_neg (show RowSource.attentionItem ≠ .notification by decide)]
      split_ifs <;> decide
  rw [Finer, sortKey, sortKey, Prod.Lex.toLex_le_toLex, Prod.Lex.toLex_le_toLex, Prod.Lex.toLex_le_toLex, Before]
  simp only [OrderDual.toDual_lt_toDual, EmbeddingLike.apply_eq_iff_eq, hsource, and_true, le_iff_lt_or_eq (a := a.id)]
  constructor
  · rintro (h | ⟨h, h' | ⟨h', h''⟩⟩)
    · exact Or.inl h
    · exact Or.inr ⟨h.symm, Or.inl h'⟩
    · exact Or.inr ⟨h.symm, Or.inr ⟨h'.symm, h''⟩⟩
  · rintro (h | ⟨h, h' | ⟨h', h''⟩⟩)
    · exact Or.inl h
    · exact Or.inr ⟨h.symm, Or.inl h'⟩
    · exact Or.inr ⟨h.symm, Or.inr ⟨h'.symm, h''⟩⟩

end List

namespace Desk

variable {d : Desk} {q q' : ReadOrders} {organizationId viewer : Uuid} {roles : List MembershipRoleName}

def loadNumber (d : Desk) (organizationId loadId : Uuid) : Option String :=
  ((d.alerts.loads.get loadId).filter (fun l => l.organizationId == organizationId)).map (fun l => l.rows.load.loadNumber)

def noteRow (d : Desk) (organizationId : Uuid) (n : Notification) : Option NeedsAttentionItem :=
  (relatedLoad n).bind (fun id => (d.loadNumber organizationId id).map (notificationRow n id))

def itemRow (d : Desk) (organizationId : Uuid) (a : AttentionItem) : Option NeedsAttentionItem :=
  (d.loadNumber organizationId a.loadId).map (attentionRow a)

lemma loads_find (t : Table TenantLoad.id) (o : RowOrder) {ids : List Uuid} {id : Uuid} (hid : id ∈ ids) :
    (findMany o (fun l => l.organizationId == organizationId && ids.contains l.id) t.rows).find? (fun l => l.id == id) =
      (t.get id).filter (fun l => l.organizationId == organizationId) := by
  cases hfind : (findMany o (fun l => l.organizationId == organizationId && ids.contains l.id) t.rows).find?
      (fun l => l.id == id) with
  | some x =>
    obtain ⟨hrow, hx⟩ := mem_findMany.mp (List.mem_of_find?_eq_some hfind)
    rw [Bool.and_eq_true] at hx
    rw [Table.get_eq_some.mpr ⟨hrow, by simpa using List.find?_some hfind⟩, Option.filter_some, if_pos hx.1]
  | none =>
    cases hget : t.get id with
    | none => rfl
    | some x =>
      obtain ⟨hrow, hxid⟩ := Table.get_eq_some.mp hget
      rw [Option.filter_some, if_neg]
      intro horg
      refine List.find?_eq_none.mp hfind x (mem_findMany.mpr ⟨hrow, ?_⟩) (beq_iff_eq.mpr hxid)
      rw [horg, hxid, List.contains_iff_mem.mpr hid]
      rfl

lemma combined_eq : d.combined q organizationId viewer roles =
    ((d.notifications q organizationId viewer roles).filterMap (d.noteRow organizationId) ++
      (d.attentionItems q organizationId viewer roles).filterMap (d.itemRow organizationId)).insertionSort Before := by
  rw [combined]
  congr 2
  · refine List.filterMap_congr (fun n hn => ?_)
    cases hload : relatedLoad n with
    | none => rw [noteRow, hload, Option.bind_none, Option.bind_none]
    | some id =>
      rw [noteRow, hload, Option.bind_some, Option.bind_some, loadNumber]
      dsimp only
      rw [loads_find]
      exact List.mem_append_left _ (List.mem_filterMap.mpr ⟨n, hn, hload⟩)
  · refine List.filterMap_congr (fun a ha => ?_)
    rw [itemRow, loadNumber]
    dsimp only
    rw [loads_find]
    exact List.mem_append_right _ (List.mem_map_of_mem ha)

lemma noteRow_some {n : Notification} {row : NeedsAttentionItem} (h : d.noteRow organizationId n = some row) :
    row.source = .notification ∧ row.id = n.id := by
  obtain ⟨id, -, hrow⟩ := Option.bind_eq_some_iff.mp h
  obtain ⟨number, -, rfl⟩ := Option.map_eq_some_iff.mp hrow
  exact ⟨rfl, rfl⟩

lemma itemRow_some {a : AttentionItem} {row : NeedsAttentionItem} (h : d.itemRow organizationId a = some row) :
    row.source = .attentionItem ∧ row.id = a.id := by
  obtain ⟨number, -, rfl⟩ := Option.map_eq_some_iff.mp h
  exact ⟨rfl, rfl⟩

lemma noteRow_exists (h : d.alerts.Kept) {n : Notification} (hn : Represents d.alerts organizationId viewer n) :
    ∃ row, d.noteRow organizationId n = some row := by
  obtain ⟨hrow, hcandidate, -⟩ := hn
  obtain ⟨horg, -, -⟩ := isCandidate_iff.mp hcandidate
  obtain ⟨-, hentity, l, hl, hload, hlorg⟩ := h.related n hrow
  have hnumber : d.loadNumber organizationId l.id = some l.rows.load.loadNumber := by
    rw [loadNumber, Table.get_eq_some.mpr ⟨hl, rfl⟩, Option.filter_some, if_pos (beq_iff_eq.mpr (hlorg.trans horg)),
      Option.map_some]
  exact ⟨_, by rw [noteRow, relatedLoad, if_pos hentity, hload, Option.bind_some, hnumber, Option.map_some]⟩

structure Capped (d : Desk) (organizationId : Uuid) : Prop where
  notifications : d.alerts.notifications.countP (isCandidate organizationId none) ≤ needsAttentionSourceFetchCap
  items : d.items.rows.countP (d.isActive organizationId none) ≤ needsAttentionSourceFetchCap

lemma findManyBy_take {α : Type} {o : RowOrder} {p : α → Bool} {r : α → α → Prop} [DecidableRel r] {rows : List α} {cap : ℕ}
    (h : rows.countP p ≤ cap) : ((findManyBy o p r rows).take cap).Perm (rows.filter p) := by
  have hperm : (findManyBy o p r rows).Perm (rows.filter p) :=
    (List.perm_insertionSort r _).trans (findMany_perm o p rows)
  rw [List.take_of_length_le (by rw [hperm.length_eq, ← List.countP_eq_length_filter]; exact h)]
  exact hperm

section Viewer

variable (h : d.alerts.Kept) (hcap : d.Capped organizationId) (hfull : isFullVisibility roles = true)

include hcap in
lemma mem_unread (n : Notification) : n ∈ d.unreadNotifications q organizationId none ↔
    n ∈ d.alerts.notifications ∧ isCandidate organizationId none n = true := by
  rw [unreadNotifications, (findManyBy_take hcap.notifications).mem_iff, List.mem_filter]

include h hcap hfull

lemma mem_notifications {n : Notification} : n ∈ d.notifications q organizationId viewer roles ↔
    Represents d.alerts organizationId viewer n := by
  rw [Desk.notifications, if_pos hfull]
  exact ⟨represents_of_collapse h (mem_unread hcap) q.readCopies, collapse_of_represents h (mem_unread hcap) q.readCopies⟩

omit h hcap in
lemma notifications_nodup : (d.notifications q organizationId viewer roles).Nodup := by
  rw [Desk.notifications, if_pos hfull]
  exact collapse_nodup _ _

lemma notifications_perm : (d.notifications q organizationId viewer roles).Perm
    (d.notifications q' organizationId viewer roles) := by
  rw [List.perm_ext_iff_of_nodup (notifications_nodup hfull) (notifications_nodup hfull)]
  intro n
  rw [mem_notifications h hcap hfull, mem_notifications h hcap hfull]

omit h in
lemma attentionItems_perm : (d.attentionItems q organizationId viewer roles).Perm
    (d.items.rows.filter (d.isActive organizationId none)) := by
  rw [Desk.attentionItems, if_pos hfull]
  exact findManyBy_take hcap.items

lemma combined_same : d.combined q organizationId viewer roles = d.combined q' organizationId viewer roles := by
  have hfiner (q : ReadOrders) : d.combined q organizationId viewer roles =
      ((d.notifications q organizationId viewer roles).filterMap (d.noteRow organizationId) ++
        (d.attentionItems q organizationId viewer roles).filterMap (d.itemRow organizationId)).insertionSort Finer := by
    rw [combined_eq]
    refine Pages.insertionSort_congr (List.pairwise_append.mpr ⟨?_, ?_, fun a ha b hb => before_iff_finer ?_⟩)
    · refine List.pairwise_of_forall_mem_list (fun a ha b hb => before_iff_finer (Or.inl ?_))
      obtain ⟨n, -, hrow⟩ := List.mem_filterMap.mp ha
      exact (noteRow_some hrow).1
    · refine List.pairwise_of_forall_mem_list (fun a ha b hb => before_iff_finer (Or.inr ?_))
      obtain ⟨x, -, hrow⟩ := List.mem_filterMap.mp hb
      exact (itemRow_some hrow).1
    · obtain ⟨n, -, hrow⟩ := List.mem_filterMap.mp ha
      exact Or.inl (noteRow_some hrow).1
  rw [hfiner q, hfiner q']
  refine Pages.insertionSort_eq_of_perm (List.Perm.append ?_ ?_) (fun a ha b hb hab hba => ?_)
  · exact (notifications_perm h hcap hfull).filterMap _
  · exact ((attentionItems_perm hcap hfull).trans (attentionItems_perm hcap hfull).symm).filterMap _
  · obtain ⟨hid, hsource⟩ := finer_antisymm hab hba
    rcases List.mem_append.mp ha with ha | ha <;> rcases List.mem_append.mp hb with hb | hb <;>
      obtain ⟨x, hx, hxrow⟩ := List.mem_filterMap.mp ha <;> obtain ⟨y, hy, hyrow⟩ := List.mem_filterMap.mp hb
    · have hxy : x.id = y.id := (noteRow_some hxrow).2.symm.trans (hid.trans (noteRow_some hyrow).2)
      rw [List.inj_on_of_nodup_map h.ids ((mem_notifications h hcap hfull).mp hx).1
        ((mem_notifications h hcap hfull).mp hy).1 hxy] at hxrow
      exact Option.some.inj (hxrow.symm.trans hyrow)
    · rw [(noteRow_some hxrow).1, (itemRow_some hyrow).1] at hsource
      cases hsource
    · rw [(itemRow_some hxrow).1, (noteRow_some hyrow).1] at hsource
      cases hsource
    · have hxy : x.id = y.id := (itemRow_some hxrow).2.symm.trans (hid.trans (itemRow_some hyrow).2)
      have hmem (a : AttentionItem) (ha : a ∈ d.attentionItems q organizationId viewer roles) : a ∈ d.items.rows :=
        (List.mem_filter.mp ((attentionItems_perm hcap hfull).mem_iff.mp ha)).1
      rw [List.inj_on_of_nodup_map d.ids (hmem x hx) (hmem y hy) hxy] at hxrow
      exact Option.some.inj (hxrow.symm.trans hyrow)

end Viewer

def shows (d : Desk) (event : ℕ) (row : NeedsAttentionItem) : Bool :=
  row.source == .notification && d.alerts.notifications.any (fun n => n.id == row.id && n.event == event)

lemma shows_noteRow (h : d.alerts.Kept) {n : Notification} {row : NeedsAttentionItem} (hn : n ∈ d.alerts.notifications)
    (hrow : d.noteRow organizationId n = some row) (event : ℕ) : d.shows event row = true ↔ n.event = event := by
  obtain ⟨hsource, hid⟩ := noteRow_some hrow
  rw [shows, hsource, beq_self_eq_true, Bool.true_and, List.any_eq_true]
  constructor
  · rintro ⟨m, hm, hmatch⟩
    rw [Bool.and_eq_true, beq_iff_eq, beq_iff_eq] at hmatch
    rw [List.inj_on_of_nodup_map h.ids hn hm (hid.symm.trans hmatch.1.symm)]
    exact hmatch.2
  · rintro rfl
    exact ⟨n, hn, by rw [hid, beq_self_eq_true, beq_self_eq_true]; rfl⟩

lemma countP_eq_one {α : Type} {l : List α} {p : α → Bool} (hl : l.Nodup) {a : α} (ha : a ∈ l) (hp : p a = true)
    (hunique : ∀ b ∈ l, p b = true → b = a) : l.countP p = 1 := by
  have hperm : (l.filter p).Perm [a] := by
    rw [List.perm_ext_iff_of_nodup (hl.filter p) (List.nodup_singleton a)]
    intro b
    rw [List.mem_filter, List.mem_singleton]
    exact ⟨fun h => hunique b h.1 h.2, fun h => h ▸ ⟨ha, hp⟩⟩
  rw [List.countP_eq_length_filter, hperm.length_eq, List.length_singleton]

section Rows

variable (h : d.alerts.Kept) (hcap : d.Capped organizationId) (hfull : isFullVisibility roles = true)

lemma mem_combined {row : NeedsAttentionItem} : row ∈ d.combined q organizationId viewer roles ↔
    (∃ n ∈ d.notifications q organizationId viewer roles, d.noteRow organizationId n = some row) ∨
      ∃ a ∈ d.attentionItems q organizationId viewer roles, d.itemRow organizationId a = some row := by
  rw [combined_eq, (List.perm_insertionSort Before _).mem_iff, List.mem_append, List.mem_filterMap, List.mem_filterMap]

include h hcap hfull

lemma wanted_once {event : ℕ} (hwanted : Wanted d.alerts organizationId viewer event) :
    (d.combined q organizationId viewer roles).countP (d.shows event) = 1 := by
  obtain ⟨n, hn, hevent⟩ := represents_exists h hwanted
  have hitems : ((d.attentionItems q organizationId viewer roles).filterMap (d.itemRow organizationId)).countP
      (d.shows event) = 0 := by
    rw [List.countP_eq_zero]
    intro row hrow hshows
    obtain ⟨a, -, ha⟩ := List.mem_filterMap.mp hrow
    rw [shows, (itemRow_some ha).1] at hshows
    cases hshows
  have hnotes (m : Notification) (hm : m ∈ d.notifications q organizationId viewer roles) :
      ((d.noteRow organizationId m).map (d.shows event)).getD false = true ↔ m.event = event := by
    have hrepresents := (mem_notifications h hcap hfull).mp hm
    obtain ⟨row, hrow⟩ := noteRow_exists h hrepresents
    rw [hrow, Option.map_some, Option.getD_some]
    exact shows_noteRow h hrepresents.1 hrow event
  have hmem : n ∈ d.notifications q organizationId viewer roles := (mem_notifications h hcap hfull).mpr hn
  rw [combined_eq, (List.perm_insertionSort Before _).countP_eq, List.countP_append, hitems, Nat.add_zero,
    List.countP_filterMap]
  refine countP_eq_one (notifications_nodup hfull) hmem ((hnotes n hmem).mpr hevent) (fun m hm hshows => ?_)
  exact represents_unique h ((mem_notifications h hcap hfull).mp hm) hn (((hnotes m hm).mp hshows).trans hevent.symm)

lemma shown_wanted {row : NeedsAttentionItem} (hrow : row ∈ d.combined q organizationId viewer roles)
    (hsource : row.source = .notification) :
    ∃ event, Wanted d.alerts organizationId viewer event ∧ d.shows event row = true := by
  rcases mem_combined.mp hrow with ⟨n, hn, hnote⟩ | ⟨a, -, ha⟩
  · have hrepresents := (mem_notifications h hcap hfull).mp hn
    exact ⟨n.event, wanted_of_represents h hrepresents, (shows_noteRow h hrepresents.1 hnote n.event).mpr rfl⟩
  · rw [(itemRow_some ha).1] at hsource
    cases hsource

omit h in
lemma item_rows : ((d.combined q organizationId viewer roles).filter (fun row => row.source == .attentionItem)).Perm
    ((d.items.rows.filter (d.isActive organizationId none)).filterMap (d.itemRow organizationId)) := by
  have hnotes : ((d.notifications q organizationId viewer roles).filterMap (d.noteRow organizationId)).filter
      (fun row => row.source == .attentionItem) = [] := by
    rw [List.filter_eq_nil_iff]
    intro row hrow
    obtain ⟨n, -, hn⟩ := List.mem_filterMap.mp hrow
    rw [(noteRow_some hn).1]
    decide
  have hitems : ((d.attentionItems q organizationId viewer roles).filterMap (d.itemRow organizationId)).filter
      (fun row => row.source == .attentionItem) =
      (d.attentionItems q organizationId viewer roles).filterMap (d.itemRow organizationId) := by
    rw [List.filter_eq_self]
    intro row hrow
    obtain ⟨a, -, ha⟩ := List.mem_filterMap.mp hrow
    rw [(itemRow_some ha).1]
    rfl
  rw [combined_eq]
  refine ((List.perm_insertionSort Before _).filter _).trans ?_
  rw [List.filter_append, hnotes, hitems, List.nil_append]
  exact (attentionItems_perm hcap hfull).filterMap _

lemma needsAttention_page (n size : ℕ) : needsAttention q d organizationId viewer roles (n + 1) size =
    ⟨Pages.page (n + 1) size (d.combined q' organizationId viewer roles),
      (d.combined q' organizationId viewer roles).length, n + 1, size⟩ := by
  have hopen : ¬ (!isFullVisibility roles && !roles.contains .dispatcher) = true := by
    rw [hfull]
    exact Bool.false_ne_true
  have hsame : d.combined q organizationId viewer roles = d.combined q' organizationId viewer roles :=
    combined_same h hcap hfull
  rw [needsAttention, if_neg hopen, hsame]
  dsimp only
  rw [if_neg (Nat.succ_ne_zero n)]

end Rows

end Desk

theorem needs_attention_exact (c : Settings) (s : AlertState) (hs : s.Fresh) (es : List AlertEvent) (d : Desk)
    (hrun : Run (Guarded (Total (next c)) Timed) s es d.alerts) (organizationId viewer : Uuid)
    (roles : List MembershipRoleName) (hfull : isFullVisibility roles = true) (hcap : d.Capped organizationId) :
    ∃ rows : List NeedsAttentionItem,
      (∀ q n size, needsAttention q d organizationId viewer roles (n + 1) size =
        ⟨Pages.page (n + 1) size rows, rows.length, n + 1, size⟩) ∧
      (∀ (q : ℕ → ReadOrders) (n size : ℕ), rows.length ≤ n * size →
        ((List.range n).map (fun i => (needsAttention (q i) d organizationId viewer roles (i + 1) size).items)).flatten =
          rows) ∧
      (∀ event, Wanted d.alerts organizationId viewer event → rows.countP (d.shows event) = 1) ∧
      (∀ row ∈ rows, row.source = .notification →
        ∃ event, Wanted d.alerts organizationId viewer event ∧ d.shows event row = true) ∧
      (rows.filter (fun row => row.source == .attentionItem)).Perm
        ((d.items.rows.filter (d.isActive organizationId none)).filterMap (d.itemRow organizationId)) := by
  have h := run_kept hs hrun
  have hpage (q : ReadOrders) (n size : ℕ) : needsAttention q d organizationId viewer roles (n + 1) size =
      ⟨Pages.page (n + 1) size (d.combined ⟨.stored, .stored, .stored, .stored⟩ organizationId viewer roles),
        (d.combined ⟨.stored, .stored, .stored, .stored⟩ organizationId viewer roles).length, n + 1, size⟩ :=
    Desk.needsAttention_page h hcap hfull n size
  refine ⟨_, hpage, fun q n size hlength => ?_, fun event hwanted => Desk.wanted_once h hcap hfull hwanted,
    fun row hrow hsource => Desk.shown_wanted h hcap hfull hrow hsource, Desk.item_rows hcap hfull⟩
  simp only [hpage]
  exact Pages.flatten_pages hlength

namespace Sample

def noon : Instant := 1775044800000

def lateLoad : TenantLoad where
  organizationId := 1
  rows :=
    { load :=
        { id := 7, loadNumber := "LOAD-000007", customerId := 2, bookingSource := .direct, quoteId := none,
          status := .inTransit, equipmentType := .dryVan, customerRate := 250000, rateSource := .manual,
          rateAgreementId := none, assignedDispatcherId := some 5, createdByUserId := 3 }
      stops := .empty
      dispatchRecord := some ⟨"Ann Lee", "555-0100", "T1", "R1", none, none, none, 5, noon - 5 * 3600000⟩ }

def settings : Settings := { zone := EasternClock.Sample.year2026.zone }

def state : AlertState where
  organizations := [1]
  loads := ⟨[lateLoad], List.nodup_singleton _⟩
  drivers _ := none
  members := [⟨1, 6, true, [.admin]⟩]

def visit : Visit := ⟨noon, fun i => 100 + i, fun _ => noon, .stored, noon⟩

def events : List AlertEvent :=
  [.beginPass .checkCall noon .stored, .readLoads .checkCall .stored, .visit .checkCall visit, .markRead 1 5 100]

def desk : Desk := ⟨events.foldl (next settings) state, .empty, List.nodup_nil⟩

lemma desk_run : Run (Guarded (Total (next settings)) Timed) state events desk.alerts := by
  have hvisit : Timed (next settings (next settings state (.beginPass .checkCall noon .stored))
      (.readLoads .checkCall .stored)) (.visit .checkCall visit) :=
    ⟨fun t ht => by cases ht; exact le_rfl, fun _ => ⟨le_rfl, le_rfl⟩, by decide, fun _ => List.not_mem_nil,
      fun _ _ h => Nat.add_left_cancel h⟩
  exact .cons ⟨rfl, fun t ht => nomatch ht⟩ (.cons ⟨rfl, trivial⟩ (.cons ⟨rfl, hvisit⟩ (.cons ⟨rfl, trivial⟩ (.nil _))))

end Sample

theorem needs_attention_sample : ∃ rows : List NeedsAttentionItem,
    (∀ q, needsAttention q Sample.desk 1 6 [.admin] 1 25 = ⟨Pages.page 1 25 rows, rows.length, 1, 25⟩) ∧
      rows.countP (Sample.desk.shows 0) = 1 := by
  obtain ⟨rows, hpage, -, hone, -⟩ := needs_attention_exact Sample.settings Sample.state
    ⟨rfl, fun _ => rfl, List.nodup_singleton _⟩ Sample.events Sample.desk Sample.desk_run 1 6 [.admin] rfl
    ⟨by decide +kernel, by decide +kernel⟩
  exact ⟨rows, fun q => hpage q 0 25, hone 0 (by decide +kernel)⟩

end Truckmaster.Reporting.ReportingService
