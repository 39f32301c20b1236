import Truckmaster.BackgroundJobs.LoadAlerts
import Truckmaster.Library.Runs

namespace Truckmaster.BackgroundJobs

open Common Tables QuoteLoad Runs

namespace AlertState

variable {c : Settings} {s : AlertState} {q : Visit} {type type' : NotificationType}
  {organizationId loadId user organizationId' loadId' : Uuid}

def unread (s : AlertState) (type : NotificationType) (organizationId loadId user : Uuid) : ℕ :=
  s.notifications.countP (fun n => n.concerns type organizationId loadId && n.recipientUserId == user && !n.read)

def Exclusive (s : AlertState) : Prop :=
  ∀ organizationId loadId user,
    ¬ (0 < s.unread .checkCallDueSoon organizationId loadId user ∧
      0 < s.unread .checkCallOverdue organizationId loadId user) ∧
    s.unread .checkCallDueSoon organizationId loadId user ≤ 1 ∧
    s.unread .checkCallOverdue organizationId loadId user ≤ 1

lemma exclusive_iff : s.Exclusive ↔ ∀ organizationId loadId user,
    s.unread .checkCallDueSoon organizationId loadId user + s.unread .checkCallOverdue organizationId loadId user ≤ 1 := by
  refine forall_congr' (fun o => forall_congr' (fun l => forall_congr' (fun u => ?_)))
  omega

lemma outstanding_iff :
    s.outstanding type organizationId loadId = false ↔ ∀ user, s.unread type organizationId loadId user = 0 := by
  simp only [outstanding, unread, List.any_eq_false, List.countP_eq_zero]
  constructor
  · intro h user n hn hall
    rw [Bool.and_eq_true, Bool.and_eq_true] at hall
    exact h n hn (by rw [hall.1.1, hall.2]; rfl)
  · intro h n hn hall
    rw [Bool.and_eq_true] at hall
    exact h n.recipientUserId n hn (by rw [hall.1, hall.2, beq_self_eq_true]; rfl)

lemma unread_updateMany_le (p : Notification → Bool) :
    (s.updateMany p).unread type organizationId loadId user ≤ s.unread type organizationId loadId user := by
  rw [unread, updateMany, List.countP_map]
  refine List.countP_mono_left (fun n _ h => ?_)
  simp only [Function.comp_apply] at h
  split_ifs at h with hp
  · simp [Notification.markedRead] at h
  · exact h

lemma unread_superseded : (s.supersedeDueSoon organizationId loadId).unread .checkCallDueSoon organizationId loadId user = 0 := by
  rw [unread, supersedeDueSoon, updateMany, List.countP_eq_zero]
  intro n hn
  obtain ⟨m, _, rfl⟩ := List.mem_map.mp hn
  split_ifs with hp
  · simp [Notification.markedRead]
  · intro hall
    rw [Bool.and_eq_true, Bool.and_eq_true] at hall
    exact hp (by rw [hall.1.1, hall.2]; rfl)

lemma countP_copies (message : String) {users : List Uuid} (hnodup : users.Nodup) :
    (s.copies q type' organizationId' loadId' message users).countP (fun n =>
        n.concerns type organizationId loadId && n.recipientUserId == user && !n.read) =
      if type = type' ∧ organizationId = organizationId' ∧ loadId = loadId' ∧ user ∈ users then 1 else 0 := by
  have hfirst : users.count user = users.zipIdx.countP (fun x => x.1 == user) := by
    conv_lhs => rw [← List.zipIdx_map_fst 0 users]
    rw [List.count, List.countP_map]
    rfl
  rw [copies, List.countP_map]
  by_cases hkey : type = type' ∧ organizationId = organizationId' ∧ loadId = loadId'
  · obtain ⟨rfl, rfl, rfl⟩ := hkey
    have hsame : users.zipIdx.countP (fun x => x.1 == user) = users.zipIdx.countP ((fun n : Notification =>
        n.concerns type organizationId loadId && n.recipientUserId == user && !n.read) ∘ fun x =>
        ⟨q.uuid x.2, organizationId, x.1, type, some "Load", some loadId, message, false, q.createdAt x.2, s.fired⟩) :=
      List.countP_congr (fun x _ => by simp [Notification.concerns])
    rw [← hsame, ← hfirst, hnodup.count]
    simp
  · rw [if_neg (fun h => hkey ⟨h.1, h.2.1, h.2.2.1⟩), List.countP_eq_zero]
    rintro ⟨u, i⟩ _ h
    simp only [Function.comp_apply, Notification.concerns, Bool.and_eq_true, beq_iff_eq, Option.some.injEq] at h
    exact hkey ⟨h.1.1.1.1.2.symm, h.1.1.1.1.1.symm, h.1.1.2.symm⟩

lemma unread_fire (dispatcherId : Uuid) (message action : String) (hours : Option ℤ) :
    (s.fire q type' organizationId' loadId' dispatcherId message action hours).unread type organizationId loadId user =
      s.unread type organizationId loadId user +
        if s.outstanding type' organizationId' loadId' = false ∧ type = type' ∧ organizationId = organizationId' ∧
          loadId = loadId' ∧ user ∈ s.recipients q.members organizationId' dispatcherId then 1 else 0 := by
  rw [fire]
  by_cases hout : s.outstanding type' organizationId' loadId' = true
  · rw [if_pos hout, if_neg (fun h => by rw [hout] at h; cases h.1), Nat.add_zero]
  · rw [if_neg hout, unread, List.countP_append, countP_copies message (s.recipients_nodup _ _ _)]
    simp only [Bool.not_eq_true] at hout
    simp only [hout, true_and]
    rfl

lemma unread_fire_other (htype : type ≠ type') (dispatcherId : Uuid) (message action : String) (hours : Option ℤ) :
    (s.fire q type' organizationId' loadId' dispatcherId message action hours).unread type organizationId loadId user =
      s.unread type organizationId loadId user := by
  rw [unread_fire, if_neg (fun h => htype h.2.1), Nat.add_zero]

lemma Exclusive.of_le {t : AlertState} (hs : s.Exclusive)
    (h : ∀ type organizationId loadId user, t.unread type organizationId loadId user ≤
      s.unread type organizationId loadId user) : t.Exclusive := by
  rw [exclusive_iff] at hs ⊢
  intro o l u
  exact (Nat.add_le_add (h _ o l u) (h _ o l u)).trans (hs o l u)

lemma Exclusive.updateMany (hs : s.Exclusive) (p : Notification → Bool) : (s.updateMany p).Exclusive :=
  hs.of_le (fun _ _ _ _ => unread_updateMany_le p)

lemma Exclusive.fireLate (hs : s.Exclusive) (dispatcherId : Uuid) (message action : String) (hours : Option ℤ) :
    (s.fire q .loadLate organizationId loadId dispatcherId message action hours).Exclusive := by
  rw [exclusive_iff] at hs ⊢
  intro o l u
  rw [unread_fire_other (by decide), unread_fire_other (by decide)]
  exact hs o l u

lemma Exclusive.fireOverdue (hs : s.Exclusive) (l : Snapshot) (dispatcherId : Uuid) (elapsedMs thresholdMs hours : ℤ) :
    (s.fireOverdue q l dispatcherId elapsedMs thresholdMs hours).Exclusive := by
  have hleft := hs.updateMany (fun n => n.concerns .checkCallDueSoon l.organizationId l.loadId && !n.read)
  rw [exclusive_iff] at hleft ⊢
  intro o j u
  rw [AlertState.fireOverdue, unread_fire_other (by decide), unread_fire]
  have hbefore : (s.supersedeDueSoon l.organizationId l.loadId).unread .checkCallDueSoon o j u +
      (s.supersedeDueSoon l.organizationId l.loadId).unread .checkCallOverdue o j u ≤ 1 := hleft o j u
  by_cases hfire : (s.supersedeDueSoon l.organizationId l.loadId).outstanding .checkCallOverdue l.organizationId l.loadId =
      false ∧ o = l.organizationId ∧ j = l.loadId
  · obtain ⟨hout, rfl, rfl⟩ := hfire
    rw [unread_superseded, outstanding_iff.mp hout u]
    split_ifs <;> omega
  · rw [if_neg (fun h => hfire ⟨h.1, h.2.2.1, h.2.2.2.1⟩)]
    exact hbefore

lemma exclusive_fireDueSoon_iff (hs : s.Exclusive) (l : Snapshot) (dispatcherId : Uuid) (elapsedMs thresholdMs : ℤ) :
    (s.fireDueSoon q l dispatcherId elapsedMs thresholdMs).Exclusive ↔
      (s.outstanding .checkCallDueSoon l.organizationId l.loadId = false →
        ∀ u ∈ s.recipients q.members l.organizationId dispatcherId,
          s.unread .checkCallOverdue l.organizationId l.loadId u = 0) := by
  constructor
  · intro hafter hout u hu
    have hone := exclusive_iff.mp hafter l.organizationId l.loadId u
    rw [AlertState.fireDueSoon, unread_fire, if_pos ⟨hout, rfl, rfl, rfl, hu⟩, unread_fire_other (by decide)] at hone
    omega
  · intro hguard
    rw [exclusive_iff] at hs ⊢
    intro o j u
    have hbefore := hs o j u
    rw [AlertState.fireDueSoon, unread_fire, unread_fire_other (by decide)]
    split_ifs with hfire
    · obtain ⟨hout, -, rfl, rfl, hu⟩ := hfire
      have hdue := outstanding_iff.mp hout u
      have hover := hguard hout u hu
      omega
    · omega

variable (c)

/-- Where the next visit would send a due-soon alert, no recipient holds an unread overdue one for the Load. -/
def Clear (s : AlertState) : AlertEvent → Prop
  | .visit .checkCall q =>
    ∀ l ∈ (s.passes .checkCall).pending.head?, ∀ x ∈ idle l q.now,
      thresholdMs c.reminderHours - dueSoonLeadMs ≤ x.2 → x.2 < thresholdMs c.reminderHours →
      s.outstanding .checkCallDueSoon l.organizationId l.loadId = false →
      ∀ u ∈ s.recipients q.members l.organizationId x.1, s.unread .checkCallOverdue l.organizationId l.loadId u = 0
  | _ => True

variable {c}

lemma visitCheckCall_exclusive_iff (hs : s.Exclusive) (l : Snapshot) :
    (s.visitCheckCall c.reminderHours q l).Exclusive ↔
      ∀ x ∈ idle l q.now, thresholdMs c.reminderHours - dueSoonLeadMs ≤ x.2 → x.2 < thresholdMs c.reminderHours →
        s.outstanding .checkCallDueSoon l.organizationId l.loadId = false →
        ∀ u ∈ s.recipients q.members l.organizationId x.1,
          s.unread .checkCallOverdue l.organizationId l.loadId u = 0 := by
  rw [visitCheckCall]
  cases hidle : idle l q.now with
  | none => simpa using hs
  | some x =>
    obtain ⟨dispatcherId, elapsedMs⟩ := x
    simp only [Option.mem_some_iff, forall_eq']
    split_ifs with hearly hlate
    · exact iff_of_true hs (fun h => absurd hearly (by omega))
    · exact iff_of_true (hs.fireOverdue l dispatcherId _ _ _) (fun _ h => absurd hlate (by omega))
    · rw [exclusive_fireDueSoon_iff hs]
      exact ⟨fun h _ _ => h, fun h => h (by omega) (by omega)⟩

lemma Exclusive.visitLateness (hs : s.Exclusive) (l : Snapshot) : (s.visitLateness c.zone q l).Exclusive := by
  rw [AlertState.visitLateness]
  split
  · exact hs.fireLate _ _ _ _
  · exact hs

instance (e : AlertEvent) : Decidable (Clear c s e) :=
  match e with
  | .visit .checkCall _ => inferInstanceAs (Decidable (∀ _ ∈ _, ∀ _ ∈ _, _ → _ → _ → ∀ _ ∈ _, _))
  | .visit .lateness _ | .beginPass .. | .readLoads .. | .failedVisit .. | .markRead .. | .markAllRead ..
  | .logCheckCall .. | .editLoad .. | .createLoad .. | .staff .. => inferInstanceAs (Decidable True)

lemma next_exclusive_iff (hs : s.Exclusive) (e : AlertEvent) : (next c s e).Exclusive ↔ Clear c s e := by
  cases e with
  | visit sweep q =>
    rcases hpass : s.passes sweep with ⟨organizations, _ | ⟨l, rest⟩, began, latest⟩
    · have hidle : next c s (.visit sweep q) = s := by rw [next, hpass]
      rw [hidle]
      cases sweep with
      | checkCall => exact iff_of_true hs (fun l hl => by rw [hpass] at hl; cases hl)
      | lateness => exact iff_of_true hs trivial
    · have hvisited : (s.withPass sweep ⟨organizations, rest, began, some q.finish⟩).Exclusive := hs
      cases sweep with
      | checkCall =>
        simp only [next, hpass, Clear, List.head?_cons, Option.mem_some_iff, forall_eq']
        exact visitCheckCall_exclusive_iff hvisited l
      | lateness =>
        simp only [next, hpass]
        exact iff_of_true (hvisited.visitLateness l) trivial
  | beginPass sweep now o => exact iff_of_true hs trivial
  | failedVisit sweep => exact iff_of_true hs trivial
  | editLoad loadId rows h => exact iff_of_true hs trivial
  | createLoad l => exact iff_of_true hs trivial
  | staff members drivers => exact iff_of_true hs trivial
  | markAllRead organizationId recipientUserId => exact iff_of_true (hs.updateMany _) trivial
  | readLoads sweep o =>
    refine iff_of_true ?_ trivial
    rcases hpass : s.passes sweep with ⟨_ | ⟨organizationId, rest⟩, _ | ⟨l, pending⟩, began, latest⟩ <;>
      simp only [next, hpass] <;> exact hs
  | markRead organizationId recipientUserId id =>
    refine iff_of_true ?_ trivial
    simp only [next]
    split_ifs
    · exact hs.updateMany _
    · exact hs
  | logCheckCall organizationId loadId q dto =>
    refine iff_of_true ?_ trivial
    simp only [next]
    split
    · exact hs
    · exact hs

theorem check_call_alerts_exclusive_iff (c : Settings) (s : AlertState) (hs : s.Exclusive) (es : List AlertEvent) :
    (∀ ds, ds <+: es → (ds.foldl (next c) s).Exclusive) ↔
      Run (Guarded (Total (next c)) (Clear c)) s es (es.foldl (next c) s) := by
  refine lawful_iff_guarded (J := fun _ => True) (fun _ _ _ => trivial) (fun t e _ ht hclear => ?_)
    (fun t e _ ht hoff => ?_) trivial hs es
  · exact (next_exclusive_iff ht e).mpr hclear
  · exact fun hafter => hoff ((next_exclusive_iff ht e).mp hafter)

namespace Sample

def dispatchedAt : Instant := 1775044800000

def hour : ℤ := 3600000

def dispatchedLoad : TenantLoad where
  organizationId := 1
  rows :=
    { load :=
        { id := 7, loadNumber := "LOAD-000007", customerId := 2, bookingSource := .direct, quoteId := none,
          status := .inTransit, equipmentType := .dryVan, customerRate := 250000, rateSource := .manual,
          rateAgreementId := none, assignedDispatcherId := some 5, createdByUserId := 3 }
      stops := .empty
      dispatchRecord := some ⟨"Ann Lee", "555-0100", "T1", "R1", none, none, none, 5, dispatchedAt⟩ }

def settings : Settings := { zone := EasternClock.Sample.year2026.zone }

def state : AlertState where
  organizations := [1]
  loads := ⟨[dispatchedLoad], List.nodup_singleton _⟩
  drivers _ := none
  members := []

def passAt (now : Instant) (id : Uuid) : List AlertEvent :=
  [.beginPass .checkCall now .stored, .readLoads .checkCall .stored,
    .visit .checkCall ⟨now, fun i => id + i, fun _ => now, .stored, now⟩]

def call (now : Instant) : AlertEvent :=
  .logCheckCall 1 7 ⟨now, fun i => 90 + i, fun _ => .stored, 5⟩
    { contactMethod := "phone", personContacted := "driver", onTimeStatus := .onTime }

def readRun : List AlertEvent :=
  passAt (dispatchedAt + 4 * hour) 100 ++ [call (dispatchedAt + 4 * hour), .markRead 1 5 100] ++
    passAt (dispatchedAt + 8 * hour - 600000) 200

def unreadRun : List AlertEvent :=
  passAt (dispatchedAt + 4 * hour) 100 ++ [call (dispatchedAt + 4 * hour)] ++
    passAt (dispatchedAt + 8 * hour - 600000) 200

end Sample

lemma exclusive_of_silence (h : s.notifications = []) : s.Exclusive := by
  intro o l u
  simp [unread, h]

theorem read_run_exclusive : (Sample.readRun.foldl (next Sample.settings) Sample.state).Exclusive :=
  (check_call_alerts_exclusive_iff Sample.settings Sample.state (exclusive_of_silence rfl) Sample.readRun).mpr
    (run_total_checked (by decide +kernel)) Sample.readRun List.prefix_rfl

theorem due_again_unread : ¬ (Sample.unreadRun.foldl (next Sample.settings) Sample.state).Exclusive :=
  fun h => (h 1 7 5).1 ⟨by decide +kernel, by decide +kernel⟩

end AlertState

end Truckmaster.BackgroundJobs
