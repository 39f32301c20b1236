import Truckmaster.Identity.InvitationSessions

namespace Truckmaster.Identity

open Common ReadCommitted Runs Tables

variable {I : Type*} {d : InvitationDb} {now now' : Instant} {i : I} {m : InvitedMembership} {id : Uuid}

namespace InvitedMembership

def Open (now : Instant) (m : InvitedMembership) : Prop :=
  (m.status = .invited ∨ m.status = .pendingVerification) ∧ m.expired now = false

instance (now : Instant) (m : InvitedMembership) : Decidable (m.Open now) :=
  inferInstanceAs (Decidable ((m.status = .invited ∨ m.status = .pendingVerification) ∧ m.expired now = false))

lemma expired_mono (hnow : now ≤ now') (h : m.expired now' = false) : m.expired now = false := by
  cases hexpires : m.invitationExpiresAt with
  | none => simp [expired, hexpires]
  | some expiresAt =>
    simp only [expired, hexpires, Option.any_some, decide_eq_false_iff_not, not_lt] at h ⊢
    exact hnow.trans h

lemma Open.mono (h : m.Open now') (hnow : now ≤ now') : m.Open now := ⟨h.1, expired_mono hnow h.2⟩

lemma open_of_tested (hinvited : m.expiresNow now = false) (hstatus : m.status = .invited ∨ m.status = .pendingVerification)
    (hpending : m.status = .pendingVerification → m.expired now = false) : m.Open now := by
  refine ⟨hstatus, ?_⟩
  rcases hstatus with hin | hpen
  · simpa [expiresNow, hin] using hinvited
  · exact hpending hpen

end InvitedMembership

namespace InvitationWrite

def membership : InvitationWrite → Option Uuid
  | .identity (.setInactive _ id) => some id
  | .identity _ => none
  | .setExpired id => some id
  | .setInvited id _ _ => some id
  | .setCancelled id => some id
  | .setActive _ id => some id
  | .setPasswordAndActivate _ _ _ => none

end InvitationWrite

namespace InvitationFrame

def copy : InvitationFrame → Option (Activation × InvitedMembership)
  | .foundByToken a found => found.map (fun m => (a, m))
  | .testInvitation a m => some (a, m)
  | .findUser a m => some (a, m)
  | .setPassword a m _ => some (a, m)
  | .activateMembership a m _ => some (a, m)
  | .recordActivation a m _ => some (a, m)
  | .commitActivation a m => some (a, m)
  | _ => none

def testing : InvitationFrame → Option InvitedMembership
  | .testInvitation _ m => some m
  | _ => none

def tested : InvitationFrame → Bool
  | .findUser _ _ => true
  | .setPassword _ _ _ => true
  | .activateMembership _ _ _ => true
  | .recordActivation _ _ _ => true
  | .commitActivation _ _ => true
  | _ => false

def unread : InvitationFrame → Bool
  | .findByToken _ => true
  | .foundByToken _ _ => true
  | _ => false

end InvitationFrame

abbrev InvitationState (I : Type*) := Clocked Instant InvitationDb InvitationRow I InvitationFrame InvitationWrite

/-- No copy that an activation has accepted expires before the activation ends, an expired invitation that awaits
verification is not tested, and no membership is written of which an activation holds an open copy. -/
def LinksStand (s : InvitationState I) : ClockedEvent Instant I → Prop
  | .tick now => ∀ j, ∀ x ∈ (s.state.session j).frame.copy, (s.state.session j).frame.tested = true →
    x.2.expired now = false
  | .session (.advance i) =>
    (∀ m ∈ (s.state.session i).frame.testing, m.status = .pendingVerification → m.expired s.now = false) ∧
    ((invitationStatement s.now (s.state.session i).frame).commits = true →
      ∀ j, j ≠ i → ∀ x ∈ (s.state.session j).frame.copy, x.2.Open s.now →
        some x.2.id ∉ (s.state.session i).writes.map InvitationWrite.membership)
  | .session (.fail _) => True

namespace InvitationDb

def Admits (d : InvitationDb) (now : Instant) (tokenHash : String) (id : Uuid) : Prop :=
  ∃ m ∈ d.memberships.rows, m.id = id ∧ m.Open now ∧ m.invitationTokenHash = some tokenHash

instance (now : Instant) (tokenHash : String) (id : Uuid) : Decidable (d.Admits now tokenHash id) :=
  inferInstanceAs (Decidable (∃ m ∈ d.memberships.rows, m.id = id ∧ m.Open now ∧ m.invitationTokenHash = some tokenHash))

lemma mem_setMembership {f : InvitedMembership → InvitedMembership} {hf : ∀ m, (f m).id = m.id}
    (hm : m ∈ d.memberships.rows) (hid : some m.id ≠ some id) : m ∈ (d.setMembership id f hf).memberships.rows := by
  have hne : m.id ≠ id := fun h => hid (congrArg some h)
  exact (d.memberships.mem_update id f hf).mpr (Or.inr ⟨hm, hne⟩)

lemma mem_write (w : InvitationWrite) (hm : m ∈ d.memberships.rows) (hw : some m.id ≠ w.membership) :
    m ∈ (write w d).memberships.rows := by
  cases w with
  | identity w =>
    cases w with
    | setInactive q id => exact mem_setMembership hm hw
    | deleteRole row => exact hm
    | insertRole row => exact hm
    | record event => exact hm
  | setExpired id => exact mem_setMembership hm hw
  | setInvited id tokenHash invitationExpiresAt => exact mem_setMembership hm hw
  | setCancelled id => exact mem_setMembership hm hw
  | setActive now id => exact mem_setMembership hm hw
  | setPasswordAndActivate now userId passwordHash => exact hm

lemma mem_writes {ws : List InvitationWrite} (hm : m ∈ d.memberships.rows)
    (hws : some m.id ∉ ws.map InvitationWrite.membership) : m ∈ ((invitationCode now).applyAll ws d).memberships.rows := by
  induction ws generalizing d with
  | nil => exact hm
  | cons w ws ih =>
    rw [List.map_cons, List.mem_cons, not_or] at hws
    exact ih (mem_write w hm hws.1) hws.2

end InvitationDb

structure LinkHeld (now : Instant) (d : InvitationDb) (x : Session InvitationFrame InvitationWrite) : Prop where
  unread : x.frame.unread = true → x.writes = []
  stored : ∀ y ∈ x.frame.copy, y.2.Open now → y.2 ∈ d.memberships.rows
  presented : ∀ y ∈ x.frame.copy, y.2.invitationTokenHash = some y.1.tokenHash
  tested : ∀ y ∈ x.frame.copy, x.frame.tested = true → y.2.Open now

namespace LinkHeld

variable {frame next : InvitationFrame} {ws vs : List InvitationWrite}

lemma of_no_copy (hcopy : next.copy = none) (hread : next.unread = true → vs = []) : LinkHeld now d ⟨next, vs⟩ := by
  have hno (y : Activation × InvitedMembership) : y ∉ next.copy := by
    rw [hcopy]
    exact Option.not_mem_none y
  exact ⟨hread, fun y hy => absurd hy (hno y), fun y hy => absurd hy (hno y), fun y hy => absurd hy (hno y)⟩

lemma keep (h : LinkHeld now d ⟨frame, ws⟩) (hread : next.unread = false)
    (hcopy : next.copy = none ∨ next.copy = frame.copy ∧ frame.tested = true) : LinkHeld now d ⟨next, vs⟩ := by
  have hno : next.unread ≠ true := fun ht => Bool.false_ne_true (hread.symm.trans ht)
  rcases hcopy with hnone | ⟨hsame, htested⟩
  · exact of_no_copy hnone (fun ht => absurd ht hno)
  · refine ⟨fun ht => absurd ht hno, ?_, ?_, ?_⟩ <;> rw [hsame]
    · exact h.stored
    · exact h.presented
    · exact fun y hy _ => h.tested y hy htested

lemma lookup {a : Activation} : LinkHeld now d
    ⟨.foundByToken a (findFirst a.order (fun m => m.invitationTokenHash == some a.tokenHash) d.memberships.rows), []⟩ where
  unread _ := rfl
  stored y hy _ := by
    obtain ⟨m, hfound, rfl⟩ := Option.mem_map.mp hy
    exact (findFirst_some hfound).1
  presented y hy := by
    obtain ⟨m, hfound, rfl⟩ := Option.mem_map.mp hy
    exact eq_of_beq (findFirst_some hfound).2
  tested _ _ htested := absurd htested Bool.false_ne_true

lemma pass {a : Activation} (h : LinkHeld now d ⟨.testInvitation a m, ws⟩) (hopen : m.Open now) :
    LinkHeld now d ⟨.findUser a m, vs⟩ where
  unread hread := absurd hread Bool.false_ne_true
  stored := h.stored
  presented := h.presented
  tested y hy _ := by
    obtain rfl := Option.some.inj hy
    exact hopen

lemma statement {r : InvitationFrame × List InvitationWrite} (h : LinkHeld now d ⟨frame, ws⟩)
    (htest : ∀ m ∈ frame.testing, m.status = .pendingVerification → m.expired now = false)
    (hmoves : (invitationStatement now frame).moves ((invitationCode now).applyAll ws d) = some r) :
    LinkHeld now d ⟨r.1, ws ++ r.2⟩ := by
  cases frame with
  | findByToken a =>
    obtain rfl : ws = [] := h.unread rfl
    obtain rfl := Option.some.inj hmoves
    exact lookup
  | foundByToken a found => cases found <;> cases hmoves
  | testInvitation a m =>
    obtain rfl := Option.some.inj hmoves
    dsimp only
    split_ifs with hexpires hstatus
    · exact h.keep rfl (Or.inl rfl)
    · exact h.pass (m.open_of_tested (Bool.eq_false_iff.mpr hexpires) hstatus (htest m rfl))
    · exact h.keep rfl (Or.inl rfl)
  | findUser a m =>
    have hnext (u : InvitedUser) : (a.afterUser m u).unread = false ∧
        ((a.afterUser m u).copy = none ∨ (a.afterUser m u).copy = some (a, m)) := by
      simp only [Activation.afterUser]
      split_ifs
      · split
        · exact ⟨rfl, Or.inl rfl⟩
        · split
          · exact ⟨rfl, Or.inr rfl⟩
          · exact ⟨rfl, Or.inl rfl⟩
      · exact ⟨rfl, Or.inr rfl⟩
    obtain rfl := Option.some.inj hmoves
    dsimp only
    split
    · exact h.keep rfl (Or.inl rfl)
    next u _ => exact h.keep (hnext u).1 ((hnext u).2.imp_right (fun hcopy => ⟨hcopy, rfl⟩))
  | setPassword a m passwordHash =>
    obtain rfl := Option.some.inj hmoves
    exact h.keep rfl (Or.inr ⟨rfl, rfl⟩)
  | activateMembership a m needsPassword =>
    obtain rfl := Option.some.inj hmoves
    exact h.keep rfl (Or.inr ⟨rfl, rfl⟩)
  | recordActivation a m needsPassword =>
    obtain rfl := Option.some.inj hmoves
    exact h.keep rfl (Or.inr ⟨rfl, rfl⟩)
  | assertHasRole r =>
    obtain rfl := Option.some.inj hmoves
    dsimp only
    split <;> exact h.keep rfl (Or.inl rfl)
  | includeRoles r membershipId =>
    obtain rfl := Option.some.inj hmoves
    dsimp only
    split_ifs <;> exact h.keep rfl (Or.inl rfl)
  | requireMembership r change =>
    obtain rfl := Option.some.inj hmoves
    dsimp only
    split
    · exact h.keep rfl (Or.inl rfl)
    · dsimp only
      split_ifs <;> exact h.keep rfl (Or.inl rfl)
  | expireStale pending =>
    cases pending with
    | nil =>
      obtain rfl := Option.some.inj hmoves
      exact h.keep rfl (Or.inl rfl)
    | cons id pending =>
      obtain rfl := Option.some.inj hmoves
      exact h.keep rfl (Or.inl rfl)
  | member frame =>
    obtain ⟨next, hnext⟩ := Action.within_moves hmoves
    rw [hnext]
    exact h.keep rfl (Or.inl rfl)
  | commitActivation a m => cases hmoves
  | asserted r => cases hmoves
  | commitAction => cases hmoves
  | loadedStale pending => cases hmoves
  | commitStale pending => cases hmoves
  | rollback e => cases hmoves
  | done failure => cases hmoves
  | _ =>
    obtain rfl := Option.some.inj hmoves
    exact h.keep rfl (Or.inl rfl)

lemma commit (h : LinkHeld now d ⟨frame, ws⟩) (hcommit : invitationStatement now frame = .commit next) :
    LinkHeld now ((invitationCode now).applyAll ws d) ⟨next, []⟩ := by
  have hended (hcopy : next.copy = none) : LinkHeld now ((invitationCode now).applyAll ws d) ⟨next, []⟩ :=
    of_no_copy hcopy (fun _ => rfl)
  cases frame with
  | foundByToken a found =>
    obtain rfl : ws = [] := h.unread rfl
    cases found with
    | none =>
      obtain rfl := Action.commit.inj hcommit
      exact hended rfl
    | some m =>
      obtain rfl := Action.commit.inj hcommit
      exact ⟨fun _ => rfl, h.stored, h.presented, fun _ _ htested => absurd htested Bool.false_ne_true⟩
  | expireStale pending => cases pending <;> cases hcommit
  | member frame =>
    obtain ⟨last, hlast⟩ := Action.within_ends (congrArg Action.ends hcommit)
    exact hended (hlast ▸ rfl)
  | commitActivation a m =>
    obtain rfl := Action.commit.inj hcommit
    exact hended rfl
  | asserted r =>
    obtain rfl := Action.commit.inj hcommit
    exact hended rfl
  | commitAction =>
    obtain rfl := Action.commit.inj hcommit
    exact hended rfl
  | loadedStale pending =>
    obtain rfl := Action.commit.inj hcommit
    exact hended rfl
  | commitStale pending =>
    obtain rfl := Action.commit.inj hcommit
    exact hended rfl
  | _ => cases hcommit

lemma abort (hnext : invitationStatement now frame = .rollback next ∨ next = frame.fail) :
    LinkHeld now d ⟨next, []⟩ := by
  have hcopy : next.copy = none := by
    rcases hnext with hrollback | rfl
    · cases frame with
      | foundByToken a found => cases found <;> cases hrollback
      | expireStale pending => cases pending <;> cases hrollback
      | member frame =>
        obtain ⟨last, hlast⟩ := Action.within_ends (congrArg Action.ends hrollback)
        exact hlast ▸ rfl
      | rollback e =>
        obtain rfl := Action.rollback.inj hrollback
        rfl
      | _ => cases hrollback
    · cases frame with
      | expireStale pending => cases pending <;> rfl
      | _ => rfl
  exact of_no_copy hcopy (fun _ => rfl)

lemma tick {x : Session InvitationFrame InvitationWrite} (h : LinkHeld now d x) (hnow : now ≤ now')
    (hlive : ∀ y ∈ x.frame.copy, x.frame.tested = true → y.2.expired now' = false) : LinkHeld now' d x where
  unread := h.unread
  stored y hy hopen := h.stored y hy (hopen.mono hnow)
  presented := h.presented
  tested y hy ht := ⟨(h.tested y hy ht).1, hlive y hy ht⟩

lemma others {x : Session InvitationFrame InvitationWrite} (h : LinkHeld now d x)
    (hapart : ∀ y ∈ x.frame.copy, y.2.Open now → some y.2.id ∉ ws.map InvitationWrite.membership) :
    LinkHeld now ((invitationCode now).applyAll ws d) x where
  unread := h.unread
  stored y hy hopen := InvitationDb.mem_writes (h.stored y hy hopen) (hapart y hy hopen)
  presented := h.presented
  tested := h.tested

end LinkHeld

section Runs

variable [DecidableEq I] {s : InvitationState I} {es : List (ClockedEvent Instant I)} {a : Activation}

omit [DecidableEq I] in
lemma knows_link : KnowsAt invitationCode (LinksStand (I := I)) (fun _ _ => True) (fun _ => LinkHeld) where
  tick s now hguard hnow h := ⟨trivial, fun i => (h.sessions i).tick hnow (hguard i)⟩
  statement s i r hguard h hmoves := LinkHeld.statement (h.sessions i) hguard.1 hmoves
  commit s i next hguard h haction := by
    have hcommit : invitationStatement s.now (s.state.session i).frame = .commit next := haction
    refine ⟨trivial, (h.sessions i).commit hcommit, fun j hj => (h.sessions j).others (hguard.2 ?_ j hj)⟩
    rw [hcommit]
    rfl
  abort s i next _ hnext := LinkHeld.abort hnext

theorem activations_admitted {requests : I → InvitationRequest}
    (h : Run (Guarded (Enabled (clockedStep invitationCode)) LinksStand)
      ⟨now, begin d (fun i => (requests i).start)⟩ es s)
    (hcommit : (s.state.session i).frame = .commitActivation a m) : s.state.committed.Admits s.now a.tokenHash m.id := by
  have hstart (i : I) : LinkHeld now d ⟨(requests i).start, []⟩ := by
    have hcopy : (requests i).start.copy = none := by cases requests i <;> rfl
    exact .of_no_copy hcopy (fun _ => rfl)
  have hheld := (knows_link.run ⟨trivial, hstart⟩ h).sessions i
  have hcopy : (a, m) ∈ (s.state.session i).frame.copy := by
    rw [hcommit]
    exact Option.mem_some_self _
  have hopen : m.Open s.now := hheld.tested (a, m) hcopy (by rw [hcommit]; rfl)
  exact ⟨m, hheld.stored (a, m) hcopy hopen, rfl, hopen, hheld.presented (a, m) hcopy⟩

end Runs

instance [Fintype I] [DecidableEq I] (s : InvitationState I) : (e : ClockedEvent Instant I) → Decidable (LinksStand s e)
  | .tick now => inferInstanceAs (Decidable (∀ j, ∀ x ∈ (s.state.session j).frame.copy,
      (s.state.session j).frame.tested = true → x.2.expired now = false))
  | .session (.advance i) => inferInstanceAs (Decidable (
      (∀ m ∈ (s.state.session i).frame.testing, m.status = .pendingVerification → m.expired s.now = false) ∧
      ((invitationStatement s.now (s.state.session i).frame).commits = true →
        ∀ j, j ≠ i → ∀ x ∈ (s.state.session j).frame.copy, x.2.Open s.now →
          some x.2.id ∉ (s.state.session i).writes.map InvitationWrite.membership)))
  | .session (.fail _) => .isTrue trivial

namespace InvitationFrame

def committing : InvitationFrame → Option (Activation × InvitedMembership)
  | .commitActivation a m => some (a, m)
  | _ => none

lemma committing_eq {frame : InvitationFrame} {x : Activation × InvitedMembership} (h : frame.committing = some x) :
    frame = .commitActivation x.1 x.2 := by
  cases frame with
  | commitActivation a m =>
    obtain rfl := Option.some.inj h
    rfl
  | _ => cases h

end InvitationFrame

namespace Sample

def invited : InvitationDb where
  memberships := ⟨[⟨⟨1, 1, .active, none, none⟩, none, none, none⟩, ⟨⟨2, 2, .invited, none, none⟩, some "h2", some 100, none⟩,
    ⟨⟨3, 3, .pendingVerification, none, none⟩, some "h3", some 100, none⟩], by decide⟩
  roles := [⟨1, 1, .admin⟩, ⟨2, 2, .dispatcher⟩, ⟨3, 3, .admin⟩]
  users := ⟨[⟨⟨"a@b.c", some "hash", .active⟩, 1, none⟩, ⟨⟨"d@b.c", some "hash", .active⟩, 2, none⟩,
    ⟨⟨"e@b.c", none, .pendingVerification⟩, 3, none⟩], by decide⟩
  audit := []

def invitationCalls : Fin 3 → InvitationRequest
  | 0 => .activate ⟨"h2", none, fun p => p, .stored⟩
  | 1 => .admin ⟨fun _ => .stored, 1, 2, .cancel⟩
  | 2 => .activate ⟨"h3", some "password 1", fun p => p, .stored⟩

def inviting : InvitationState (Fin 3) := ⟨10, begin invited (fun i => (invitationCalls i).start)⟩

def turns (n : ℕ) (i : Fin 3) : List (ClockedEvent Instant (Fin 3)) := List.replicate n (.session (.advance i))

def cancelledUnder : List (ClockedEvent Instant (Fin 3)) := turns 2 0 ++ turns 7 1 ++ turns 4 0

def verifiedLate : List (ClockedEvent Instant (Fin 3)) := .tick 101 :: turns 7 2

def reinvitationCalls : Fin 3 → InvitationRequest
  | 0 => .activate ⟨"h4", none, fun p => p, .stored⟩
  | 1 => .admin ⟨fun _ => .stored, 1, 2, .resend "h4" (fun days now => now + days * 86400000)⟩
  | 2 => .activate ⟨"h3", some "password 1", fun p => p, .stored⟩

def reinviting : InvitationState (Fin 3) := ⟨10, begin invited (fun i => (reinvitationCalls i).start)⟩

def reinvited : List (ClockedEvent Instant (Fin 3)) := turns 8 2 ++ turns 7 1 ++ .tick 101 :: turns 6 0

end Sample

open Sample

theorem activations_admitted_sample : ∃ s a m, Run (Enabled (clockedStep invitationCode)) reinviting reinvited s ∧
    (s.state.session 0).frame = .commitActivation a m ∧ s.state.committed.Admits s.now a.tokenHash m.id ∧
    s.state.committed.memberships.rows.map (fun row => (row.status, row.invitationTokenHash)) =
      [(.active, none), (.invited, some "h4"), (.active, none)] := by
  have hsome : (reinvited.foldlM (checked (clockedStep invitationCode) LinksStand) reinviting).any (fun s =>
      (s.state.session 0).frame.committing.isSome ∧
      s.state.committed.memberships.rows.map (fun row => (row.status, row.invitationTokenHash)) =
        [(.active, none), (.invited, some "h4"), (.active, none)]) = true := by decide +kernel
  obtain ⟨s, hs, hreached⟩ := (Option.any_eq_true _ _).mp hsome
  obtain ⟨hcommitting, hrows⟩ := of_decide_eq_true hreached
  obtain ⟨⟨a, m⟩, hframe⟩ := Option.isSome_iff_exists.mp hcommitting
  have hguarded := run_checked hs
  have hcommit := InvitationFrame.committing_eq hframe
  exact ⟨s, a, m, hguarded.unguarded, hcommit, activations_admitted hguarded hcommit, hrows⟩

def ActivatesDeadLink (i : Fin 3) (es : List (ClockedEvent Instant (Fin 3))) (stored : Instant → InvitedMembership → Bool) :
    Prop :=
  ∃ s a m t, Run (Enabled (clockedStep invitationCode)) inviting es s ∧
    (s.state.session i).frame = .commitActivation a m ∧ ¬ s.state.committed.Admits s.now a.tokenHash m.id ∧
    (∃ row ∈ s.state.committed.memberships.rows, row.id = m.id ∧ stored s.now row = true) ∧
    Run (Enabled (clockedStep invitationCode)) s (turns 1 i) t ∧
    ∃ row ∈ t.state.committed.memberships.rows, row.id = m.id ∧ row.status = .active

lemma activatesDeadLink_of_run {i : Fin 3} {es : List (ClockedEvent Instant (Fin 3))}
    {stored : Instant → InvitedMembership → Bool}
    (h : (es.foldlM (clockedStep invitationCode) inviting).any (fun s =>
      (s.state.session i).frame.committing.any (fun x => ¬ s.state.committed.Admits s.now x.1.tokenHash x.2.id ∧
        (∃ row ∈ s.state.committed.memberships.rows, row.id = x.2.id ∧ stored s.now row = true) ∧
        ((turns 1 i).foldlM (clockedStep invitationCode) s).any (fun t =>
          ∃ row ∈ t.state.committed.memberships.rows, row.id = x.2.id ∧ row.status = .active) = true)) = true) :
    ActivatesDeadLink i es stored := by
  obtain ⟨s, hs, hsession⟩ := (Option.any_eq_true _ _).mp h
  obtain ⟨⟨a, m⟩, hframe, hdead⟩ := (Option.any_eq_true _ _).mp hsession
  obtain ⟨hnot, hstored, hnext⟩ := of_decide_eq_true hdead
  obtain ⟨t, ht, hactive⟩ := (Option.any_eq_true _ _).mp hnext
  exact ⟨s, a, m, t, (run_enabled_iff _ _ _ _).mpr hs, InvitationFrame.committing_eq hframe, hnot, hstored,
    (run_enabled_iff _ _ _ _).mpr ht, of_decide_eq_true hactive⟩

theorem dead_links_activate : ActivatesDeadLink 0 cancelledUnder (fun _ row => row.status = .cancelled) ∧
    ActivatesDeadLink 2 verifiedLate (fun now row => row.expired now) :=
  ⟨activatesDeadLink_of_run (by decide +kernel), activatesDeadLink_of_run (by decide +kernel)⟩

end Truckmaster.Identity
