import Truckmaster.QuoteLoad.StatusRuns
import Truckmaster.QuoteLoad.StopEventSessions

namespace Truckmaster.QuoteLoad

open Common Fallible ReadCommitted Runs Tables DispatchTrackingService LoadStatusDerivationService

variable {d u : LoadRows} {r : StopEventRequest} {load : Load} {stop : Stop} {now at' : Instant}

section Alone

variable {ws : List StopEventWrite}

lemma alone_findStops (r : StopEventRequest) (load : Load) (hu : (stopEventCode now).applyAll ws d = u) :
    Alone (stopEventCode now) d ⟨.findStops r load, ws⟩ (reEvaluateLoadStatus (r.q.order 2) load u) (.done none) := by
  let nextStatus := deriveLoadStatus load.status
    ((findMany (r.q.order 2) (fun _ => true) u.stops.rows).map Stop.progress)
  have hmoves : (stopEventStatement now (.findStops r load)).moves ((stopEventCode now).applyAll ws d) =
      some (if nextStatus = load.status then .commit else .updateLoad load nextStatus, []) := hu ▸ rfl
  refine .reads hmoves ?_
  by_cases hsame : nextStatus = load.status
  · rw [if_pos hsame, reEvaluateLoadStatus, if_pos hsame, ← hu]
    exact .commit rfl
  · rw [if_neg hsame]
    refine .writes rfl (.writes rfl ?_)
    have hend : (stopEventCode now).applyAll (ws ++ [.setStatus nextStatus] ++ statusAdvanced load nextStatus) d =
        reEvaluateLoadStatus (r.q.order 2) load u := by
      rw [Code.applyAll_append, Code.applyAll_append, hu, statusAdvanced, reEvaluateLoadStatus, if_neg hsame]
      cases loadStatusAdvancedAction nextStatus <;> rfl
    have hcommit : Alone (stopEventCode now) d
        ⟨.commit, ws ++ [.setStatus nextStatus] ++ statusAdvanced load nextStatus⟩ _ (.done none) := .commit rfl
    rw [hend] at hcommit
    exact hcommit

lemma alone_updateStop (r : StopEventRequest) (stop : Stop) (at' : Instant) (d : LoadRows) :
    Alone (stopEventCode now) d ⟨.updateStop r d.load stop at', []⟩
      (reEvaluateLoadStatus (r.q.order 2) d.load
        ((d.updateStop stop.id (r.kind.moved at') (r.kind.moved_id at')).recordStop r.q r.kind.action stop)) (.done none) :=
  .writes rfl (.writes rfl (alone_findStops r d.load rfl))

/-- What a session leaves, and answers, for a result of the service. -/
def AloneAs (now : Instant) (d : LoadRows) (frame : StopEventFrame) : Except AppError LoadRows → Prop
  | .ok d' => Alone (stopEventCode now) d ⟨frame, []⟩ d' (.done none)
  | .error e => Alone (stopEventCode now) d ⟨frame, []⟩ d (.done (some e))

lemma AloneAs.reads {frame next : StopEventFrame} {x : Except AppError LoadRows} (h : AloneAs now d next x)
    (hmoves : (stopEventStatement now frame).moves d = some (next, [])) : AloneAs now d frame x := by
  cases x with
  | ok d' => exact Alone.reads hmoves h
  | error e => exact Alone.reads hmoves h

lemma AloneAs.refuses {frame : StopEventFrame} {e : AppError}
    (hmoves : (stopEventStatement now frame).moves d = some (.rollback e, [])) : AloneAs now d frame (.error e) :=
  Alone.reads hmoves (.rollback rfl)

lemma alone_timed (r : StopEventRequest) (stop : Stop) (earliest : Option Instant) (d : LoadRows) :
    AloneAs now d (r.timed now d.load stop earliest) (do
      ensure (∀ t ∈ earliest, t ≤ r.timestamp.getD now) r.kind.tooEarly
      pure (reEvaluateLoadStatus (r.q.order 2) d.load
        ((d.updateStop stop.id (r.kind.moved (r.timestamp.getD now)) (r.kind.moved_id _)).recordStop r.q r.kind.action
          stop))) := by
  unfold StopEventRequest.timed
  by_cases hearly : ∀ t ∈ earliest, t ≤ r.timestamp.getD now
  · rw [if_pos hearly, ensure_of hearly]
    exact alone_updateStop r stop _ d
  · rw [if_neg hearly, ensure_not hearly]
    exact .rollback rfl

def moveStop (r : StopEventRequest) (d : LoadRows) (stop : Stop) : Except AppError LoadRows := do
  ensure (stop.status = r.kind.before) r.kind.refusal
  ensure (∀ t ∈ (match r.kind with
    | .arrival => d.dispatchRecord.map DispatchRecord.dispatchedAt
    | .departure => stop.actualArrival), t ≤ r.timestamp.getD r.q.now) r.kind.tooEarly
  pure (reEvaluateLoadStatus (r.q.order 2) d.load
    ((d.updateStop stop.id (r.kind.moved (r.timestamp.getD r.q.now)) (r.kind.moved_id _)).recordStop r.q r.kind.action
      stop))

lemma serve_eq (r : StopEventRequest) (d : LoadRows) :
    r.serve (some d) = trackedStop r.q d r.sequence >>= moveStop r d := by
  have harrival (at' : Instant) : (∀ t ∈ d.dispatchRecord.map DispatchRecord.dispatchedAt, t ≤ at') ↔
      ∀ record ∈ d.dispatchRecord, record.dispatchedAt ≤ at' := by simp
  obtain ⟨kind, q, sequence, timestamp⟩ := r
  cases kind with
  | arrival =>
    refine congrArg (trackedStop q d sequence >>= ·) (funext fun stop => ?_)
    simp only [moveStop, harrival]
    rfl
  | departure => rfl

lemma alone_foundStop (r : StopEventRequest) (stop : Stop) (d : LoadRows) :
    AloneAs r.q.now d (r.foundStop r.q.now d.load stop) (moveStop r d stop) := by
  unfold StopEventRequest.foundStop moveStop
  by_cases hstatus : stop.status = r.kind.before
  · rw [if_pos hstatus, ensure_of hstatus]
    obtain ⟨kind, q, sequence, timestamp⟩ := r
    cases kind with
    | arrival => exact (alone_timed _ stop (d.dispatchRecord.map DispatchRecord.dispatchedAt) d).reads rfl
    | departure => exact alone_timed _ stop stop.actualArrival d
  · rw [if_neg hstatus, ensure_not hstatus]
    exact Alone.rollback rfl

theorem stopEvent_alone (r : StopEventRequest) (d : LoadRows) :
    AloneAs r.q.now d (.findLoad r) (r.serve (some d)) := by
  rw [serve_eq, trackedStop, bind_assoc]
  by_cases hpost : d.load.status ∈ postDispatchStatuses
  · have hdelivered : d.load.status ≠ .delivered := by
      intro h
      rw [h] at hpost
      simp [postDispatchStatuses] at hpost
    rw [if_neg hdelivered, ensure_of (Or.inl hpost), ok_bind, Option.none_or]
    have hfound : AloneAs r.q.now d (.findStop r d.load)
        (require (findStop (r.q.order 1) d r.sequence) (.notFound "Stop not found.") >>= moveStop r d) := by
      cases hstop : findStop (r.q.order 1) d r.sequence with
      | none => exact .refuses (by simp [stopEventStatement, Action.moves, hstop])
      | some stop => exact (alone_foundStop r stop d).reads (by simp [stopEventStatement, Action.moves, hstop])
    exact hfound.reads (by simp [stopEventStatement, Action.moves, hpost])
  · by_cases hdelivered : d.load.status = .delivered
    · rw [if_pos hdelivered]
      have hfound : AloneAs r.q.now d (.findEarlyStop r d.load) (do
          ensure (d.load.status ∈ postDispatchStatuses ∨
            (findStop (r.q.order 0) d r.sequence).any (fun s => s.stopPurpose == .returnLeg)) notDispatched
          let stop ← require ((findStop (r.q.order 0) d r.sequence).or (findStop (r.q.order 1) d r.sequence))
            (.notFound "Stop not found.")
          moveStop r d stop) := by
        cases hstop : findStop (r.q.order 0) d r.sequence with
        | none =>
          rw [ensure_not (by simp [hpost])]
          exact .refuses (by simp [stopEventStatement, Action.moves, hstop])
        | some stop =>
          by_cases hreturn : stop.stopPurpose = .returnLeg
          · rw [ensure_of (by simp [hreturn])]
            exact (alone_foundStop r stop d).reads (by simp [stopEventStatement, Action.moves, hstop, hreturn])
          · rw [ensure_not (by simp [hpost, hreturn])]
            exact .refuses (by simp [stopEventStatement, Action.moves, hstop, hreturn])
      exact hfound.reads (by simp [stopEventStatement, Action.moves, hdelivered, postDispatchStatuses])
    · rw [if_neg hdelivered, ensure_not (by simp [hpost])]
      exact .refuses (by simp [stopEventStatement, Action.moves, hpost, hdelivered, notDispatched])

end Alone

namespace DispatchTrackingService

lemma Moved.derived_mono {rows rows' : LoadRows} {before after : StopStatus} (h : Moved rows rows' before after)
    (hbefore : before ≠ .completed) (hafter : after ≠ .pending)
    (hnodup : (rows.progress.map StopProgressInput.sequence).Nodup) :
    progressRank (deriveLoadStatus .dispatched rows.progress) ≤
      progressRank (deriveLoadStatus .dispatched rows'.progress) := by
  obtain ⟨_, rfl, _, hmoved⟩ := h.restated
  exact derive_mono (by decide) (hmoved.final_completed hbefore hnodup) (hmoved.pickups_completed hbefore)
    (hmoved.pickups_started hafter) (fun htransit => absurd htransit (by decide))

end DispatchTrackingService

lemma tracked_rank_inj {a b : LoadStatus} (ha : a ∈ trackedStatuses) (hb : b ∈ trackedStatuses)
    (h : progressRank a = progressRank b) : a = b := by
  simp only [trackedStatuses, List.mem_cons, List.not_mem_nil, or_false] at ha hb
  rcases ha with rfl | rfl | rfl | rfl <;> rcases hb with rfl | rfl | rfl | rfl <;> first | rfl | cases h

structure Seen (d : LoadRows) (status : LoadStatus) : Prop where
  tracked : status ∈ trackedStatuses
  behind : progressRank status ≤ progressRank d.load.status
  started : status ≠ .dispatched → ∃ s ∈ pickups d.progress, s.status ≠ .pending

lemma Tracked.seen (h : Tracked d) : Seen d d.load.status := by
  refine ⟨h.status, le_rfl, fun hne => ?_⟩
  by_contra hnone
  push Not at hnone
  exact hne (h.derived.trans (deriveLoadStatus_unstarted (by decide) h.pickup hnone))

structure Stands (d : LoadRows) (r : StopEventRequest) (load : Load) (stop : Stop) : Prop where
  seen : Seen d load.status
  mem : stop ∈ d.stops.rows
  sequence : stop.sequence = r.sequence
  status : stop.status = r.kind.before
  gate : load.status ∈ postDispatchStatuses ∨ load.status = .delivered ∧ stop.stopPurpose = .returnLeg

structure Ahead (sequence : ℤ) (d u : LoadRows) : Prop where
  stops : ∀ s ∈ d.stops.rows, s.sequence ≠ sequence → s ∈ u.stops.rows
  seen : ∀ status, Seen d status → Seen u status

def Settles (sequence : ℤ) (d u : LoadRows) : Prop := Tracked u ∧ Ahead sequence d u

namespace Stands

variable {o : RowOrder}

lemma moved (h : Stands d r load stop)
    (hstops : u.stops = d.stops.update stop.id (r.kind.moved at') (r.kind.moved_id at'))
    (hstatus : u.load.status =
      deriveLoadStatus load.status ((findMany o (fun _ => true) u.stops.rows).map Stop.progress)) :
    Moved (d.withStatus load.status) u r.kind.before r.kind.after where
  derived := by
    have hperm := findMany_perm o (fun _ => true) u.stops.rows
    rw [List.filter_true] at hperm
    exact ⟨_, hperm.map Stop.progress, hstatus⟩
  stop := by
    obtain ⟨front, back, hfront, hback⟩ := updateStop_progress h.mem (r.kind.moved at') (r.kind.moved_id at')
    have hprogress : u.progress = (d.updateStop stop.id (r.kind.moved at') (r.kind.moved_id at')).progress := by
      rw [LoadRows.progress, hstops]
      rfl
    have hafter : (r.kind.moved at' stop).progress = { stop.progress with status := r.kind.after } := by
      cases r.kind <;> rfl
    exact ⟨front, stop.progress, back, hfront, hafter ▸ hprogress.trans hback, h.status, h.gate⟩

lemma before_ne (kind : StopEventKind) : kind.before ≠ .completed ∧ kind.after ≠ .pending := by
  cases kind <;> decide

/-- Whatever has happened to the Load since it was read, what the request derives is what the stops say. -/
lemma derived (hd : Tracked d) (h : Stands d r load stop) (hmoved : Moved (d.withStatus load.status) u r.kind.before r.kind.after) :
    u.load.status = deriveLoadStatus .dispatched u.progress := by
  have hnodup : (u.progress.map StopProgressInput.sequence).Nodup := hmoved.sequences_eq ▸ hd.sequences
  obtain ⟨stops, hperm, hstatus⟩ := hmoved.derived
  have hread : u.load.status = deriveLoadStatus load.status stops := hstatus
  by_cases hderivable : load.status ∈ derivableStatuses
  · rw [hread, deriveLoadStatus_perm hperm ((hperm.map _).nodup_iff.mpr hnodup)]
    apply deriveLoadStatus_started hderivable (by decide)
    by_cases hdispatched : load.status = .dispatched
    · exact Or.inl hdispatched
    · right
      by_contra hnone
      push Not at hnone
      obtain ⟨s, hs, hne⟩ := h.seen.started hdispatched
      exact hne (hmoved.pickups_pending (before_ne r.kind).2 hnone s hs)
  · have hdelivered : load.status = .delivered := by
      have htracked := h.seen.tracked
      simp only [trackedStatuses, derivableStatuses, List.mem_cons, List.not_mem_nil, or_false] at htracked hderivable
      tauto
    have hstored : d.load.status = .delivered := by
      have hrank := h.seen.behind
      have htracked := hd.status
      rw [hdelivered] at hrank
      simp only [trackedStatuses, List.mem_cons, List.not_mem_nil, or_false] at htracked
      rcases htracked with hs | hs | hs | hs <;> rw [hs] at hrank
      · exact absurd hrank (by decide)
      · exact absurd hrank (by decide)
      · exact absurd hrank (by decide)
      · exact hs
    rw [hread, deriveLoadStatus_of_not_derivable hderivable, hdelivered, ← hstored, hd.derived]
    exact (deriveLoadStatus_standard (hmoved.standard_eq hdelivered)).symm

lemma settles (hd : Tracked d) (h : Stands d r load stop)
    (hstops : u.stops = d.stops.update stop.id (r.kind.moved at') (r.kind.moved_id at'))
    (hstatus : u.load.status =
      deriveLoadStatus load.status ((findMany o (fun _ => true) u.stops.rows).map Stop.progress)) :
    Settles r.sequence d u := by
  have hmoved := h.moved hstops hstatus
  have hderived := h.derived hd hmoved
  have hmono := hmoved.derived_mono (before_ne r.kind).1 (before_ne r.kind).2 hd.sequences
  refine ⟨⟨hmoved.sequences_eq ▸ hd.sequences, hmoved.pickup_exists hd.pickup, hderived ▸ derive_tracked (by decide),
    hderived⟩, fun s hs hne => ?_, fun status hseen => ⟨hseen.tracked, ?_, fun hdispatched => ?_⟩⟩
  · rw [hstops]
    refine (d.stops.mem_update stop.id _ _).mpr (Or.inr ⟨hs, fun hid => ?_⟩)
    exact hne (d.stops.eq_of_key hs h.mem hid ▸ h.sequence)
  · calc progressRank status
      _ ≤ progressRank d.load.status := hseen.behind
      _ = progressRank (deriveLoadStatus .dispatched d.progress) := congrArg progressRank hd.derived
      _ ≤ progressRank (deriveLoadStatus .dispatched u.progress) := hmono
      _ = progressRank u.load.status := congrArg progressRank hderived.symm
  · by_contra hnone
    push Not at hnone
    obtain ⟨s, hs, hne⟩ := hseen.started hdispatched
    exact hne (hmoved.pickups_pending (before_ne r.kind).2 hnone s hs)

lemma unchanged (hd : Tracked d) (h : Stands d r load stop)
    (hstops : u.stops = d.stops.update stop.id (r.kind.moved at') (r.kind.moved_id at'))
    (hsame : deriveLoadStatus load.status ((findMany o (fun _ => true) u.stops.rows).map Stop.progress) = load.status) :
    d.load.status = load.status := by
  let v := u.withStatus load.status
  have hv : Settles r.sequence d v := h.settles (o := o) hd (u := v) hstops hsame.symm
  have hbehind : progressRank d.load.status ≤ progressRank load.status := (hv.2.seen _ hd.seen).behind
  exact tracked_rank_inj hd.status h.seen.tracked (le_antisymm hbehind h.seen.behind)

end Stands

lemma Settles.congr {sequence : ℤ} {v : LoadRows} (h : Settles sequence d u) (hstops : v.stops = u.stops)
    (hstatus : v.load.status = u.load.status) : Settles sequence d v := by
  have hprogress : v.progress = u.progress := congrArg (fun t => t.rows.map Stop.progress) hstops
  obtain ⟨⟨hsequences, hpickup, htracked, hderived⟩, hstay, hseen⟩ := h
  refine ⟨⟨hprogress ▸ hsequences, hprogress ▸ hpickup, hstatus ▸ htracked, ?_⟩, fun s hs hne => ?_, fun status hs => ?_⟩
  · rw [hstatus, hprogress]
    exact hderived
  · rw [hstops]
    exact hstay s hs hne
  · obtain ⟨hmem, hbehind, hstarted⟩ := hseen status hs
    exact ⟨hmem, hstatus ▸ hbehind, hprogress ▸ hstarted⟩

def written (ws : List StopEventWrite) (d : LoadRows) : LoadRows := (stopEventCode 0).applyAll ws d

/-- What a session knows, whose stop is at the sequence. Once it has read the stops again, what it will leave is settled. -/
def StopHeld (sequence : ℤ) (d : LoadRows) (x : Session StopEventFrame StopEventWrite) : Prop :=
  match x.frame with
  | .findLoad r => r.sequence = sequence ∧ x.writes = []
  | .findEarlyStop r load => r.sequence = sequence ∧ x.writes = [] ∧ Seen d load.status ∧ load.status = .delivered
  | .findStop r load => r.sequence = sequence ∧ x.writes = [] ∧ Seen d load.status ∧ load.status ∈ postDispatchStatuses
  | .findDispatchRecord r load stop => r.sequence = sequence ∧ x.writes = [] ∧ Stands d r load stop
  | .updateStop r load stop _ => r.sequence = sequence ∧ x.writes = [] ∧ Stands d r load stop
  | .recordStop r load stop =>
    r.sequence = sequence ∧ (∃ at', x.writes = [.move r.kind at' stop.id]) ∧ Stands d r load stop
  | .findStops r load => r.sequence = sequence ∧ ∃ stop,
    (∃ at' event, x.writes = [.move r.kind at' stop.id, .record event]) ∧ Stands d r load stop
  | .updateLoad _ nextStatus => Settles sequence d ((written x.writes d).withStatus nextStatus)
  | .recordLoad _ _ => Settles sequence d (written x.writes d)
  | .commit => Settles sequence d (written x.writes d)
  | .rollback _ => True
  | .done _ => True

namespace StopEventFrame

def evaluated : StopEventFrame → Bool
  | .updateLoad _ _ => true
  | .recordLoad _ _ => true
  | .commit => true
  | _ => false

def recorded : StopEventFrame → Bool
  | .done none => true
  | _ => false

lemma recorded_eq {frame : StopEventFrame} (h : frame.recorded = true) : frame = .done none := by
  cases frame with
  | done failure =>
    cases failure with
    | none => rfl
    | some e => cases h
  | _ => cases h

end StopEventFrame

abbrev StopEventState (I : Type*) := Clocked Instant LoadRows StopEventRow I StopEventFrame StopEventWrite

/-- A request commits only while no other one has read the stops again and not yet ended. -/
def StopsReadLast {I : Type*} (s : StopEventState I) : ClockedEvent Instant I → Prop
  | .session (.advance i) => (stopEventStatement s.now (s.state.session i).frame).commits = true →
    ∀ j, j ≠ i → (s.state.session j).frame.evaluated = false
  | _ => True

namespace StopHeld

variable {sequence sequence' : ℤ} {frame next : StopEventFrame} {ws : List StopEventWrite}

lemma ahead {x : Session StopEventFrame StopEventWrite} (h : StopHeld sequence d x) (hahead : Ahead sequence' d u)
    (hne : sequence ≠ sequence') (hread : x.frame.evaluated = false) : StopHeld sequence u x := by
  have hstands {r : StopEventRequest} {load : Load} {stop : Stop} (hr : r.sequence = sequence)
      (hs : Stands d r load stop) : Stands u r load stop :=
    ⟨hahead.seen _ hs.seen, hahead.stops stop hs.mem (hs.sequence.trans hr ▸ hne), hs.sequence, hs.status, hs.gate⟩
  unfold StopHeld at h ⊢
  cases hframe : x.frame with
  | findLoad r =>
    rw [hframe] at h
    exact h
  | findEarlyStop r load =>
    rw [hframe] at h
    exact ⟨h.1, h.2.1, hahead.seen _ h.2.2.1, h.2.2.2⟩
  | findStop r load =>
    rw [hframe] at h
    exact ⟨h.1, h.2.1, hahead.seen _ h.2.2.1, h.2.2.2⟩
  | findDispatchRecord r load stop =>
    rw [hframe] at h
    exact ⟨h.1, h.2.1, hstands h.1 h.2.2⟩
  | updateStop r load stop at' =>
    rw [hframe] at h
    exact ⟨h.1, h.2.1, hstands h.1 h.2.2⟩
  | recordStop r load stop =>
    rw [hframe] at h
    exact ⟨h.1, h.2.1, hstands h.1 h.2.2⟩
  | findStops r load =>
    rw [hframe] at h
    obtain ⟨hr, stop, hws, hs⟩ := h
    exact ⟨hr, stop, hws, hstands hr hs⟩
  | updateLoad load nextStatus => exact absurd (hframe ▸ hread) nofun
  | recordLoad load nextStatus => exact absurd (hframe ▸ hread) nofun
  | commit => exact absurd (hframe ▸ hread) nofun
  | rollback e => trivial
  | done failure => trivial

lemma timed {r : StopEventRequest} (hr : r.sequence = sequence) (hs : Stands d r load stop) (earliest : Option Instant) :
    StopHeld sequence d ⟨r.timed now load stop earliest, []⟩ := by
  unfold StopEventRequest.timed
  split_ifs
  · exact ⟨hr, rfl, hs⟩
  · trivial

lemma foundStop {r : StopEventRequest} (hr : r.sequence = sequence) (hseen : Seen d load.status)
    (hstop : stop ∈ d.stops.rows ∧ stop.sequence = r.sequence)
    (hgate : load.status ∈ postDispatchStatuses ∨ load.status = .delivered ∧ stop.stopPurpose = .returnLeg) :
    StopHeld sequence d ⟨r.foundStop now load stop, []⟩ := by
  unfold StopEventRequest.foundStop
  split_ifs with hstatus
  · have hs : Stands d r load stop := ⟨hseen, hstop.1, hstop.2, hstatus, hgate⟩
    split
    · exact ⟨hr, rfl, hs⟩
    · exact timed hr hs _
  · trivial

lemma statement {x : StopEventFrame × List StopEventWrite} (hd : Tracked d) (h : StopHeld sequence d ⟨frame, ws⟩)
    (hmoves : (stopEventStatement now frame).moves (written ws d) = some x) :
    StopHeld sequence d ⟨x.1, ws ++ x.2⟩ := by
  cases frame with
  | findLoad r =>
    obtain ⟨hr, rfl⟩ : r.sequence = sequence ∧ ws = [] := h
    obtain rfl := Option.some.inj hmoves
    dsimp only
    split_ifs with hpost hdelivered
    · exact ⟨hr, rfl, hd.seen, hpost⟩
    · exact ⟨hr, rfl, hd.seen, hdelivered⟩
    · trivial
  | findEarlyStop r load =>
    obtain ⟨hr, rfl, hseen, hdelivered⟩ : r.sequence = sequence ∧ ws = [] ∧ Seen d load.status ∧ load.status = .delivered := h
    obtain rfl := Option.some.inj hmoves
    dsimp only
    split
    next stop hstop =>
      dsimp only
      split_ifs with hreturn
      · exact foundStop hr hseen (findStop_some hstop) (Or.inr ⟨hdelivered, hreturn⟩)
      · trivial
    · trivial
  | findStop r load =>
    obtain ⟨hr, rfl, hseen, hpost⟩ : r.sequence = sequence ∧ ws = [] ∧ Seen d load.status ∧
      load.status ∈ postDispatchStatuses := h
    obtain rfl := Option.some.inj hmoves
    dsimp only
    split
    next stop hstop => exact foundStop hr hseen (findStop_some hstop) (Or.inl hpost)
    · trivial
  | findDispatchRecord r load stop =>
    obtain ⟨hr, rfl, hs⟩ : r.sequence = sequence ∧ ws = [] ∧ Stands d r load stop := h
    obtain rfl := Option.some.inj hmoves
    exact timed hr hs _
  | updateStop r load stop at' =>
    obtain ⟨hr, rfl, hs⟩ : r.sequence = sequence ∧ ws = [] ∧ Stands d r load stop := h
    obtain rfl := Option.some.inj hmoves
    exact ⟨hr, ⟨at', rfl⟩, hs⟩
  | recordStop r load stop =>
    obtain ⟨hr, ⟨at', rfl⟩, hs⟩ : r.sequence = sequence ∧ (∃ at', ws = _) ∧ Stands d r load stop := h
    obtain rfl := Option.some.inj hmoves
    exact ⟨hr, stop, ⟨at', _, rfl⟩, hs⟩
  | findStops r load =>
    obtain ⟨rfl, stop, ⟨at', event, rfl⟩, hs⟩ : r.sequence = sequence ∧ ∃ stop, (∃ at' event, ws = _) ∧
      Stands d r load stop := h
    obtain rfl := Option.some.inj hmoves
    dsimp only
    split_ifs with hsame
    · have hread := hs.unchanged hd rfl hsame
      exact hs.settles hd rfl (hread.trans hsame.symm)
    · exact hs.settles (u := (written _ d).withStatus _) hd rfl rfl
  | updateLoad load nextStatus =>
    obtain rfl := Option.some.inj hmoves
    have hsettles : Settles sequence d ((written ws d).withStatus nextStatus) := h
    change Settles sequence d (written (ws ++ [.setStatus nextStatus]) d)
    rw [written, Code.applyAll_append]
    exact hsettles
  | recordLoad load nextStatus =>
    obtain rfl := Option.some.inj hmoves
    have hsettles : Settles sequence d (written ws d) := h
    change Settles sequence d (written (ws ++ statusAdvanced load nextStatus) d)
    rw [written, Code.applyAll_append, statusAdvanced]
    split
    · exact hsettles.congr rfl rfl
    · exact hsettles
  | commit => cases hmoves
  | rollback e => cases hmoves
  | done failure => cases hmoves

end StopHeld

section Interleaved

variable {I : Type*} {requests : I → StopEventRequest}

lemma knows_stop (hdistinct : Function.Injective (fun i => (requests i).sequence)) :
    KnowsAt stopEventCode (StopsReadLast (I := I)) (fun _ => Tracked) (fun i _ => StopHeld (requests i).sequence) where
  tick _ _ _ _ h := ⟨h.committed, h.sessions⟩
  statement _ i _ _ h hmoves := (h.sessions i).statement h.committed hmoves
  commit s i next hguard h haction := by
    have hcommit : stopEventStatement s.now (s.state.session i).frame = .commit next := haction
    have hread := hguard (by rw [hcommit]; rfl)
    have hheld : StopHeld (requests i).sequence s.state.committed ⟨(s.state.session i).frame, (s.state.session i).writes⟩ :=
      h.sessions i
    cases hframe : (s.state.session i).frame with
    | commit =>
      rw [hframe] at hcommit hheld
      obtain rfl := Action.commit.inj hcommit
      have hsettles : Settles (requests i).sequence s.state.committed (visible (stopEventCode s.now) s.state i) := hheld
      exact ⟨hsettles.1, trivial, fun j hj => (h.sessions j).ahead hsettles.2 (fun hsame => hj (hdistinct hsame)) (hread j hj)⟩
    | _ =>
      rw [hframe] at hcommit
      cases hcommit
  abort s i next h hnext := by
    have hdone : ∃ failure, next = .done failure := by
      rcases hnext with hrollback | rfl
      · have haction : stopEventStatement s.now (s.state.session i).frame = .rollback next := hrollback
        cases hframe : (s.state.session i).frame with
        | rollback e =>
          rw [hframe] at haction
          exact ⟨some e, (Action.rollback.inj haction).symm⟩
        | _ =>
          rw [hframe] at haction
          cases haction
      · cases (s.state.session i).frame <;> exact ⟨_, rfl⟩
    obtain ⟨failure, rfl⟩ := hdone
    trivial

variable [DecidableEq I] {s : StopEventState I} {es : List (ClockedEvent Instant I)} {rows : LoadRows} {calls : List Call}

end Interleaved

instance {I : Type*} [Fintype I] [DecidableEq I] (s : StopEventState I) :
    (e : ClockedEvent Instant I) → Decidable (StopsReadLast s e)
  | .session (.advance i) =>
    inferInstanceAs (Decidable ((stopEventStatement s.now (s.state.session i).frame).commits = true →
      ∀ j, j ≠ i → (s.state.session j).frame.evaluated = false))
  | .session (.fail _) => .isTrue trivial
  | .tick _ => .isTrue trivial

namespace Sample

def arrivedTwice : LoadRows := serve dispatched 6 [.recordArrival 1 none, .recordArrival 2 none]

def departures (i : Fin 2) : StopEventRequest := ⟨.departure, request (8 + i), i + 1, none⟩

def departing : StopEventState (Fin 2) := ⟨1000, begin arrivedTwice (fun i => .findLoad (departures i))⟩

def moves (n : ℕ) (i : Fin 2) : List (ClockedEvent Instant (Fin 2)) := List.replicate n (.session (.advance i))

def crossing : List (ClockedEvent Instant (Fin 2)) :=
  moves 5 ⟨0, Nat.zero_lt_two⟩ ++ moves 6 ⟨1, Nat.one_lt_two⟩ ++ moves 3 ⟨0, Nat.zero_lt_two⟩

lemma dispatched_dispatched : Dispatched dispatched :=
  .intro (.direct booked_eq) (by decide) (serve_run booked 2 toRateConfirmation)
    (Or.inr ⟨⟨.pickup, .standard, .pending, 1⟩, by decide⟩)
    (eq_accepted (x := Call.exec ⟨reference, request 5, .dispatch dispatchInput⟩ (serve booked 2 toRateConfirmation))
      (by decide))

lemma arrivals_stopEvents : ∀ c ∈ calls 6 [.recordArrival 1 none, .recordArrival 2 none], StopEvent c.op := by
  refine calls_op (fun op hop => ?_)
  rcases List.mem_cons.mp hop with rfl | hop
  · trivial
  · rw [List.mem_singleton.mp hop]
    trivial

lemma departures_distinct : Function.Injective (fun i => (departures i).sequence) := by decide

end Sample

open Sample

end Truckmaster.QuoteLoad
