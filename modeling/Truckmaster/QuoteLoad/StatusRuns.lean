import Truckmaster.QuoteLoad.Lifecycle
import Truckmaster.QuoteLoad.DerivationLaws

namespace Truckmaster.QuoteLoad

open Common Fallible LoadStatusDerivationService DispatchTrackingService Runs

variable {c : Call} {rows rows' rows₀ : LoadRows} {calls : List Call} {sequences : List ℤ}
  {before after : StopStatus}

namespace DispatchTrackingService

lemma Moved.restated (h : Moved rows rows' before after) :
    ∃ stop : StopProgressInput, stop.status = before ∧
      (rows.load.status ∈ postDispatchStatuses ∨ rows.load.status = .delivered ∧ stop.stopPurpose = .returnLeg) ∧
      Restated rows.progress rows'.progress stop after := by
  obtain ⟨front, stop, back, hbefore, hafter, hstatus, hgate⟩ := h.stop
  exact ⟨stop, hstatus, hgate, front, back, hbefore, hafter⟩

lemma Moved.sequences_eq (h : Moved rows rows' before after) :
    rows'.progress.map StopProgressInput.sequence = rows.progress.map StopProgressInput.sequence := by
  obtain ⟨_, _, _, hmoved⟩ := h.restated
  exact hmoved.sequences_eq

lemma Moved.pickup_exists (h : Moved rows rows' before after) (hp : ∃ s, s ∈ pickups rows.progress) :
    ∃ s, s ∈ pickups rows'.progress := by
  obtain ⟨_, _, _, hmoved⟩ := h.restated
  exact hmoved.pickup_exists hp

lemma Moved.pickups_completed (h : Moved rows rows' before after) (hbefore : before ≠ .completed)
    (hall : ∀ s ∈ pickups rows.progress, s.status = .completed) :
    ∀ s ∈ pickups rows'.progress, s.status = .completed := by
  obtain ⟨_, rfl, _, hmoved⟩ := h.restated
  exact hmoved.pickups_completed hbefore hall

lemma Moved.pickups_pending (h : Moved rows rows' before after) (hafter : after ≠ .pending)
    (hall : ∀ s ∈ pickups rows'.progress, s.status = .pending) :
    ∀ s ∈ pickups rows.progress, s.status = .pending := by
  obtain ⟨_, _, _, hmoved⟩ := h.restated
  exact hmoved.pickups_pending hafter hall

lemma Moved.standard_eq (h : Moved rows rows' before after) (hstatus : rows.load.status = .delivered) :
    rows'.progress.filter isStandard = rows.progress.filter isStandard := by
  obtain ⟨front, stop, back, hbefore, hafter, _, hgate⟩ := h.stop
  have hreturn : stop.stopPurpose = .returnLeg := by
    rcases hgate with hpost | ⟨_, hreturn⟩
    · rw [hstatus] at hpost
      simp [postDispatchStatuses] at hpost
    · exact hreturn
  simp [hbefore, hafter, List.filter_append, isStandard, hreturn]

lemma Returned.standard_eq (h : Returned rows rows') :
    rows'.progress.filter isStandard = rows.progress.filter isStandard := by
  obtain ⟨next, _, hstops⟩ := h.stops
  simp [hstops, List.filter_append, isStandard]

lemma Returned.sequences_nodup (h : Returned rows rows') :
    (rows'.progress.map StopProgressInput.sequence).Nodup ↔ (rows.progress.map StopProgressInput.sequence).Nodup := by
  obtain ⟨next, hlt, hstops⟩ := h.stops
  rw [hstops, List.map_append]
  refine ⟨fun hnodup => hnodup.of_append_left, fun hnodup => hnodup.append (by simp) (fun n hn hnew => ?_)⟩
  obtain ⟨s, hs, rfl⟩ := List.mem_map.mp hn
  have hbound := hlt s hs
  simp only [List.map_cons, List.map_nil, List.mem_cons, List.not_mem_nil, or_false] at hnew
  omega

end DispatchTrackingService

lemma editedStops_status {rows : LoadRows} {q : Request} {items : List UpdateStopItem}
    (h : rows'.stops.rows = editedStops q 0 items rows.stops.rows) :
    rows'.progress.map StopProgressInput.untyped = rows.progress.map StopProgressInput.untyped := by
  have huntyped := editedStops_untyped (q := q) 0 items rows.stops.rows
  rw [← h] at huntyped
  rwa [LoadRows.progress, LoadRows.progress, List.map_map, List.map_map]

lemma editedStops_sequences {q : Request} {items : List UpdateStopItem}
    (h : rows'.stops.rows = editedStops q 0 items rows.stops.rows) :
    rows'.progress.map StopProgressInput.sequence = rows.progress.map StopProgressInput.sequence := by
  have hsequences := congrArg (List.map StopProgressInput.sequence) (editedStops_status h)
  rwa [List.map_map, List.map_map] at hsequences

def trackedStatuses : List LoadStatus := [.dispatched, .pickup, .inTransit, .delivered]

lemma tracked_of_gate {status : LoadStatus} (h : status ∈ postDispatchStatuses ∨ status = .delivered) :
    status ∈ trackedStatuses := by
  rcases h with h | rfl
  · exact List.mem_append_left [.delivered] h
  · decide

lemma tracked_not_waiting {status : LoadStatus} (h : status ∈ trackedStatuses) :
    status ∉ LoadService.cancellableStatuses := by
  simp only [trackedStatuses, List.mem_cons, List.not_mem_nil, or_false] at h
  rcases h with rfl | rfl | rfl | rfl <;> decide

lemma derive_tracked {status : LoadStatus} {stops : List StopProgressInput} (h : status ∈ trackedStatuses) :
    deriveLoadStatus status stops ∈ trackedStatuses := by
  by_cases hderivable : status ∈ derivableStatuses
  · rcases deriveLoadStatus_mem stops hderivable with hmem | hdelivered
    · exact List.mem_append_left [.delivered] hmem
    · rw [hdelivered]
      decide
  · rw [deriveLoadStatus_of_not_derivable hderivable]
    exact h

lemma derived_waiting (h : Derived rows rows') (hwaiting : rows'.load.status ∈ LoadService.cancellableStatuses) :
    rows.load.status ∈ LoadService.cancellableStatuses := by
  by_cases hderivable : rows.load.status ∈ derivableStatuses
  · obtain ⟨stops, _, hnext⟩ := h
    rw [hnext] at hwaiting
    exact absurd hwaiting (tracked_not_waiting (derive_tracked (tracked_of_gate (Or.inl hderivable))))
  · rwa [h.of_not_derivable hderivable] at hwaiting

lemma Edge.waiting {op : LoadOp} {status status' : LoadStatus} (h : Edge op status status')
    (hwaiting : status' ∈ LoadService.cancellableStatuses) : status ∈ LoadService.cancellableStatuses := by
  cases h with
  | closeLoad => simp [LoadService.cancellableStatuses] at hwaiting
  | cancelLoad => simp [LoadService.cancellableStatuses] at hwaiting
  | dispatch => simp [LoadService.cancellableStatuses] at hwaiting
  | _ => simp [LoadService.cancellableStatuses]

structure Waiting (rows : LoadRows) : Prop where
  sequences : (rows.progress.map StopProgressInput.sequence).Nodup
  pending : rows.load.status ∈ LoadService.cancellableStatuses → ∀ s ∈ rows.progress, s.status = .pending

lemma Fresh.waiting (h : Fresh sequences rows) (hnodup : sequences.Nodup) : Waiting rows :=
  ⟨h.sequences.nodup_iff.mpr hnodup, fun _ s hs => (h.stops s hs).2⟩

lemma waiting_of_tracked (hderived : Derived rows rows')
    (hnodup : (rows'.progress.map StopProgressInput.sequence).Nodup)
    (hgate : rows.load.status ∈ trackedStatuses) : Waiting rows' := by
  refine ⟨hnodup, fun hwaiting => ?_⟩
  exact absurd (derived_waiting hderived hwaiting) (tracked_not_waiting hgate)

lemma Waiting.step (h : Waiting rows) (hs : Served rows c rows') : Waiting rows' := by
  rcases served_cases hs with rfl | hok
  · exact h
  · have moved_step {before after} (moved : Moved rows rows' before after) : Waiting rows' := by
      obtain ⟨_, _, hgate, _⟩ := moved.restated
      exact waiting_of_tracked moved.derived (moved.sequences_eq ▸ h.sequences)
        (tracked_of_gate (hgate.imp_right And.left))
    cases exec_effect hok with
    | workflow edge progress =>
      exact ⟨progress ▸ h.sequences, fun hwaiting => progress ▸ h.pending (edge.waiting hwaiting)⟩
    | unmoved status progress =>
      exact ⟨progress ▸ h.sequences, fun hwaiting => progress ▸ h.pending (status ▸ hwaiting)⟩
    | arrival _ moved => exact moved_step moved
    | departure _ moved => exact moved_step moved
    | returned _ pair =>
      exact waiting_of_tracked pair.derived (pair.sequences_nodup.mpr h.sequences) (tracked_of_gate pair.gate)
    | edit _ derived stops =>
      have huntyped := editedStops_status stops
      refine ⟨editedStops_sequences stops ▸ h.sequences, fun hwaiting s hs => ?_⟩
      have hmem : s.untyped ∈ rows.progress.map StopProgressInput.untyped := huntyped ▸ List.mem_map_of_mem hs
      obtain ⟨t, ht, hst⟩ := List.mem_map.mp hmem
      have hpending := h.pending (derived_waiting derived hwaiting) t ht
      exact (congrArg StopProgressInput.status hst).symm.trans hpending

/-- Every item names a stop of the Load: the service refuses any other edit. -/
def Named (rows : LoadRows) (dto : UpdateStopsInput) : Prop :=
  ∀ item ∈ dto.stops, item.sequence ∈ rows.stops.rows.map Stop.sequence

lemma edit_named {dto : UpdateStopsInput} (h : c.exec rows = .ok rows') (hop : c.op = .updateStops dto) :
    Named rows dto := by
  obtain ⟨r, q, op⟩ := c
  obtain rfl := hop
  exact updateStops_named h

def KeepsPickup (rows : LoadRows) (c : Call) : Prop :=
  ∀ dto, c.op = .updateStops dto → Named rows dto →
    ∃ s ∈ editedStops c.request 0 dto.stops rows.stops.rows, s.stopType = .pickup ∧ s.stopPurpose = .standard

lemma pickup_of_stop {stop : Stop} (h : stop ∈ rows.stops.rows) (htype : stop.stopType = .pickup)
    (hpurpose : stop.stopPurpose = .standard) : stop.progress ∈ pickups rows.progress :=
  mem_pickups.mpr ⟨List.mem_map_of_mem h, htype, hpurpose⟩

lemma pickup_step (h : ∃ s, s ∈ pickups rows.progress) (hkeeps : KeepsPickup rows c) (hs : Served rows c rows') :
    ∃ s, s ∈ pickups rows'.progress := by
  rcases served_cases hs with rfl | hok
  · exact h
  · cases exec_effect hok with
    | workflow _ progress => exact progress ▸ h
    | unmoved _ progress => exact progress ▸ h
    | arrival _ moved => exact moved.pickup_exists h
    | departure _ moved => exact moved.pickup_exists h
    | returned _ pair => exact pickups_standard pair.standard_eq ▸ h
    | edit op _ stops =>
      obtain ⟨s, hmem, htype, hpurpose⟩ := hkeeps _ op (edit_named hok op)
      exact ⟨s.progress, pickup_of_stop (stops ▸ hmem) htype hpurpose⟩

structure Tracked (rows : LoadRows) : Prop where
  sequences : (rows.progress.map StopProgressInput.sequence).Nodup
  pickup : ∃ s, s ∈ pickups rows.progress
  status : rows.load.status ∈ trackedStatuses
  derived : rows.load.status = deriveLoadStatus .dispatched rows.progress

lemma Waiting.dispatched (h : Waiting rows) (hp : ∃ s, s ∈ pickups rows'.progress)
    (hbefore : rows.load.status = .rateConfirmation) (hafter : rows'.load.status = .dispatched)
    (hprogress : rows'.progress = rows.progress) : Tracked rows' := by
  have hpending := h.pending (by rw [hbefore]; decide)
  refine ⟨hprogress ▸ h.sequences, hp, by rw [hafter]; decide, ?_⟩
  rw [hafter]
  refine (deriveLoadStatus_unstarted (by decide) hp (fun s hs => ?_)).symm
  exact hpending s (hprogress ▸ (mem_pickups.mp hs).1)

lemma Tracked.rederived (h : Tracked rows) (hderived : Derived rows rows')
    (hnodup : (rows'.progress.map StopProgressInput.sequence).Nodup) (hp : ∃ s, s ∈ pickups rows'.progress)
    (hpending : (∀ s ∈ pickups rows'.progress, s.status = .pending) →
      ∀ s ∈ pickups rows.progress, s.status = .pending)
    (hstandard : rows.load.status = .delivered →
      rows'.progress.filter isStandard = rows.progress.filter isStandard) : Tracked rows' := by
  obtain ⟨stops, hperm, hnext⟩ := hderived
  have hlaw := h.derived
  refine ⟨hnodup, hp, hnext ▸ derive_tracked h.status, ?_⟩
  by_cases hderivable : rows.load.status ∈ derivableStatuses
  · rw [hnext, deriveLoadStatus_perm hperm ((hperm.map _).nodup_iff.mpr hnodup)]
    apply deriveLoadStatus_started hderivable (by decide)
    by_cases hstarted : ∃ s ∈ pickups rows'.progress, s.status ≠ .pending
    · exact Or.inr hstarted
    · push Not at hstarted
      rw [deriveLoadStatus_unstarted (by decide) h.pickup (hpending hstarted)] at hlaw
      exact Or.inl hlaw
  · have hdelivered : rows.load.status = .delivered := by
      have hstatus := h.status
      simp only [trackedStatuses, derivableStatuses, List.mem_cons, List.not_mem_nil, or_false] at hstatus hderivable
      tauto
    rw [hnext, deriveLoadStatus_of_not_derivable hderivable, hlaw]
    exact (deriveLoadStatus_standard (hstandard hdelivered)).symm

def StopEvent : LoadOp → Prop
  | .recordArrival _ _ => True
  | .recordDeparture _ _ => True
  | .initiateReturn _ => True
  | _ => False

lemma Edge.not_stopEvent {op : LoadOp} {status status' : LoadStatus} (h : Edge op status status') :
    ¬ StopEvent op := by
  cases h <;> exact not_false

lemma Tracked.step (h : Tracked rows) (hop : StopEvent c.op) (hs : Served rows c rows') : Tracked rows' := by
  rcases served_cases hs with rfl | hok
  · exact h
  · have moved_step {before after} (moved : Moved rows rows' before after) (hafter : after ≠ .pending) :
        Tracked rows' :=
      h.rederived moved.derived (moved.sequences_eq ▸ h.sequences) (moved.pickup_exists h.pickup)
        (moved.pickups_pending hafter) moved.standard_eq
    cases exec_effect hok with
    | workflow edge progress =>
      exact absurd hop edge.not_stopEvent
    | unmoved status progress =>
      refine ⟨progress ▸ h.sequences, progress ▸ h.pickup, status ▸ h.status, ?_⟩
      rw [status, progress]
      exact h.derived
    | arrival _ moved => exact moved_step moved (by decide)
    | departure _ moved => exact moved_step moved (by decide)
    | edit op =>
      rw [op] at hop
      exact hop.elim
    | returned _ pair =>
      have hpickups := pickups_standard pair.standard_eq
      exact h.rederived pair.derived (pair.sequences_nodup.mpr h.sequences) (hpickups ▸ h.pickup)
        (fun hall => hpickups ▸ hall) (fun _ => pair.standard_eq)

inductive Dispatched : LoadRows → Prop
  | intro {sequences booked early before r q dto rows} (hbooked : Booked sequences booked)
    (hnodup : sequences.Nodup) (hearly : Run Served booked early before)
    (hpickup : (∀ c ∈ early, ∀ dto, c.op ≠ .updateStops dto) ∨ ∃ s, s ∈ pickups before.progress)
    (hdispatch : Call.exec ⟨r, q, .dispatch dto⟩ before = .ok rows) : Dispatched rows

lemma pickup_run (h : Run Served rows calls rows') (hp : ∃ s, s ∈ pickups rows.progress)
    (hno : ∀ c ∈ calls, ∀ dto, c.op ≠ .updateStops dto) : ∃ s, s ∈ pickups rows'.progress := by
  induction h with
  | nil => exact hp
  | cons hs _ ih =>
    obtain ⟨hop, hrest⟩ := List.forall_mem_cons.mp hno
    exact ih (pickup_step hp (fun dto hdto => absurd hdto (hop dto)) hs) hrest

lemma Fresh.pickup_exists (h : Fresh sequences rows) : ∃ s, s ∈ pickups rows.progress := by
  obtain ⟨s, hs, htype⟩ := h.pickup
  exact ⟨s, mem_pickups.mpr ⟨hs, htype, (h.stops s hs).1⟩⟩

lemma Dispatched.tracked (h : Dispatched rows) : Tracked rows := by
  obtain ⟨hbooked, hnodup, hearly, hpickup, hdispatch⟩ := h
  have hfresh := hbooked.fresh
  have hwaiting := hearly.invariant (fun _ _ _ hw hs => Waiting.step hw hs) (hfresh.waiting hnodup)
  obtain ⟨hbefore, hafter, hstops⟩ := dispatch_ok hdispatch
  have hprogress := progress_of_stops hstops
  refine hwaiting.dispatched ?_ hbefore hafter hprogress
  rw [hprogress]
  rcases hpickup with hno | hp
  · exact pickup_run hearly hfresh.pickup_exists hno
  · exact hp

lemma Tracked.run (h : Tracked rows) (hrun : Run Served rows calls rows') (hop : ∀ c ∈ calls, StopEvent c.op) :
    Tracked rows' := by
  induction hrun with
  | nil => exact h
  | cons hs _ ih =>
    obtain ⟨hc, hrest⟩ := List.forall_mem_cons.mp hop
    exact ih (h.step hc hs) hrest

def KeepsTransit (rows : LoadRows) (c : Call) : Prop :=
  ∀ dto, c.op = .updateStops dto → Named rows dto → rows.load.status = .inTransit →
    ∀ s ∈ editedStops c.request 0 dto.stops rows.stops.rows,
      s.stopType = .pickup → s.stopPurpose = .standard → s.status = .completed

def PickupsCompleted (rows : LoadRows) : Prop := ∀ s ∈ pickups rows.progress, s.status = .completed

lemma Edge.rank {op : LoadOp} {status status' : LoadStatus} (h : Edge op status status') :
    progressRank status ≤ progressRank status' ∧ status' ≠ .inTransit ∧ status' ≠ .delivered := by
  cases h with
  | closeLoad => cases status <;> simp [progressRank]
  | cancelLoad hmem =>
    simp only [LoadService.cancellableStatuses, List.mem_cons, List.not_mem_nil, or_false] at hmem
    rcases hmem with rfl | rfl | rfl | rfl <;> simp [progressRank]
  | _ => simp [progressRank]

lemma derive_rank {status : LoadStatus} {stops : List StopProgressInput}
    (h : status = .inTransit → ∀ s ∈ pickups stops, s.status = .completed) :
    progressRank status ≤ progressRank (deriveLoadStatus status stops) := by
  by_cases hderivable : status ∈ derivableStatuses
  · rw [deriveLoadStatus_eq hderivable]
    split_ifs with _ hall
    · cases status <;> simp [progressRank, derivableStatuses] at hderivable ⊢
    · cases status <;> simp [progressRank, derivableStatuses] at hderivable ⊢
    · have hne : status ≠ .inTransit := fun htransit => hall (h htransit)
      cases status <;> simp [progressRank, derivableStatuses] at hderivable hne ⊢
    · exact le_rfl
  · rw [deriveLoadStatus_of_not_derivable hderivable]

lemma pickups_perm {stops stops' : List StopProgressInput} (h : stops.Perm stops') {s : StopProgressInput} :
    s ∈ pickups stops ↔ s ∈ pickups stops' := by
  rw [mem_pickups, mem_pickups, h.mem_iff]

lemma derived_forward (h : Derived rows rows')
    (hcompleted : rows.load.status = .inTransit → PickupsCompleted rows') :
    progressRank rows.load.status ≤ progressRank rows'.load.status ∧
      (rows'.load.status = .inTransit → PickupsCompleted rows') := by
  obtain ⟨stops, hperm, hnext⟩ := h
  rw [hnext]
  refine ⟨derive_rank (fun htransit s hs => hcompleted htransit s ((pickups_perm hperm).mp hs)), fun htransit => ?_⟩
  by_cases hsame : rows.load.status = .inTransit
  · exact hcompleted hsame
  · have hderivable : rows.load.status ∈ derivableStatuses := by
      by_contra hno
      exact hsame (deriveLoadStatus_of_not_derivable hno ▸ htransit)
    exact fun s hs => pickups_of_inTransit hderivable htransit hsame s ((pickups_perm hperm).mpr hs)

/-- An IN_TRANSIT Load has no pickup left to move, so no step takes it back. -/
lemma forward_step (h : rows.load.status = .inTransit → PickupsCompleted rows) (hkeeps : KeepsTransit rows c)
    (hs : Served rows c rows') :
    progressRank rows.load.status ≤ progressRank rows'.load.status ∧
      (rows'.load.status = .inTransit → PickupsCompleted rows') := by
  rcases served_cases hs with rfl | hok
  · exact ⟨le_rfl, h⟩
  · cases exec_effect hok with
    | workflow edge _ => exact ⟨edge.rank.1, fun htransit => absurd htransit edge.rank.2.1⟩
    | unmoved status progress =>
      refine ⟨(congrArg progressRank status).ge, fun htransit => ?_⟩
      rw [PickupsCompleted, progress]
      exact h (status ▸ htransit)
    | arrival _ moved =>
      exact derived_forward moved.derived (fun htransit => moved.pickups_completed (by decide) (h htransit))
    | departure _ moved =>
      exact derived_forward moved.derived (fun htransit => moved.pickups_completed (by decide) (h htransit))
    | edit op derived stops =>
      refine derived_forward derived (fun htransit s hs => ?_)
      obtain ⟨hmem, htype, hpurpose⟩ := mem_pickups.mp hs
      obtain ⟨stop, hstop, rfl⟩ := List.mem_map.mp hmem
      exact hkeeps _ op (edit_named hok op) htransit stop (stops ▸ hstop) htype hpurpose
    | returned _ pair =>
      refine derived_forward pair.derived (fun htransit => ?_)
      rw [PickupsCompleted, pickups_standard pair.standard_eq]
      exact h htransit

lemma forward_run (hrun : Run (Guarded Served KeepsTransit) rows calls rows')
    (h : rows.load.status = .inTransit → PickupsCompleted rows) :
    progressRank rows.load.status ≤ progressRank rows'.load.status ∧
      (rows'.load.status = .inTransit → PickupsCompleted rows') := by
  induction hrun with
  | nil => exact ⟨le_rfl, h⟩
  | cons hs _ ih =>
    obtain ⟨hle, hnext⟩ := forward_step h hs.2 hs.1
    obtain ⟨hle', hlast⟩ := ih hnext
    exact ⟨hle.trans hle', hlast⟩

theorem status_never_back {calls' : List Call} (hbooked : Booked sequences rows₀)
    (hrun : Run (Guarded Served KeepsTransit) rows₀ calls rows)
    (hlater : Run (Guarded Served KeepsTransit) rows calls' rows') :
    progressRank rows.load.status ≤ progressRank rows'.load.status := by
  have hstart : rows₀.load.status = .inTransit → PickupsCompleted rows₀ := by
    rw [hbooked.fresh.status]
    intro h
    cases h
  exact (forward_run hlater (forward_run hrun hstart).2).1

theorem status_never_back_sample :
    progressRank (Sample.serve Sample.booked 2 Sample.toArrival).load.status ≤
      progressRank (Sample.serve (Sample.serve Sample.booked 2 Sample.toArrival) 7
        [Sample.edit 1 .delivery]).load.status := by
  have hno : ∀ c ∈ Sample.calls 2 Sample.toArrival, ∀ dto, c.op ≠ .updateStops dto :=
    Sample.calls_op (P := fun op => ∀ dto, op ≠ .updateStops dto) (by simp [Sample.toArrival, Sample.toRateConfirmation])
  refine status_never_back (.direct Sample.booked_eq)
    ((Sample.serve_run Sample.booked 2 Sample.toArrival).guarded (fun c hc _ dto hdto => ?_))
    (Run.single ⟨Sample.serve_one _ 7 _, fun dto hdto _ htransit => ?_⟩)
  · exact absurd hdto (hno c hc dto)
  · exact absurd htransit (by decide)

theorem status_goes_back :
    (Sample.serve Sample.dispatched 6 [.recordArrival 1 none, .recordDeparture 1 none]).load.status = .inTransit ∧
    (Sample.serve Sample.dispatched 6 [.recordArrival 1 none, .recordDeparture 1 none,
      Sample.edit 1 .pickup]).load.status = .pickup := by decide

def FinalDeliveryCompleted (rows : LoadRows) : Prop :=
  ∃ d ∈ deliveries rows.progress, d.status = .completed ∧ ∀ e ∈ deliveries rows.progress, e.sequence ≤ d.sequence

lemma derived_evidence (h : Derived rows rows') (hchanged : rows'.load.status ≠ rows.load.status) :
    (rows'.load.status = .inTransit → PickupsCompleted rows') ∧
    (rows'.load.status = .delivered → PickupsCompleted rows' ∧ FinalDeliveryCompleted rows') := by
  have hderivable : rows.load.status ∈ derivableStatuses := by
    by_contra hno
    exact hchanged (h.of_not_derivable hno)
  obtain ⟨stops, hperm, hnext⟩ := h
  rw [hnext] at hchanged ⊢
  refine ⟨fun htransit s hs => ?_, fun hdelivered => ?_⟩
  · have hnew : rows.load.status ≠ .inTransit := fun hsame => hchanged (htransit.trans hsame.symm)
    exact pickups_of_inTransit hderivable htransit hnew s ((pickups_perm hperm).mpr hs)
  · have hmem (e : StopProgressInput) : e ∈ deliveries stops ↔ e ∈ deliveries rows'.progress := by
      rw [mem_deliveries, mem_deliveries, hperm.mem_iff]
    obtain ⟨⟨d, hd, hdone⟩, hall⟩ := (deriveLoadStatus_delivered hderivable).mp hdelivered
    obtain ⟨hdmem, hmax⟩ := finalDelivery_some hd
    refine ⟨fun s hs => hall s ((pickups_perm hperm).mpr hs), d, (hmem d).mp hdmem, hdone, fun e he => ?_⟩
    exact hmax e ((hmem e).mpr he)

lemma evidence_step (hs : Served rows c rows') (hchanged : rows'.load.status ≠ rows.load.status) :
    (rows'.load.status = .inTransit → PickupsCompleted rows') ∧
    (rows'.load.status = .delivered → PickupsCompleted rows' ∧ FinalDeliveryCompleted rows') := by
  rcases served_cases hs with rfl | hok
  · exact absurd rfl hchanged
  · cases exec_effect hok with
    | workflow edge _ =>
      obtain ⟨_, htransit, hdelivered⟩ := edge.rank
      exact ⟨fun h => absurd h htransit, fun h => absurd h hdelivered⟩
    | unmoved status _ => exact absurd status hchanged
    | arrival _ moved => exact derived_evidence moved.derived hchanged
    | departure _ moved => exact derived_evidence moved.derived hchanged
    | edit _ derived _ => exact derived_evidence derived hchanged
    | returned _ pair => exact derived_evidence pair.derived hchanged

theorem status_rests_on_evidence (hbooked : Booked sequences rows₀)
    (hrun : Run (Guarded Served KeepsPickup) rows₀ calls rows) (hs : Guarded Served KeepsPickup rows c rows')
    (hchanged : rows'.load.status ≠ rows.load.status) :
    (rows'.load.status = .inTransit → (∃ s, s ∈ pickups rows'.progress) ∧ PickupsCompleted rows') ∧
    (rows'.load.status = .delivered →
      (∃ s, s ∈ pickups rows'.progress) ∧ PickupsCompleted rows' ∧ FinalDeliveryCompleted rows') := by
  have hpickup : ∃ s, s ∈ pickups rows.progress :=
    hrun.invariant (P := fun rows => ∃ s, s ∈ pickups rows.progress)
      (fun _ _ _ hp hs => pickup_step hp hs.2 hs.1) hbooked.fresh.pickup_exists
  have hpickup' := pickup_step hpickup hs.2 hs.1
  obtain ⟨htransit, hdelivered⟩ := evidence_step hs.1 hchanged
  exact ⟨fun h => ⟨hpickup', htransit h⟩, fun h => ⟨hpickup', hdelivered h⟩⟩

theorem status_rests_on_evidence_sample :
    (∃ s, s ∈ pickups (Sample.serve (Sample.serve Sample.booked 2 Sample.toArrival) 7
      [.recordDeparture 1 none]).progress) ∧
    PickupsCompleted (Sample.serve (Sample.serve Sample.booked 2 Sample.toArrival) 7 [.recordDeparture 1 none]) := by
  have hno : ∀ c ∈ Sample.calls 2 Sample.toArrival, ∀ dto, c.op ≠ .updateStops dto :=
    Sample.calls_op (P := fun op => ∀ dto, op ≠ .updateStops dto) (by simp [Sample.toArrival, Sample.toRateConfirmation])
  have hevidence := status_rests_on_evidence (.direct Sample.booked_eq)
    ((Sample.serve_run Sample.booked 2 Sample.toArrival).guarded
      (fun c hc _ dto hdto => absurd hdto (hno c hc dto)))
    ⟨Sample.serve_one _ 7 (.recordDeparture 1 none), fun _ hdto => LoadOp.noConfusion hdto⟩ (by decide)
  exact hevidence.1 (by decide)

theorem transit_without_pickup :
    Sample.dispatched.load.status = .dispatched ∧
    (Sample.serve Sample.dispatched 6 [Sample.edit 0 .other]).load.status = .inTransit ∧
    pickups (Sample.serve Sample.dispatched 6 [Sample.edit 0 .other]).progress = [] := by decide

end Truckmaster.QuoteLoad
