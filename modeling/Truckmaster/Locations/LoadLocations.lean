import Truckmaster.Locations.LocationResolution

namespace Truckmaster.Locations

open Common Fallible Tables QuoteLoad JobQueues Runs DispatchTracking

def ResolvedLocation.point (found : ResolvedLocation) : ℤ × ℤ := (found.lat, found.lng)

def pointOf (resolve : Resolver) (city state : Option String) : Option (ℤ × ℤ) := do
  let c ← present city
  let s ← present state
  (resolve c s).map ResolvedLocation.point

def LocationResolutionJobData.point (resolve : Resolver) (data : LocationResolutionJobData) : Option (ℤ × ℤ) :=
  (resolve data.city data.state).map ResolvedLocation.point

namespace LocationState

variable {resolve : Resolver} {s s' : LocationState} {id : Uuid} {j : Job LocationResolutionJobData} {p : Option (ℤ × ℤ)}

def Shows (s : LocationState) (p : Option (ℤ × ℤ)) : Prop :=
  s.currentLocationLat = p.map Prod.fst ∧ s.currentLocationLng = p.map Prod.snd

def target (resolve : Resolver) (s : LocationState) : Option (ℤ × ℤ) :=
  pointOf resolve s.rows.load.currentLocationCity s.rows.load.currentLocationState

def LocationCoherent (resolve : Resolver) (s : LocationState) : Prop := s.Shows (s.target resolve)

def PendingAt (s : LocationState) (time : Option Instant) (id : Uuid) (j : Job LocationResolutionJobData) : Prop :=
  s.queue (.checkCall, id) = some j ∧ j.pending = true ∧ j.data.asOfLoadUpdatedAt.isSome ∧ j.data.asOfLoadUpdatedAt = time

/-- Each job that may still write the Load has the point `p` or none, and `p` is stored or some job has it. -/
structure Leads (resolve : Resolver) (s : LocationState) (time : Option Instant) (p : Option (ℤ × ℤ)) : Prop where
  fits : ∀ id j, s.PendingAt time id j → j.data.point resolve = none ∨ j.data.point resolve = p
  ready : s.Shows p ∨ p ≠ none ∧ ∃ id j, s.PendingAt time id j ∧ j.data.point resolve = p

def Settled (resolve : Resolver) (s : LocationState) : Prop :=
  s.Leads resolve s.rows.load.currentLocationUpdatedAt (s.target resolve)

def Recorded (s : LocationState) : Prop :=
  ∀ id, s.queue (.checkCall, id) ≠ none → ∃ c ∈ s.rows.checkCalls, c.id = id

/-- A check call names a city and a state that the resolver knows, or a place whose point the Load shows already, and
no pending job of the same millisecond has another point; and the queue gives no job up while the Load needs its
point. -/
def KeepsLocation (resolve : Resolver) (s : LocationState) : LocationEvent → Prop
  | .logCheckCall key q dto => ∀ snapshot ∈ s.reading key,
    snapshot.load.status ∈ DispatchTrackingService.postDispatchStatuses →
    let p := pointOf resolve (dto.locationCity.or snapshot.load.currentLocationCity)
      (dto.locationState.or snapshot.load.currentLocationState)
    (∀ id j, s.PendingAt (some q.now) id j → j.data.point resolve = none ∨ j.data.point resolve = p) ∧
      (s.Shows p ∨ p ≠ none ∧ ((present dto.locationCity).isSome ∧ (present dto.locationState).isSome ∨
        ∃ id j, s.PendingAt (some q.now) id j ∧ j.data.point resolve = p))
  | .job (.checkCall, id) m _ => ∀ j, s.queue (.checkCall, id) = some j → j.status = .active →
    j.givesUp attempts m = true →
    s.Shows (s.target resolve) ∨ s.target resolve ≠ none ∧
      ∃ other j', other ≠ id ∧ s.PendingAt s.rows.load.currentLocationUpdatedAt other j' ∧
        j'.data.point resolve = s.target resolve
  | _ => True

lemma Leads.shows_of_quiet {time : Option Instant} (h : s.Leads resolve time p)
    (hquiet : ∀ id, ¬ s.queue.Pending (.checkCall, id)) : s.Shows p := by
  rcases h.ready with hshows | ⟨_, id, j, ⟨hj, hpending, _⟩, _⟩
  · exact hshows
  · exact absurd ⟨j, hj, hpending⟩ (hquiet id)

structure SameLocation (s s' : LocationState) : Prop where
  queue : ∀ id, s'.queue (.checkCall, id) = s.queue (.checkCall, id)
  lat : s'.currentLocationLat = s.currentLocationLat
  lng : s'.currentLocationLng = s.currentLocationLng
  city : s'.rows.load.currentLocationCity = s.rows.load.currentLocationCity
  state : s'.rows.load.currentLocationState = s.rows.load.currentLocationState
  updatedAt : s'.rows.load.currentLocationUpdatedAt = s.rows.load.currentLocationUpdatedAt
  checkCalls : s'.rows.checkCalls = s.rows.checkCalls

lemma SameLocation.settled (h : SameLocation s s') (hs : s.Settled resolve) : s'.Settled resolve := by
  have htarget : s'.target resolve = s.target resolve := by
    unfold target
    rw [h.city, h.state]
  have hpending (time : Option Instant) (id : Uuid) (j : Job LocationResolutionJobData) :
      s'.PendingAt time id j ↔ s.PendingAt time id j := by
    unfold PendingAt
    rw [h.queue]
  have hshows (p : Option (ℤ × ℤ)) : s'.Shows p ↔ s.Shows p := by
    unfold Shows
    rw [h.lat, h.lng]
  unfold Settled at hs ⊢
  rw [htarget, h.updatedAt]
  refine ⟨fun id j hj => hs.fits id j ((hpending _ _ _).mp hj), ?_⟩
  simpa only [hpending, hshows] using hs.ready

lemma SameLocation.recorded (h : SameLocation s s') (hs : s.Recorded) : s'.Recorded := by
  intro id hid
  rw [h.queue] at hid
  rw [h.checkCalls]
  exact hs id hid

lemma updateStops_same (q : Request) (dto : UpdateStopsInput) : SameLocation s (s.updateStops q dto) := by
  unfold updateStops
  split
  · exact ⟨fun _ => rfl, rfl, rfl, rfl, rfl, rfl, rfl⟩
  · next rows hrows =>
    obtain ⟨status, hload, hcheckCalls⟩ := DispatchTrackingService.updateStops_load hrows
    refine ⟨fun id => Queue.foldl_add_other ?_, rfl, rfl, by rw [hload], by rw [hload], by rw [hload], hcheckCalls⟩
    intro job hjob
    obtain ⟨change, _, rfl⟩ := List.mem_map.mp hjob
    simp

lemma checkCallJob_eq {q : Request} {dto : LogCheckCallInput} {data : LocationResolutionJobData}
    (h : checkCallJob q dto = some data) (city state : Option String) :
    data.asOfLoadUpdatedAt = some q.now ∧
      data.point resolve = pointOf resolve (dto.locationCity.or city) (dto.locationState.or state) := by
  simp only [checkCallJob, Option.bind_eq_bind, Option.bind_eq_some_iff, Option.some.injEq] at h
  obtain ⟨c, hc, s, hs, rfl⟩ := h
  obtain ⟨hcity, _⟩ := Option.filter_eq_some_iff.mp hc
  obtain ⟨hstate, _⟩ := Option.filter_eq_some_iff.mp hs
  refine ⟨rfl, ?_⟩
  rw [hcity] at hc
  rw [hstate] at hs
  simp [pointOf, LocationResolutionJobData.point, hcity, hstate, hc, hs]

lemma enqueue_other {queue : Queue JobId LocationResolutionJobData} {job : JobId} {other : JobId}
    {data : Option LocationResolutionJobData} (h : other ≠ job) :
    enqueueLocationResolution queue job data other = queue other := by
  cases data with
  | none => rfl
  | some data => exact Queue.add_other h

lemma enqueue_free {queue : Queue JobId LocationResolutionJobData} {job : JobId}
    {data : Option LocationResolutionJobData} (h : queue job = none) :
    enqueueLocationResolution queue job data job = data.map (fun d => { data := d }) := by
  cases data with
  | none => exact h
  | some data => simp [enqueueLocationResolution, Queue.add_free h]

lemma logCheckCall_recorded {q : Request} {dto : LogCheckCallInput} {snapshot : LoadRows} (hs : s.Recorded) :
    (s.logCheckCall q dto snapshot).Recorded := by
  unfold logCheckCall
  split
  · exact hs
  · next written hwritten =>
    obtain ⟨_, _, _, _, c, hlast, hc⟩ := DispatchTrackingService.logCheckCall_location hwritten
    split
    · exact hs
    · intro id hid
      by_cases hnew : id = q.uuid 0
      · exact ⟨c, by simp [writeCheckCall, hlast], hc.trans hnew.symm⟩
      · have hold : s.queue (.checkCall, id) ≠ none := by
          dsimp only at hid
          rwa [enqueue_other (by simpa using hnew)] at hid
        obtain ⟨c', hc', hid'⟩ := hs id hold
        exact ⟨c', List.mem_append_left _ hc', hid'⟩

lemma logCheckCall_settled {key : ℕ} {q : Request} {dto : LogCheckCallInput} {snapshot : LoadRows} (hr : s.Recorded)
    (hs : s.Settled resolve) (hsnapshot : s.reading key = some snapshot)
    (h : KeepsLocation resolve s (.logCheckCall key q dto)) : (s.logCheckCall q dto snapshot).Settled resolve := by
  unfold logCheckCall
  split
  · exact hs
  next written hwritten =>
  obtain ⟨hstatus, hcity, hstate, hnow, c, hlast, hc⟩ := DispatchTrackingService.logCheckCall_location hwritten
  obtain ⟨hfits, hready⟩ := h snapshot hsnapshot hstatus
  split
  · exact hs
  next hfresh =>
  have hfree : s.queue (.checkCall, q.uuid 0) = none := by
    by_contra hid
    obtain ⟨c', hc', hid'⟩ := hr _ hid
    exact hfresh (List.any_eq_true.mpr ⟨c', hc', by simpa using hid'⟩)
  have htarget : ∀ queue, LocationState.target resolve { s with rows := writeCheckCall s.rows written, queue } =
      pointOf resolve (dto.locationCity.or snapshot.load.currentLocationCity)
        (dto.locationState.or snapshot.load.currentLocationState) := by
    intro queue
    simp only [target, writeCheckCall, hcity, hstate]
  unfold Settled
  rw [htarget]
  simp only [writeCheckCall, hnow]
  -- a pending job of this millisecond is one from before or the call's own
  have hold : ∀ id j, s.PendingAt (some q.now) id j →
      enqueueLocationResolution s.queue (.checkCall, q.uuid 0) (checkCallJob q dto) (.checkCall, id) = some j := by
    intro id j hj
    have hne : id ≠ q.uuid 0 := by
      rintro rfl
      rw [hj.1] at hfree
      cases hfree
    rw [enqueue_other (by simpa using hne), hj.1]
  constructor
  · rintro id j ⟨hj, hpending, hsome, htime⟩
    by_cases hid : id = q.uuid 0
    · subst hid
      dsimp only at hj
      rw [enqueue_free hfree, Option.map_eq_some_iff] at hj
      obtain ⟨data, hdata, rfl⟩ := hj
      exact .inr (checkCallJob_eq hdata _ _).2
    · dsimp only at hj
      rw [enqueue_other (by simpa using hid)] at hj
      exact hfits id j ⟨hj, hpending, hsome, htime⟩
  · rcases hready with hshows | ⟨hknown, ⟨hc, hst⟩ | ⟨id, j, hj, hpoint⟩⟩
    · exact .inl hshows
    · right
      obtain ⟨city, hcity'⟩ := Option.isSome_iff_exists.mp hc
      obtain ⟨state, hstate'⟩ := Option.isSome_iff_exists.mp hst
      have hdata : checkCallJob q dto = some ⟨city, state, some q.now⟩ := by simp [checkCallJob, hcity', hstate']
      refine ⟨hknown, q.uuid 0, { data := ⟨city, state, some q.now⟩ }, ⟨?_, rfl, rfl, rfl⟩, (checkCallJob_eq hdata _ _).2⟩
      simp only [enqueue_free hfree, hdata, Option.map_some]
    · exact .inr ⟨hknown, id, j, ⟨hold id j hj, hj.2⟩, hpoint⟩

lemma processJob_checkCall (data : LocationResolutionJobData) (now : Instant) :
    (s.processJob resolve (.checkCall, id) data now).rows = s.rows ∧
      ((s.processJob resolve (.checkCall, id) data now).Shows p ↔
        if data.asOfLoadUpdatedAt.isSome ∧ s.rows.load.currentLocationUpdatedAt = data.asOfLoadUpdatedAt ∧
          data.point resolve ≠ none then data.point resolve = p else s.Shows p) := by
  unfold processJob applyToCheckCall LocationResolutionJobData.point
  cases hfound : resolve data.city data.state with
  | none => simp [Shows]
  | some found =>
    dsimp only
    split
    · next hlast =>
      refine ⟨rfl, ?_⟩
      simp only [hlast, Shows]
      cases p with
      | none => simp
      | some p => simp [Prod.ext_iff, ResolvedLocation.point]
    · next hlast =>
      refine ⟨rfl, ?_⟩
      rw [if_neg (fun h => hlast ⟨h.1, h.2.1⟩)]
      rfl

lemma processJob_keeps {now : Instant} (hs : s.Settled resolve) (hj : s.queue (.checkCall, id) = some j)
    (hpending : j.pending = true) (hshows : s.Shows (s.target resolve)) :
    (s.processJob resolve (.checkCall, id) j.data now).Shows (s.target resolve) := by
  rw [(processJob_checkCall j.data now).2]
  split
  · next hlast =>
    obtain ⟨hsome, htime, hpoint⟩ := hlast
    exact (hs.fits id j ⟨hj, hpending, hsome, htime.symm⟩).resolve_left hpoint
  · exact hshows

lemma processJob_shows {now : Instant} (hj : s.PendingAt s.rows.load.currentLocationUpdatedAt id j)
    (hpoint : j.data.point resolve = s.target resolve) (hknown : s.target resolve ≠ none) :
    (s.processJob resolve (.checkCall, id) j.data now).Shows (s.target resolve) := by
  obtain ⟨_, _, hsome, htime⟩ := hj
  rw [(processJob_checkCall j.data now).2, if_pos ⟨hsome, htime.symm, hpoint ▸ hknown⟩]
  exact hpoint

lemma job_settled {m : Move} {now : Instant} {job : Option (Job LocationResolutionJobData)} (hs : s.Settled resolve)
    (hj : s.queue (.checkCall, id) = some j) (hmove : j.move attempts m = some job)
    (h : KeepsLocation resolve s (.job (.checkCall, id) m now)) :
    Settled resolve { (if m.works then s.processJob resolve (.checkCall, id) j.data now else s) with
      queue := Function.update s.queue (.checkCall, id) job } := by
  set base := if m.works then s.processJob resolve (.checkCall, id) j.data now else s with hbase
  have hrows : base.rows = s.rows := by
    rw [hbase]
    split
    · exact (processJob_checkCall (p := none) j.data now).1
    · rfl
  have hkeeps (hpending : j.pending = true) (hshows : s.Shows (s.target resolve)) : base.Shows (s.target resolve) := by
    rw [hbase]
    split
    · exact processJob_keeps hs hj hpending hshows
    · exact hshows
  -- the pending jobs of other check calls are the same
  have hother (time : Option Instant) (other : Uuid) (j' : Job LocationResolutionJobData) (hne : other ≠ id) :
      PendingAt { base with queue := Function.update s.queue (.checkCall, id) job } time other j' ↔
        s.PendingAt time other j' := by
    unfold PendingAt
    dsimp only
    rw [Function.update_of_ne (by simpa using hne)]
  unfold Settled
  have htarget : target resolve { base with queue := Function.update s.queue (.checkCall, id) job } = s.target resolve := by
    unfold target
    dsimp only
    rw [hrows]
  rw [htarget]
  dsimp only
  rw [hrows]
  obtain ⟨j', rfl, hdata, hpending, hpending'⟩ | ⟨j', rfl, hdata, hpending, hdone, hcause⟩ | ⟨rfl, hpending, rfl⟩ :=
    Job.move_cases hmove
  · have hsame (time : Option Instant) (j'' : Job LocationResolutionJobData) :
        PendingAt { base with queue := Function.update s.queue (.checkCall, id) (some j') } time id j'' →
          j'' = j' ∧ s.PendingAt time id j := by
      rintro ⟨hj'', _, hsome, htime⟩
      obtain rfl : j' = j'' := by simpa using hj''
      exact ⟨rfl, hj, hpending, hdata ▸ hsome, hdata ▸ htime⟩
    constructor
    · intro other j'' hpend
      by_cases hid : other = id
      · subst hid
        obtain ⟨rfl, hold⟩ := hsame _ _ hpend
        exact hdata ▸ hs.fits other j hold
      · exact hs.fits other j'' ((hother _ _ _ hid).mp hpend)
    · rcases hs.ready with hshows | ⟨hknown, other, j'', hpend, hpoint⟩
      · exact .inl (hkeeps hpending hshows)
      · refine .inr ⟨hknown, other, ?_⟩
        by_cases hid : other = id
        · subst hid
          obtain rfl : j = j'' := Option.some.inj (hj.symm.trans hpend.1)
          obtain ⟨_, _, hsome, htime⟩ := hpend
          exact ⟨j', ⟨by simp, hpending', hdata ▸ hsome, hdata ▸ htime⟩, hdata ▸ hpoint⟩
        · exact ⟨j'', (hother _ _ _ hid).mpr hpend, hpoint⟩
  · -- the job has ended, so it is no longer pending
    have hfits : ∀ other j'', PendingAt { base with queue := Function.update s.queue (.checkCall, id) (some j') }
        s.rows.load.currentLocationUpdatedAt other j'' →
        j''.data.point resolve = none ∨ j''.data.point resolve = s.target resolve := by
      intro other j'' hpend
      by_cases hid : other = id
      · subst hid
        obtain ⟨hj'', hpend', _⟩ := hpend
        obtain rfl : j' = j'' := by simpa using hj''
        rw [hdone] at hpend'
        cases hpend'
      · exact hs.fits other j'' ((hother _ _ _ hid).mp hpend)
    refine ⟨hfits, ?_⟩
    rcases hcause with hworks | ⟨_, hover⟩
    · rcases hs.ready with hshows | ⟨hknown, other, j'', hpend, hpoint⟩
      · exact .inl (hkeeps hpending hshows)
      · by_cases hid : other = id
        · subst hid
          obtain rfl : j = j'' := Option.some.inj (hj.symm.trans hpend.1)
          rw [hbase, if_pos hworks]
          exact .inl (processJob_shows hpend hpoint hknown)
        · exact .inr ⟨hknown, other, j'', (hother _ _ _ hid).mpr hpend, hpoint⟩
    · rcases h j hj (Job.move_givesUp hmove hover) hover with hshows | ⟨hknown, other, j'', hne, hpend, hpoint⟩
      · exact .inl (hkeeps hpending hshows)
      · exact .inr ⟨hknown, other, j'', (hother _ _ _ hne).mpr hpend, hpoint⟩
  · have hne : ∀ other j'', PendingAt { base with queue := Function.update s.queue (.checkCall, id) none }
        s.rows.load.currentLocationUpdatedAt other j'' → other ≠ id := by
      rintro other j'' ⟨hj'', _⟩ rfl
      simp at hj''
    constructor
    · intro other j'' hpend
      exact hs.fits other j'' ((hother _ _ _ (hne _ _ hpend)).mp hpend)
    · rcases hs.ready with hshows | ⟨hknown, other, j'', hpend, hpoint⟩
      · exact .inl hshows
      · refine .inr ⟨hknown, other, j'', (hother _ _ _ ?_).mpr hpend, hpoint⟩
        rintro rfl
        obtain rfl : j = j'' := Option.some.inj (hj.symm.trans hpend.1)
        rw [hpend.2.1] at hpending
        cases hpending

lemma readLoad_same (key : ℕ) : SameLocation s (s.next resolve (.readLoad key)) :=
  ⟨fun _ => rfl, rfl, rfl, rfl, rfl, rfl, rfl⟩

lemma closed_same (reading : ℕ → Option LoadRows) : SameLocation s { s with reading } :=
  ⟨fun _ => rfl, rfl, rfl, rfl, rfl, rfl, rfl⟩

lemma stopJob_same (data : LocationResolutionJobData) (m : Move) (now : Instant)
    (job : Option (Job LocationResolutionJobData)) :
    SameLocation s { (if m.works then s.processJob resolve (.stop, id) data now else s) with
      queue := Function.update s.queue (.stop, id) job } := by
  have hqueue (other : Uuid) : Function.update s.queue (.stop, id) job (.checkCall, other) = s.queue (.checkCall, other) :=
    Function.update_of_ne (by simp) _ _
  refine ⟨hqueue, ?_, ?_, ?_, ?_, ?_, ?_⟩ <;> (dsimp only; split <;> rfl)

lemma next_recorded {e : LocationEvent} (hr : s.Recorded) : (s.next resolve e).Recorded := by
  cases e with
  | readLoad key => exact (readLoad_same key).recorded hr
  | logCheckCall key q dto =>
    unfold next
    dsimp only
    split
    · exact hr
    · exact (closed_same _).recorded (logCheckCall_recorded hr)
  | updateStops q dto => exact (updateStops_same q dto).recorded hr
  | job id m now =>
    unfold next
    dsimp only
    split
    · exact hr
    next j hj =>
    split
    · exact hr
    next job _ =>
    obtain ⟨entity, id⟩ := id
    cases entity with
    | stop => exact (stopJob_same j.data m now job).recorded hr
    | checkCall =>
      intro other hother
      have hrows : (if m.works then s.processJob resolve (.checkCall, id) j.data now else s).rows = s.rows := by
        split
        · exact (processJob_checkCall (p := none) j.data now).1
        · rfl
      dsimp only
      rw [hrows]
      refine hr other ?_
      by_cases hid : other = id
      · subst hid
        rw [hj]
        simp
      · dsimp only at hother
        rwa [Function.update_of_ne (by simpa using hid)] at hother

lemma next_settled {e : LocationEvent} (hr : s.Recorded) (hs : s.Settled resolve) (h : KeepsLocation resolve s e) :
    (s.next resolve e).Settled resolve := by
  cases e with
  | readLoad key => exact (readLoad_same key).settled hs
  | logCheckCall key q dto =>
    unfold next
    dsimp only
    split
    · exact hs
    next snapshot hsnapshot => exact (closed_same _).settled (logCheckCall_settled hr hs hsnapshot h)
  | updateStops q dto => exact (updateStops_same q dto).settled hs
  | job id m now =>
    unfold next
    dsimp only
    split
    · exact hs
    next j hj =>
    split
    · exact hs
    next job hmove =>
    obtain ⟨entity, id⟩ := id
    cases entity with
    | stop => exact (stopJob_same j.data m now job).settled hs
    | checkCall => exact job_settled hs hj hmove h

structure Unlocated (s : LocationState) : Prop where
  city : s.rows.load.currentLocationCity = none
  state : s.rows.load.currentLocationState = none
  lat : s.currentLocationLat = none
  lng : s.currentLocationLng = none
  queue : ∀ id, s.queue (.checkCall, id) = none

lemma Unlocated.recorded (h : s.Unlocated) : s.Recorded := fun id hid => absurd (h.queue id) hid

lemma Unlocated.settled (h : s.Unlocated) : s.Settled resolve := by
  constructor
  · intro id j hj
    have hnone := hj.1
    rw [h.queue] at hnone
    cases hnone
  · left
    simp [Shows, target, pointOf, present, h.city, h.lat, h.lng]

end LocationState

theorem load_location_coherent (resolve : Resolver) {start s : LocationState} (hstart : start.Unlocated)
    {es : List LocationEvent}
    (h : Run (Guarded (Total (LocationState.next resolve)) (LocationState.KeepsLocation resolve)) start es s)
    (hquiet : ∀ id, ¬ s.queue.Pending (.checkCall, id)) : s.LocationCoherent resolve := by
  have hsettled := h.invariant (P := fun s => s.Recorded ∧ s.Settled resolve)
    (fun s e t hs he => by
      obtain ⟨rfl, hguard⟩ := he
      exact ⟨LocationState.next_recorded hs.1, LocationState.next_settled hs.1 hs.2 hguard⟩)
    ⟨hstart.recorded, hstart.settled⟩
  exact hsettled.2.shows_of_quiet hquiet

namespace Sample

def resolve (city state : String) : Option ResolvedLocation :=
  if city = "Dallas" ∧ state = "TX" then some ⟨32783060, -96806670, "census-gazetteer"⟩
  else if city = "Tulsa" ∧ state = "OK" then some ⟨36154000, -95993000, "census-gazetteer"⟩
  else none

def onTheRoad : LocationState := { rows := QuoteLoad.Sample.dispatched }

lemma onTheRoad_unlocated : onTheRoad.Unlocated :=
  ⟨by decide +kernel, by decide +kernel, rfl, rfl, fun _ => rfl⟩

def seen (city state : Option String) : LogCheckCallInput where
  contactMethod := "Phone"
  personContacted := "Driver"
  locationCity := city
  locationState := state
  onTimeStatus := .onTime

def checkCall (key n : ℕ) (city state : Option String) : List LocationEvent :=
  [.readLoad key, .logCheckCall key (QuoteLoad.Sample.request n) (seen city state)]

def resolved (n : ℕ) : List LocationEvent := [.job (.checkCall, 100 * n) .start n, .job (.checkCall, 100 * n) .complete n]

def after (es : List LocationEvent) : LocationState := es.foldl (LocationState.next resolve) onTheRoad

lemma after_recorded (es : List LocationEvent) : (after es).Recorded :=
  (run_total _ _ es).invariant
    (fun s e t (hs : s.Recorded) (he : LocationState.next resolve s e = t) => he ▸ LocationState.next_recorded hs)
    onTheRoad_unlocated.recorded

lemma quiet {es : List LocationEvent}
    (h : ∀ c ∈ (after es).rows.checkCalls, ((after es).queue (.checkCall, c.id)).all (fun j => !j.pending) = true)
    (id : Uuid) : ¬ (after es).queue.Pending (.checkCall, id) := by
  rintro ⟨j, hj, hpending⟩
  obtain ⟨c, hc, rfl⟩ := after_recorded es id (by rw [hj]; simp)
  exact Queue.not_pending_of_all (h c hc) ⟨j, hj, hpending⟩

lemma untimed {es : List LocationEvent} {n : Instant}
    (h : ∀ c ∈ (after es).rows.checkCalls,
      ((after es).queue (.checkCall, c.id)).all (fun j => j.data.asOfLoadUpdatedAt != some n) = true)
    {id : Uuid} {j : Job LocationResolutionJobData} : ¬ (after es).PendingAt (some n) id j := by
  rintro ⟨hj, _, _, htime⟩
  obtain ⟨c, hc, rfl⟩ := after_recorded es id (by rw [hj]; simp)
  have hother := h c hc
  rw [hj] at hother
  simp [htime] at hother

lemma run_after {es : List LocationEvent} {e : LocationEvent}
    (h : Run (Guarded (Runs.Total (LocationState.next resolve)) (LocationState.KeepsLocation resolve)) onTheRoad es (after es))
    (he : LocationState.KeepsLocation resolve (after es) e) :
    Run (Guarded (Runs.Total (LocationState.next resolve)) (LocationState.KeepsLocation resolve)) onTheRoad (es ++ [e])
      (after (es ++ [e])) := run_total_snoc h he

lemma seen_keeps {es : List LocationEvent} (key n : ℕ) (city state : String)
    (hfresh : ∀ c ∈ (after es).rows.checkCalls,
      ((after es).queue (.checkCall, c.id)).all (fun j => j.data.asOfLoadUpdatedAt != some (n : Instant)) = true)
    (hplace : city ≠ "" ∧ state ≠ "" ∧ (resolve city state).isSome) :
    LocationState.KeepsLocation resolve (after es)
      (.logCheckCall key (QuoteLoad.Sample.request n) (seen (some city) (some state))) := by
  obtain ⟨hcity, hstate, hknown⟩ := hplace
  have hpresent : present (some city) = some city ∧ present (some state) = some state := by
    simp [present, hcity, hstate]
  rintro snapshot _ _
  refine ⟨fun id j hj => absurd hj (untimed hfresh), .inr ⟨?_, .inl ?_⟩⟩
  · simpa [seen, pointOf, hpresent] using Option.isSome_iff_ne_none.mp hknown
  · simp [seen, hpresent]

lemma carries_on {es : List LocationEvent} {id : Uuid} {m : Move} {now : Instant}
    (h : ∀ j ∈ (after es).queue (.checkCall, id), j.givesUp attempts m = false) :
    LocationState.KeepsLocation resolve (after es) (.job (.checkCall, id) m now) := by
  intro j hj _ hover
  rw [h j hj] at hover
  cases hover

def retried : List LocationEvent :=
  [.job (.checkCall, 2000) .start 20, .job (.checkCall, 2000) .fail 20, .job (.checkCall, 2000) .wake 21,
    .job (.checkCall, 2000) .start 21, .job (.checkCall, 2000) (.stall false) 21]

def outOfOrder : List LocationEvent :=
  checkCall 0 20 (some "Dallas") (some "TX") ++ retried ++ checkCall 0 22 (some "Tulsa") (some "OK") ++ resolved 22 ++ resolved 20

def unknownPlace : List LocationEvent :=
  checkCall 0 20 (some "Dallas") (some "TX") ++ resolved 20 ++ checkCall 0 22 (some "Nowhere") (some "ZZ") ++ resolved 22

def withoutPlace : List LocationEvent :=
  checkCall 0 20 (some "Dallas") (some "TX") ++ checkCall 0 22 none none ++ resolved 20

end Sample

open Sample in
theorem load_location_coherent_sample :
    (after outOfOrder).LocationCoherent resolve ∧ (after outOfOrder).currentLocationLat = some 36154000 := by
  have hfirst := run_after (.nil onTheRoad) (e := .readLoad 0) trivial
  have hdallas := run_after hfirst (seen_keeps 0 20 "Dallas" "TX" (by decide +kernel) (by decide +kernel))
  have hstart := run_after hdallas (e := .job (.checkCall, 2000) .start 20) (carries_on fun _ _ => rfl)
  have hfail := run_after hstart (e := .job (.checkCall, 2000) .fail 20) (carries_on (by decide +kernel))
  have hwake := run_after hfail (e := .job (.checkCall, 2000) .wake 21) (carries_on fun _ _ => rfl)
  have hagain := run_after hwake (e := .job (.checkCall, 2000) .start 21) (carries_on fun _ _ => rfl)
  have hstall := run_after hagain (e := .job (.checkCall, 2000) (.stall false) 21) (carries_on (by decide +kernel))
  have hread := run_after hstall (e := .readLoad 0) trivial
  have htulsa := run_after hread (seen_keeps 0 22 "Tulsa" "OK" (by decide +kernel) (by decide +kernel))
  have hstart' := run_after htulsa (e := .job (.checkCall, 2200) .start 22) (carries_on fun _ _ => rfl)
  have hdone' := run_after hstart' (e := .job (.checkCall, 2200) .complete 22) (carries_on fun _ _ => rfl)
  have hstart'' := run_after hdone' (e := .job (.checkCall, 2000) .start 20) (carries_on fun _ _ => rfl)
  have hdone'' := run_after hstart'' (e := .job (.checkCall, 2000) .complete 20) (carries_on fun _ _ => rfl)
  have hidle : ∀ id, ¬ (after outOfOrder).queue.Pending (.checkCall, id) := quiet (by decide +kernel)
  exact ⟨load_location_coherent resolve onTheRoad_unlocated hdone'' hidle, by decide +kernel⟩

open Sample in
theorem location_outdated :
    ((∀ id, ¬ (after unknownPlace).queue.Pending (.checkCall, id)) ∧
      (after unknownPlace).rows.load.currentLocationCity = some "Nowhere" ∧
      (after unknownPlace).currentLocationLat = some 32783060 ∧ (after unknownPlace).target resolve = none) ∧
    (∀ id, ¬ (after withoutPlace).queue.Pending (.checkCall, id)) ∧
      (after withoutPlace).rows.load.currentLocationCity = some "Dallas" ∧
      (after withoutPlace).currentLocationLat = none ∧
      (after withoutPlace).target resolve = some (32783060, -96806670) :=
  ⟨⟨quiet (by decide +kernel), by decide +kernel⟩, quiet (by decide +kernel), by decide +kernel⟩

end Truckmaster.Locations
