import Truckmaster.Locations.LoadLocations

namespace Truckmaster.Locations

open Common Fallible Tables QuoteLoad JobQueues Runs DispatchTracking DispatchTrackingService

section Stops

variable {resolve : Resolver} {s s' : LocationState} {j : Job LocationResolutionJobData} {p : Option (ℤ × ℤ)}

def stopPoint (resolve : Resolver) (stop : Stop) : Option (ℤ × ℤ) :=
  (resolve stop.city stop.state).map ResolvedLocation.point

namespace Resolution

structure Blank (r : Resolution) : Prop where
  lat : r.resolvedLat = none
  lng : r.resolvedLng = none

structure Shows (r : Resolution) (p : Option (ℤ × ℤ)) : Prop where
  lat : r.resolvedLat = p.map Prod.fst
  lng : r.resolvedLng = p.map Prod.snd
  status : r.resolutionStatus = if p.isSome then .resolvedDataset else .unresolved

lemma apply_shows {resolved : Option ResolvedLocation} {now : Instant} {r : Resolution}
    (h : resolved = none → r.Blank) : (r.apply resolved now).Shows (resolved.map ResolvedLocation.point) := by
  cases resolved with
  | none => exact ⟨(h rfl).lat, (h rfl).lng, rfl⟩
  | some found => exact ⟨rfl, rfl, rfl⟩

lemma Shows.blank {r : Resolution} (h : r.Shows none) : r.Blank := ⟨h.lat, h.lng⟩

end Resolution

namespace LocationState

def StopSettled (resolve : Resolver) (s : LocationState) (stop : Stop) : Prop :=
  (∃ j, s.queue (.stop, stop.id) = some j ∧ j.pending = true ∧ j.data.point resolve = stopPoint resolve stop ∧
    (stopPoint resolve stop = none → (s.stopResolutions stop.id).Blank)) ∨
  (¬ s.queue.Pending (.stop, stop.id) ∧ (s.stopResolutions stop.id).Shows (stopPoint resolve stop))

def StopsSettled (resolve : Resolver) (s : LocationState) : Prop := ∀ stop ∈ s.rows.stops.rows, s.StopSettled resolve stop

/-- What an edit that gives a stop the point `p` meets: no job of the stop in the queue, and its own first job has that
point; or a pending job that has it; or a finished one, and the stop has its coordinates already. Coordinates that are
stored go with a point only. -/
def Ready (resolve : Resolver) (s : LocationState) (id : Uuid) (first : LocationResolutionJobData) (p : Option (ℤ × ℤ)) :
    Prop :=
  match s.queue (.stop, id) with
  | none => first.point resolve = p ∧ (p = none → (s.stopResolutions id).Blank)
  | some j =>
    if j.pending then j.data.point resolve = p ∧ (p = none → (s.stopResolutions id).Blank)
    else (s.stopResolutions id).Shows p

def KeepsStops (resolve : Resolver) (s : LocationState) : LocationEvent → Prop
  | .updateStops q dto => (∃ rows, DispatchTrackingService.updateStops q (some s.rows) dto = .ok rows) →
    let changes := stopsNeedingResolution q 0 dto.stops s.rows.stops.rows
    ∀ id, ∀ first ∈ changes.find? (fun c => c.1 = id), ∀ last ∈ changes.reverse.find? (fun c => c.1 = id),
      s.Ready resolve id first.2 (last.2.point resolve)
  | .job (.stop, id) m _ => ∀ j, s.queue (.stop, id) = some j → j.status = .active → j.givesUp attempts m = true →
    ∀ stop ∈ s.rows.stops.rows, stop.id = id → (s.stopResolutions id).Shows (stopPoint resolve stop)
  | _ => True

end LocationState

section Edits

variable {q : Request} {rows rows' : LoadRows} {k : ℕ} {items : List UpdateStopItem}

lemma city_changed {item : UpdateStopItem} {stop : Stop} :
    "city" ∈ item.fieldChanges stop ↔ stop.city ≠ item.city := by
  simp [UpdateStopItem.fieldChanges, UpdateStopItem.nextValues]
  exact decide_eq_true_iff

lemma state_changed {item : UpdateStopItem} {stop : Stop} :
    "state" ∈ item.fieldChanges stop ↔ stop.state ≠ item.state := by
  simp [UpdateStopItem.fieldChanges, UpdateStopItem.nextValues]
  exact decide_eq_true_iff

lemma editStops_places (h : editStops q k items rows = .ok rows') {stop : Stop} (hstop : stop ∈ rows'.stops.rows) :
    match (stopsNeedingResolution q k items rows.stops.rows).reverse.find? (fun c => c.1 = stop.id) with
    | some last => last.2.city = stop.city ∧ last.2.state = stop.state
    | none => ∃ old ∈ rows.stops.rows, old.id = stop.id ∧ old.city = stop.city ∧ old.state = stop.state := by
  induction items generalizing k rows with
  | nil =>
    obtain rfl := pure_eq_ok.mp h
    exact ⟨stop, hstop, rfl, rfl, rfl⟩
  | cons item items ih =>
    obtain ⟨mid, hmid, hrest⟩ := bind_eq_ok.mp h
    obtain ⟨_, found, hfound, hmidRows⟩ := editStop_ok hmid
    have hplaces := ih hrest
    simp only [stopsNeedingResolution]
    unfold findStop at hfound
    rw [hfound]
    dsimp only
    rw [hmidRows] at hplaces
    generalize stopsNeedingResolution q (k + 1) items
      (rows.stops.rows.map (fun s => if s.id = found.id then item.nextValues s else s)) = rest at hplaces ⊢
    cases hlast : rest.reverse.find? (fun c => c.1 = stop.id) with
    | some last =>
      rw [hlast] at hplaces
      by_cases hchanged : "city" ∈ item.fieldChanges found ∨ "state" ∈ item.fieldChanges found
      · rw [if_pos hchanged, List.reverse_cons, List.find?_append, hlast, Option.some_or]
        exact hplaces
      · rw [if_neg hchanged, hlast]
        exact hplaces
    | none =>
      rw [hlast] at hplaces
      obtain ⟨old, hold, hid, hcity, hstate⟩ := hplaces
      obtain ⟨s, hs, rfl⟩ := List.mem_map.mp hold
      by_cases hedited : s.id = found.id
      · -- the item is the last one that names the stop
        obtain rfl : s = found := rows.stops.eq_of_key hs (findFirst_some hfound).1 hedited
        simp only [if_true, UpdateStopItem.nextValues_id] at hid hcity hstate
        by_cases hchanged : "city" ∈ item.fieldChanges s ∨ "state" ∈ item.fieldChanges s
        · rw [if_pos hchanged, List.reverse_cons, List.find?_append, hlast, Option.none_or, List.find?_singleton,
            if_pos (by simpa using hid)]
          exact ⟨hcity, hstate⟩
        · rw [if_neg hchanged, hlast]
          rw [city_changed, state_changed] at hchanged
          push Not at hchanged
          exact ⟨s, hs, hid, hchanged.1.trans hcity, hchanged.2.trans hstate⟩
      · rw [if_neg hedited] at hid hcity hstate
        have hother : found.id ≠ stop.id := fun heq => hedited (hid.trans heq.symm)
        by_cases hchanged : "city" ∈ item.fieldChanges found ∨ "state" ∈ item.fieldChanges found
        · rw [if_pos hchanged, List.reverse_cons, List.find?_append, hlast, Option.none_or, List.find?_singleton,
            if_neg (by simpa using hother)]
          exact ⟨s, hs, hid, hcity, hstate⟩
        · rw [if_neg hchanged, hlast]
          exact ⟨s, hs, hid, hcity, hstate⟩

end Edits

namespace LocationState

structure SameStops (s s' : LocationState) : Prop where
  queue : ∀ id, s'.queue (.stop, id) = s.queue (.stop, id)
  stops : s'.rows.stops = s.rows.stops
  resolutions : s'.stopResolutions = s.stopResolutions

lemma SameStops.settled (h : SameStops s s') (hs : s.StopsSettled resolve) : s'.StopsSettled resolve := by
  intro stop hstop
  rw [h.stops] at hstop
  have hold := hs stop hstop
  unfold StopSettled Queue.Pending at hold ⊢
  rwa [h.queue, h.resolutions]

lemma StopSettled.congr {stop old : Stop} (h : s.StopSettled resolve old) (hid : old.id = stop.id)
    (hcity : old.city = stop.city) (hstate : old.state = stop.state) : s.StopSettled resolve stop := by
  have hpoint : stopPoint resolve old = stopPoint resolve stop := by
    unfold stopPoint
    rw [hcity, hstate]
  unfold StopSettled at h ⊢
  rwa [hid, hpoint] at h

lemma find_stopJob (changes : List (Uuid × LocationResolutionJobData)) (id : Uuid) :
    (changes.map (fun change => (((.stop, change.1) : JobId), change.2))).find? (fun job => job.1 = (.stop, id)) =
      (changes.find? (fun change => change.1 = id)).map (fun change => ((.stop, change.1), change.2)) := by
  rw [List.find?_map]
  congr 2
  funext change
  simp

lemma updateStops_settled {q : Request} {dto : UpdateStopsInput} (hs : s.StopsSettled resolve)
    (h : KeepsStops resolve s (.updateStops q dto)) : (s.updateStops q dto).StopsSettled resolve := by
  unfold updateStops
  split
  · exact hs
  next rows hrows =>
  have hready := h ⟨rows, hrows⟩
  simp only [DispatchTrackingService.updateStops, LoadRows.found_some, bind_eq_ok, Except.ok.injEq, exists_eq_left',
    pure_eq_ok] at hrows
  obtain ⟨mid, hmid, rfl⟩ := hrows
  intro stop hstop
  dsimp only at hstop
  rw [reEvaluateLoadStatus_stops] at hstop
  have hplaces := editStops_places hmid hstop
  generalize stopsNeedingResolution q 0 dto.stops s.rows.stops.rows = changes at hready hplaces ⊢
  cases hlast : changes.reverse.find? (fun c => c.1 = stop.id) with
  | none =>
    rw [hlast] at hplaces
    obtain ⟨old, hold, hid, hcity, hstate⟩ := hplaces
    have hqueue : ∀ job ∈ changes.map (fun change => (((.stop, change.1) : JobId), change.2)), job.1 ≠ (.stop, stop.id) := by
      intro job hjob
      obtain ⟨change, hchange, rfl⟩ := List.mem_map.mp hjob
      have hother := List.find?_eq_none.mp hlast change (List.mem_reverse.mpr hchange)
      simpa using hother
    have hsettled := (hs old hold).congr hid hcity hstate
    unfold StopSettled Queue.Pending at hsettled ⊢
    dsimp only
    rwa [Queue.foldl_add_other hqueue]
  | some last =>
    rw [hlast] at hplaces
    have hpoint : last.2.point resolve = stopPoint resolve stop := by
      unfold LocationResolutionJobData.point stopPoint
      rw [hplaces.1, hplaces.2]
    obtain ⟨first, hfirst⟩ : ∃ first, changes.find? (fun c => c.1 = stop.id) = some first := by
      rw [← Option.isSome_iff_exists, List.find?_isSome]
      have hid := List.find?_some hlast
      exact ⟨last, List.mem_reverse.mp (List.mem_of_find?_eq_some hlast), hid⟩
    have hstep := hready stop.id first hfirst last hlast
    unfold Ready at hstep
    rw [hpoint] at hstep
    unfold StopSettled Queue.Pending
    dsimp only
    cases hqueue : s.queue (.stop, stop.id) with
    | none =>
      rw [hqueue] at hstep
      rw [Queue.foldl_add_free hqueue, find_stopJob, hfirst]
      exact .inl ⟨_, rfl, rfl, hstep.1, hstep.2⟩
    | some j =>
      rw [hqueue] at hstep
      rw [Queue.foldl_add_taken hqueue]
      dsimp only at hstep
      cases hpending : j.pending with
      | true =>
        rw [if_pos hpending] at hstep
        exact .inl ⟨j, rfl, hpending, hstep.1, hstep.2⟩
      | false =>
        rw [if_neg (by simp [hpending])] at hstep
        refine .inr ⟨?_, hstep⟩
        rintro ⟨j', hj', hpending'⟩
        obtain rfl := Option.some.inj hj'
        rw [hpending] at hpending'
        cases hpending'

lemma stopJob_settled {id : Uuid} {m : Move} {now : Instant} {job : Option (Job LocationResolutionJobData)}
    (hs : s.StopsSettled resolve) (hj : s.queue (.stop, id) = some j) (hmove : j.move attempts m = some job)
    (h : KeepsStops resolve s (.job (.stop, id) m now)) :
    StopsSettled resolve { (if m.works then s.processJob resolve (.stop, id) j.data now else s) with
      queue := Function.update s.queue (.stop, id) job } := by
  intro stop hstop
  have hrows : (if m.works then s.processJob resolve (.stop, id) j.data now else s).rows = s.rows := by split <;> rfl
  dsimp only at hstop
  rw [hrows] at hstop
  have hold := hs stop hstop
  by_cases hid : stop.id = id
  · subst hid
    have hresolutions : (if m.works then s.processJob resolve (.stop, stop.id) j.data now else s).stopResolutions stop.id =
        if m.works then (s.stopResolutions stop.id).apply (resolve j.data.city j.data.state) now
        else s.stopResolutions stop.id := by
      split
      · exact Function.update_self _ _ _
      · rfl
    have hpend (hpending : j.pending = true) : j.data.point resolve = stopPoint resolve stop ∧
        (stopPoint resolve stop = none → (s.stopResolutions stop.id).Blank) := by
      rcases hold with ⟨j', hj', _, hpoint, hblank⟩ | ⟨hidle, _⟩
      · obtain rfl := Option.some.inj (hj.symm.trans hj')
        exact ⟨hpoint, hblank⟩
      · exact absurd ⟨j, hj, hpending⟩ hidle
    unfold StopSettled Queue.Pending
    dsimp only
    rw [hresolutions, Function.update_self]
    obtain ⟨j', rfl, hdata, hpending, hpending'⟩ | ⟨j', rfl, hdata, hpending, hdone, hcause⟩ | ⟨rfl, hpending, rfl⟩ :=
      Job.move_cases hmove
    · obtain ⟨hpoint, hblank⟩ := hpend hpending
      refine .inl ⟨j', rfl, hpending', hdata ▸ hpoint, fun hnone => ?_⟩
      split
      · have hmiss : resolve j.data.city j.data.state = none := Option.map_eq_none_iff.mp (hpoint.trans hnone)
        rw [hmiss]
        exact ⟨(hblank hnone).lat, (hblank hnone).lng⟩
      · exact hblank hnone
    · obtain ⟨hpoint, hblank⟩ := hpend hpending
      refine .inr ⟨?_, ?_⟩
      · rintro ⟨j'', hj'', hpending''⟩
        obtain rfl := Option.some.inj hj''
        rw [hdone] at hpending''
        cases hpending''
      · rcases hcause with hworks | ⟨hidles, hover⟩
        · rw [if_pos hworks, ← hpoint]
          refine Resolution.apply_shows (fun hmiss => hblank ?_)
          rw [← hpoint]
          exact Option.map_eq_none_iff.mpr hmiss
        · rw [if_neg (by simp [hidles])]
          exact h j hj (Job.move_givesUp hmove hover) hover stop hstop rfl
    · have hidle : ¬ ∃ j' : Job LocationResolutionJobData, none = some j' ∧ j'.pending = true := by simp
      refine .inr ⟨hidle, ?_⟩
      rcases hold with ⟨j', hj', hpending', _⟩ | ⟨_, hshows⟩
      · obtain rfl := Option.some.inj (hj.symm.trans hj')
        rw [hpending] at hpending'
        cases hpending'
      · exact hshows
  · unfold StopSettled Queue.Pending at hold ⊢
    dsimp only
    have hresolutions : (if m.works then s.processJob resolve (.stop, id) j.data now else s).stopResolutions stop.id =
        s.stopResolutions stop.id := by
      split
      · exact Function.update_of_ne hid _ _
      · rfl
    rwa [Function.update_of_ne (by simpa using hid), hresolutions]

lemma logCheckCall_sameStops (q : Request) (dto : LogCheckCallInput) (snapshot : LoadRows) :
    SameStops s (s.logCheckCall q dto snapshot) := by
  unfold logCheckCall
  split
  · exact ⟨fun _ => rfl, rfl, rfl⟩
  · split
    · exact ⟨fun _ => rfl, rfl, rfl⟩
    · exact ⟨fun _ => enqueue_other (by simp), rfl, rfl⟩

lemma checkCallJob_sameStops {id : Uuid} (data : LocationResolutionJobData) (m : Move) (now : Instant)
    (job : Option (Job LocationResolutionJobData)) :
    SameStops s { (if m.works then s.processJob resolve (.checkCall, id) data now else s) with
      queue := Function.update s.queue (.checkCall, id) job } := by
  have hqueue (other : Uuid) : Function.update s.queue (.checkCall, id) job (.stop, other) = s.queue (.stop, other) :=
    Function.update_of_ne (by simp) _ _
  have hbase : (s.processJob resolve (.checkCall, id) data now).rows = s.rows ∧
      (s.processJob resolve (.checkCall, id) data now).stopResolutions = s.stopResolutions := by
    unfold processJob applyToCheckCall
    dsimp only
    split
    · exact ⟨rfl, rfl⟩
    · split
      · exact ⟨rfl, rfl⟩
      · exact ⟨rfl, rfl⟩
  refine ⟨hqueue, ?_, ?_⟩
  · dsimp only
    split
    · rw [hbase.1]
    · rfl
  · dsimp only
    split
    · rw [hbase.2]
    · rfl

lemma next_stopsSettled {e : LocationEvent} (hs : s.StopsSettled resolve) (h : KeepsStops resolve s e) :
    (s.next resolve e).StopsSettled resolve := by
  cases e with
  | readLoad key =>
    have hsame : SameStops s (s.next resolve (.readLoad key)) := ⟨fun _ => rfl, rfl, rfl⟩
    exact hsame.settled hs
  | logCheckCall key q dto =>
    unfold next
    dsimp only
    split
    · exact hs
    next snapshot _ =>
    have hsame := logCheckCall_sameStops (s := s) q dto snapshot
    have hclosed : SameStops s { s.logCheckCall q dto snapshot with reading := Function.update s.reading key none } :=
      ⟨hsame.queue, hsame.stops, hsame.resolutions⟩
    exact hclosed.settled hs
  | updateStops q dto => exact updateStops_settled hs h
  | job id m now =>
    unfold next
    dsimp only
    split
    · exact hs
    next j hj =>
    split
    · exact hs
    next job hmove =>
    obtain ⟨entity, id⟩ := id
    cases entity with
    | stop => exact stopJob_settled hs hj hmove h
    | checkCall => exact (checkCallJob_sameStops j.data m now job).settled hs

lemma booked_settled (rows : LoadRows) : (booked rows).StopsSettled resolve := by
  intro stop hstop
  have hfind : rows.stops.rows.find? (fun s => s.id == stop.id) = some stop := by
    cases hfound : rows.stops.rows.find? (fun s => s.id == stop.id) with
    | none =>
      have hother := List.find?_eq_none.mp hfound stop hstop
      simp at hother
    | some found =>
      have hid : found.id = stop.id := by simpa using List.find?_some hfound
      rw [rows.stops.eq_of_key (List.mem_of_find?_eq_some hfound) hstop hid]
  exact .inl ⟨_, by simp only [booked, hfind]; rfl, rfl, rfl, fun _ => ⟨rfl, rfl⟩⟩

end LocationState

theorem stops_located (resolve : Resolver) (rows : LoadRows) {es : List LocationEvent} {s : LocationState}
    (h : Run (Guarded (Total (LocationState.next resolve)) (LocationState.KeepsStops resolve)) (.booked rows) es s) :
    ∀ stop ∈ s.rows.stops.rows, ¬ s.queue.Pending (.stop, stop.id) →
      (s.stopResolutions stop.id).Shows (stopPoint resolve stop) := by
  have hsettled := h.invariant (P := LocationState.StopsSettled resolve)
    (fun s e t hs he => by
      obtain ⟨rfl, hguard⟩ := he
      exact LocationState.next_stopsSettled hs hguard) (LocationState.booked_settled rows)
  intro stop hstop hidle
  rcases hsettled stop hstop with ⟨j, hj, hpending, _⟩ | ⟨_, hshows⟩
  · exact absurd ⟨j, hj, hpending⟩ hidle
  · exact hshows

end Stops

namespace Sample

def moveTo (city state : String) (h : 1 ≤ city.length ∧ 2 ≤ state.length := by decide) : UpdateStopsInput where
  stops := [{ QuoteLoad.Sample.details with
    city, state, sequence := 1, stopType := .pickup, filled := ⟨by decide, by decide, h.1, h.2, by decide⟩ }]

def runStopJob : List LocationEvent := [.job (.stop, 102) .start 2, .job (.stop, 102) .complete 2]

def afterBooking (es : List LocationEvent) : LocationState :=
  es.foldl (LocationState.next resolve) (.booked QuoteLoad.Sample.booked)

def edited (n : ℕ) (dto : UpdateStopsInput) : List LocationEvent := [.updateStops (QuoteLoad.Sample.request n) dto]

def evictedEdit : List LocationEvent :=
  runStopJob ++ [.job (.stop, 102) .evict 3] ++ edited 4 (moveTo "Tulsa" "OK") ++
    [.job (.stop, 102) .start 2, .job (.stop, 102) (.stall false) 2] ++ runStopJob

def retainedEdit : List LocationEvent := runStopJob ++ edited 4 (moveTo "Tulsa" "OK")

def unknownEdit : List LocationEvent :=
  runStopJob ++ [.job (.stop, 102) .evict 3] ++ edited 4 (moveTo "Nowhere" "ZZ") ++ runStopJob

def firstStop (s : LocationState) : Option (String × Option ℤ × ResolutionStatus) :=
  s.rows.stops.rows.head?.map (fun stop =>
    (stop.city, (s.stopResolutions stop.id).resolvedLat, (s.stopResolutions stop.id).resolutionStatus))

lemma run_edited {es : List LocationEvent} {e : LocationEvent}
    (h : Run (Guarded (Runs.Total (LocationState.next resolve)) (LocationState.KeepsStops resolve))
      (.booked QuoteLoad.Sample.booked) es (afterBooking es))
    (he : LocationState.KeepsStops resolve (afterBooking es) e) :
    Run (Guarded (Runs.Total (LocationState.next resolve)) (LocationState.KeepsStops resolve))
      (.booked QuoteLoad.Sample.booked) (es ++ [e]) (afterBooking (es ++ [e])) := run_total_snoc h he

lemma keeps_on {es : List LocationEvent} {id : Uuid} {m : Move} {now : Instant}
    (h : ∀ j ∈ (afterBooking es).queue (.stop, id), j.givesUp attempts m = false) :
    LocationState.KeepsStops resolve (afterBooking es) (.job (.stop, id) m now) := by
  intro j hj _ hover
  rw [h j hj] at hover
  cases hover

end Sample

open Sample in
theorem stops_located_sample :
    (∀ stop ∈ (afterBooking evictedEdit).rows.stops.rows, ¬ (afterBooking evictedEdit).queue.Pending (.stop, stop.id) →
      ((afterBooking evictedEdit).stopResolutions stop.id).Shows (stopPoint resolve stop)) ∧
      firstStop (afterBooking evictedEdit) = some ("Tulsa", some 36154000, .resolvedDataset) := by
  refine ⟨@stops_located resolve QuoteLoad.Sample.booked evictedEdit _ ?_, by decide +kernel⟩
  have hedit : LocationState.KeepsStops resolve (afterBooking (runStopJob ++ [.job (.stop, 102) .evict 3]))
      (.updateStops (QuoteLoad.Sample.request 4) (moveTo "Tulsa" "OK")) := by
    have hchanges : stopsNeedingResolution (QuoteLoad.Sample.request 4) 0 (moveTo "Tulsa" "OK").stops
        (afterBooking (runStopJob ++ [.job (.stop, 102) .evict 3])).rows.stops.rows =
          [(102, { city := "Tulsa", state := "OK" })] := by decide +kernel
    intro _ changes id first hfirst last hlast
    have hlist : changes = [(102, { city := "Tulsa", state := "OK" })] := hchanges
    rw [hlist] at hfirst hlast
    obtain ⟨rfl, rfl⟩ := by simpa using hfirst
    obtain rfl := by simpa using hlast
    refine ⟨rfl, fun hnone => ?_⟩
    exact absurd hnone (by decide)
  have hstart := run_edited (.nil _) (e := .job (.stop, 102) .start 2) (keeps_on fun _ _ => rfl)
  have hdone := run_edited hstart (e := .job (.stop, 102) .complete 2) (keeps_on fun _ _ => rfl)
  have hevicted := run_edited hdone (e := .job (.stop, 102) .evict 3) (keeps_on fun _ _ => rfl)
  have hmoved := run_edited hevicted hedit
  have hstart' := run_edited hmoved (e := .job (.stop, 102) .start 2) (keeps_on fun _ _ => rfl)
  have hstall := run_edited hstart' (e := .job (.stop, 102) (.stall false) 2) (keeps_on (by decide +kernel))
  have hagain := run_edited hstall (e := .job (.stop, 102) .start 2) (keeps_on fun _ _ => rfl)
  exact run_edited hagain (e := .job (.stop, 102) .complete 2) (keeps_on fun _ _ => rfl)

open Sample in
/-- The edit adds no job while the finished one is retained, and a place that is not known leaves the coordinates of
the one before. -/
theorem stop_outdated :
    (¬ (afterBooking retainedEdit).queue.Pending (.stop, 102) ∧
      firstStop (afterBooking retainedEdit) = some ("Tulsa", some 32783060, .resolvedDataset)) ∧
    ¬ (afterBooking unknownEdit).queue.Pending (.stop, 102) ∧
      firstStop (afterBooking unknownEdit) = some ("Nowhere", some 32783060, .unresolved) :=
  ⟨⟨Queue.not_pending_of_all (by decide +kernel), by decide +kernel⟩, Queue.not_pending_of_all (by decide +kernel),
    by decide +kernel⟩

end Truckmaster.Locations
