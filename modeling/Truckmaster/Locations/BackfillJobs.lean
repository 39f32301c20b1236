import Truckmaster.Locations.BackfillAnalysis

namespace Truckmaster.Locations

open Common Tables JobQueues Runs LocationResolutionBackfillService

namespace LocationStore

section Target

variable {resolve : Resolver} {d d' : LocationStore} {id : JobId} {job : TenantJob} {now : Instant}

/-- The Load whose coordinates the job writes, and what it writes. -/
def target (resolve : Resolver) (d : LocationStore) (id : JobId) (job : TenantJob) : Option (Uuid × ResolvedLocation) :=
  match id.1 with
  | .stop => none
  | .checkCall => do
    let checkCall ← (d.checkCalls.get id.2).filter (fun c => c.organizationId == job.organizationId)
    let found ← resolve job.data.city job.data.state
    if (d.loads.get checkCall.loadId).any (fun load => load.organizationId == job.organizationId &&
        job.data.asOfLoadUpdatedAt.isSome && load.currentLocationUpdatedAt == job.data.asOfLoadUpdatedAt) then
      some (checkCall.loadId, found)
    else none

def owns (d : LocationStore) (id : JobId) (job : TenantJob) : Bool :=
  match id.1 with
  | .checkCall => ((d.checkCalls.get id.2).filter (fun c => c.organizationId == job.organizationId)).isSome
  | .stop => (d.stops.get id.2).any (fun s => s.organizationId == job.organizationId)

def tenantOf (d : LocationStore) (id : JobId) : Option Uuid :=
  match id.1 with
  | .checkCall => (d.checkCalls.get id.2).map CheckCallRow.organizationId
  | .stop => (d.stops.get id.2).map StopRow.organizationId

def coordinates (d : LocationStore) (loadId : Uuid) : Option ℤ × Option ℤ :=
  (d.currentLocationLat loadId, d.currentLocationLng loadId)

def resolutions (d : LocationStore) (id : JobId) : Resolution :=
  match id.1 with
  | .checkCall => d.checkCallResolutions id.2
  | .stop => d.stopResolutions id.2

structure SameRows (d d' : LocationStore) : Prop where
  organizations : d'.organizations = d.organizations
  checkCalls : d'.checkCalls = d.checkCalls
  stops : d'.stops = d.stops
  loads : d'.loads = d.loads

lemma SameRows.refl (d : LocationStore) : SameRows d d := ⟨rfl, rfl, rfl, rfl⟩

lemma SameRows.trans {d'' : LocationStore} (h : SameRows d d') (h' : SameRows d' d'') : SameRows d d'' :=
  ⟨h'.organizations.trans h.organizations, h'.checkCalls.trans h.checkCalls, h'.stops.trans h.stops, h'.loads.trans h.loads⟩

lemma SameRows.target_eq (h : SameRows d d') : d'.target resolve id job = d.target resolve id job := by
  simp only [target, h.checkCalls, h.loads]

lemma SameRows.owns_eq (h : SameRows d d') : d'.owns id job = d.owns id job := by
  simp only [owns, h.checkCalls, h.stops]

lemma processJob_eq (resolve : Resolver) (id : JobId) (job : TenantJob) (now : Instant) (d : LocationStore) :
    SameRows d (d.processJob resolve id job now) ∧
      (d.processJob resolve id job now).resolutions =
        (if d.owns id job then
          Function.update d.resolutions id ((d.resolutions id).apply (resolve job.data.city job.data.state) now)
        else d.resolutions) ∧
      (d.processJob resolve id job now).coordinates =
        match d.target resolve id job with
        | some (loadId, found) => Function.update d.coordinates loadId (some found.lat, some found.lng)
        | none => d.coordinates := by
  obtain ⟨kind, i⟩ := id
  have hresolution (new : Resolution) :
      (fun k : JobId => match k.1 with
        | .checkCall => Function.update d.checkCallResolutions i new k.2
        | .stop => d.stopResolutions k.2) = Function.update d.resolutions (.checkCall, i) new := by
    funext k
    obtain ⟨kind, j⟩ := k
    cases kind <;> simp [resolutions, Function.update_apply]
  have hstop (new : Resolution) :
      (fun k : JobId => match k.1 with
        | .checkCall => d.checkCallResolutions k.2
        | .stop => Function.update d.stopResolutions i new k.2) = Function.update d.resolutions (.stop, i) new := by
    funext k
    obtain ⟨kind, j⟩ := k
    cases kind <;> simp [resolutions, Function.update_apply]
  cases kind with
  | stop =>
    by_cases hown : (d.stops.get i).any (fun s => s.organizationId == job.organizationId) = true
    · simp only [processJob, applyToStop, owns, if_pos hown]
      exact ⟨⟨rfl, rfl, rfl, rfl⟩, (hstop _).trans (if_pos hown).symm, rfl⟩
    · simp only [processJob, applyToStop, owns, if_neg hown]
      exact ⟨.refl d, (if_neg hown).symm, rfl⟩
  | checkCall =>
    cases hrow : (d.checkCalls.get i).filter (fun c => c.organizationId == job.organizationId) with
    | none =>
      simp only [processJob, applyToCheckCall, owns, target, hrow]
      exact ⟨.refl d, rfl, rfl⟩
    | some checkCall =>
      cases hfound : resolve job.data.city job.data.state with
      | none =>
        simp only [processJob, applyToCheckCall, owns, target, hrow, hfound]
        exact ⟨⟨rfl, rfl, rfl, rfl⟩, hresolution _, rfl⟩
      | some found =>
        simp only [processJob, applyToCheckCall, owns, target, hrow, hfound, Option.bind_eq_bind, Option.bind_some,
          Option.isSome_some, if_true]
        split_ifs
        · refine ⟨⟨rfl, rfl, rfl, rfl⟩, hresolution _, ?_⟩
          funext l
          simp only [coordinates, Function.update_apply]
          split <;> rfl
        · exact ⟨⟨rfl, rfl, rfl, rfl⟩, hresolution _, rfl⟩

end Target

end LocationStore

namespace LocationResolutionBackfillService

open LocationStore

section Plan

variable {resolve : Resolver} {organizations : RowOrder} {order : Uuid → ℕ → RowOrder} {d : LocationStore}

def allJobs (resolve : Resolver) (organizations : RowOrder) (order : Uuid → ℕ → RowOrder) (d : LocationStore) :
    List (JobId × TenantJob) :=
  (organizations.arrange d.organizations.rows).flatMap (fun org => (analyzeOrg resolve (order org.id) d org).jobs)

def plan (resolve : Resolver) (organizations : RowOrder) (order : Uuid → ℕ → RowOrder) (d : LocationStore) (id : JobId) :
    Option TenantJob :=
  ((allJobs resolve organizations order d).find? (fun job => job.1 = id)).map Prod.snd

lemma mem_ccUsable {checkCalls : List CheckCallRow} {c : CheckCallRow} :
    c ∈ ccUsable d checkCalls ↔
      c ∈ checkCalls ∧ isUnresolved (d.checkCallResolutions c.id) = true ∧ usable c.locationCity c.locationState = true := by
  rw [ccUsable, ccUnresolved, List.mem_filter, List.mem_filter, and_assoc]

lemma mem_stUsable {stops : List StopRow} {s : StopRow} :
    s ∈ stUsable d stops ↔
      s ∈ stops ∧ isUnresolved (d.stopResolutions s.id) = true ∧ usable (some s.city) (some s.state) = true := by
  rw [stUsable, stUnresolved, List.mem_filter, List.mem_filter, and_assoc]

def plannedCheckCall (order : Uuid → ℕ → RowOrder) (d : LocationStore) (c : CheckCallRow) : JobId × TenantJob :=
  checkCallJob c.organizationId (latestId (tenantCheckCalls (order c.organizationId) d c.organizationId))
    (tenantLoads (order c.organizationId) d c.organizationId) c

lemma mem_allJobs {job : JobId × TenantJob} :
    job ∈ allJobs resolve organizations order d ↔
      (∃ c ∈ d.checkCalls.rows, c.organizationId ∈ d.organizations.rows.map OrganizationRow.id ∧
        isUnresolved (d.checkCallResolutions c.id) = true ∧ usable c.locationCity c.locationState = true ∧
        plannedCheckCall order d c = job) ∨
      ∃ s ∈ d.stops.rows, s.organizationId ∈ d.organizations.rows.map OrganizationRow.id ∧
        isUnresolved (d.stopResolutions s.id) = true ∧ usable (some s.city) (some s.state) = true ∧
        stopJob s.organizationId s = job := by
  simp only [allJobs, analyzeOrg_jobs, List.mem_flatMap, (organizations.perm _).mem_iff, List.mem_append, List.mem_map,
    mem_ccUsable, mem_stUsable, mem_tenantCheckCalls, mem_tenantStops]
  constructor
  · rintro ⟨org, horg, ⟨c, ⟨⟨hc, hof⟩, hopen, husable⟩, rfl⟩ | ⟨s, ⟨⟨hs, hof⟩, hopen, husable⟩, rfl⟩⟩
    · exact .inl ⟨c, hc, ⟨org, horg, hof.symm⟩, hopen, husable, by rw [plannedCheckCall, hof]⟩
    · exact .inr ⟨s, hs, ⟨org, horg, hof.symm⟩, hopen, husable, by rw [hof]⟩
  · rintro (⟨c, hc, ⟨org, horg, hof⟩, hopen, husable, rfl⟩ | ⟨s, hs, ⟨org, horg, hof⟩, hopen, husable, rfl⟩)
    · exact ⟨org, horg, .inl ⟨c, ⟨⟨hc, hof.symm⟩, hopen, husable⟩, by rw [plannedCheckCall, hof]⟩⟩
    · exact ⟨org, horg, .inr ⟨s, ⟨⟨hs, hof.symm⟩, hopen, husable⟩, by rw [hof]⟩⟩

lemma analyzeOrg_jobs_nodup (order : ℕ → RowOrder) (org : OrganizationRow) :
    ((analyzeOrg resolve order d org).jobs.map Prod.fst).Nodup := by
  have hcalls : ((ccUsable d (tenantCheckCalls order d org.id)).map CheckCallRow.id).Nodup :=
    (tenantCheckCalls_nodup order d org.id).sublist ((List.filter_sublist.trans List.filter_sublist).map _)
  have hstops : ((stUsable d (tenantStops order d org.id)).map StopRow.id).Nodup :=
    (tenantStops_nodup order d org.id).sublist ((List.filter_sublist.trans List.filter_sublist).map _)
  rw [analyzeOrg_jobs, List.map_append, List.map_map, List.map_map]
  refine List.Nodup.append ?_ ?_ ?_
  · rw [show (Prod.fst ∘ checkCallJob org.id (latestId (tenantCheckCalls order d org.id)) (tenantLoads order d org.id)) =
      Prod.mk .checkCall ∘ CheckCallRow.id from rfl, ← List.map_map]
    exact hcalls.map (Prod.mk_right_injective _)
  · rw [show Prod.fst ∘ stopJob org.id = Prod.mk .stop ∘ StopRow.id from rfl, ← List.map_map]
    exact hstops.map (Prod.mk_right_injective _)
  · intro id hcall hstop
    obtain ⟨c, _, rfl⟩ := List.mem_map.mp hcall
    obtain ⟨s, _, hs⟩ := List.mem_map.mp hstop
    cases congrArg Prod.fst hs

lemma tenantOf_mem_jobs {order : ℕ → RowOrder} {org : OrganizationRow} {id : JobId}
    (h : id ∈ (analyzeOrg resolve order d org).jobs.map Prod.fst) : d.tenantOf id = some org.id := by
  rw [analyzeOrg_jobs, List.map_append, List.map_map, List.map_map] at h
  rcases List.mem_append.mp h with hcall | hstop
  · obtain ⟨c, hc, rfl⟩ := List.mem_map.mp hcall
    obtain ⟨hrow, hof⟩ := mem_tenantCheckCalls.mp (mem_ccUsable.mp hc).1
    change (d.checkCalls.get c.id).map CheckCallRow.organizationId = some org.id
    rw [Table.get_eq_some.mpr ⟨hrow, rfl⟩, Option.map_some, hof]
  · obtain ⟨s, hs, rfl⟩ := List.mem_map.mp hstop
    obtain ⟨hrow, hof⟩ := mem_tenantStops.mp (mem_stUsable.mp hs).1
    change (d.stops.get s.id).map StopRow.organizationId = some org.id
    rw [Table.get_eq_some.mpr ⟨hrow, rfl⟩, Option.map_some, hof]

lemma allJobs_nodup : ((allJobs resolve organizations order d).map Prod.fst).Nodup := by
  have horgs : ((organizations.arrange d.organizations.rows).map OrganizationRow.id).Nodup :=
    (((organizations.perm _).map _).nodup_iff).mpr d.organizations.nodup
  rw [allJobs, List.map_flatMap]
  refine List.nodup_flatMap.mpr ⟨fun org _ => analyzeOrg_jobs_nodup _ org, ?_⟩
  refine (List.pairwise_map.mp horgs).imp (fun {org org'} hne id h h' => ?_)
  exact hne (Option.some.inj ((tenantOf_mem_jobs h).symm.trans (tenantOf_mem_jobs h')))

lemma plan_eq_some {id : JobId} {job : TenantJob} :
    plan resolve organizations order d id = some job ↔ (id, job) ∈ allJobs resolve organizations order d := by
  rw [plan, Option.map_eq_some_iff]
  constructor
  · rintro ⟨⟨id', job'⟩, hfound, rfl⟩
    have hkey : id' = id := by simpa using List.find?_some hfound
    subst hkey
    exact List.mem_of_find?_eq_some hfound
  · intro hmem
    have hfound : ((allJobs resolve organizations order d).find? (fun job => job.1 = id)).isSome :=
      List.find?_isSome.mpr ⟨_, hmem, decide_eq_true rfl⟩
    obtain ⟨job', hjob'⟩ := Option.isSome_iff_exists.mp hfound
    refine ⟨job', hjob', ?_⟩
    rw [List.inj_on_of_nodup_map allJobs_nodup (List.mem_of_find?_eq_some hjob') hmem (by simpa using List.find?_some hjob')]

lemma checkCall_planned {id : Uuid} {job : TenantJob} :
    plan resolve organizations order d (.checkCall, id) = some job ↔
      ∃ c ∈ d.checkCalls.rows, c.organizationId ∈ d.organizations.rows.map OrganizationRow.id ∧
        isUnresolved (d.checkCallResolutions c.id) = true ∧ usable c.locationCity c.locationState = true ∧
        c.id = id ∧ (plannedCheckCall order d c).2 = job := by
  rw [plan_eq_some, mem_allJobs]
  constructor
  · rintro (⟨c, hc, horg, hopen, husable, hjob⟩ | ⟨s, _, _, _, _, hjob⟩)
    · obtain ⟨hid, rfl⟩ := Prod.mk.inj hjob
      exact ⟨c, hc, horg, hopen, husable, (Prod.mk.inj hid).2, rfl⟩
    · cases congrArg (Prod.fst ∘ Prod.fst) hjob
  · rintro ⟨c, hc, horg, hopen, husable, rfl, rfl⟩
    exact .inl ⟨c, hc, horg, hopen, husable, rfl⟩

lemma stop_planned {id : Uuid} {job : TenantJob} :
    plan resolve organizations order d (.stop, id) = some job ↔
      ∃ s ∈ d.stops.rows, s.organizationId ∈ d.organizations.rows.map OrganizationRow.id ∧
        isUnresolved (d.stopResolutions s.id) = true ∧ usable (some s.city) (some s.state) = true ∧
        s.id = id ∧ (stopJob s.organizationId s).2 = job := by
  rw [plan_eq_some, mem_allJobs]
  constructor
  · rintro (⟨c, _, _, _, _, hjob⟩ | ⟨s, hs, horg, hopen, husable, hjob⟩)
    · cases congrArg (Prod.fst ∘ Prod.fst) hjob
    · obtain ⟨hid, rfl⟩ := Prod.mk.inj hjob
      exact ⟨s, hs, horg, hopen, husable, (Prod.mk.inj hid).2, rfl⟩
  · rintro ⟨s, hs, horg, hopen, husable, rfl, rfl⟩
    exact .inr ⟨s, hs, horg, hopen, husable, rfl⟩

lemma owns_of_planned {id : JobId} {job : TenantJob} (h : plan resolve organizations order d id = some job) :
    d.owns id job = true := by
  obtain ⟨kind, i⟩ := id
  cases kind with
  | checkCall =>
    obtain ⟨c, hc, _, _, _, rfl, rfl⟩ := checkCall_planned.mp h
    simp [owns, Table.get_eq_some.mpr ⟨hc, rfl⟩, plannedCheckCall, checkCallJob]
  | stop =>
    obtain ⟨s, hs, _, _, _, rfl, rfl⟩ := stop_planned.mp h
    simp [owns, Table.get_eq_some.mpr ⟨hs, rfl⟩, stopJob]

lemma find_tenantLoads (order : ℕ → RowOrder) (organizationId loadId : Uuid) :
    (tenantLoads order d organizationId).find? (fun l => l.id == loadId) =
      (d.loads.get loadId).filter (fun l => l.organizationId == organizationId) := by
  refine Option.ext (fun l => ?_)
  rw [tenantLoads, find_of_unique (fun a ha b hb _ hida _ hidb => ?_), Option.filter_eq_some_iff, Table.get_eq_some]
  · simp only [beq_iff_eq]
    tauto
  · exact d.loads.eq_of_key ha hb ((beq_iff_eq.mp hida).trans (beq_iff_eq.mp hidb).symm)

lemma target_planned {c : CheckCallRow} (hc : c ∈ d.checkCalls.rows) {loadId : Uuid} {found : ResolvedLocation} :
    d.target resolve (.checkCall, c.id) (plannedCheckCall order d c).2 = some (loadId, found) ↔
      Latest (tenantCheckCalls (order c.organizationId) d c.organizationId) loadId c ∧
      resolve (c.locationCity.getD "") (c.locationState.getD "") = some found ∧
      ∃ l ∈ d.loads.rows, l.id = loadId ∧ l.organizationId = c.organizationId ∧ l.currentLocationUpdatedAt.isSome = true := by
  have hids := tenantCheckCalls_nodup (order c.organizationId) d c.organizationId
  have hmem : c ∈ tenantCheckCalls (order c.organizationId) d c.organizationId := mem_tenantCheckCalls.mpr ⟨hc, rfl⟩
  simp only [target, plannedCheckCall, checkCallJob, Table.get_eq_some.mpr ⟨hc, rfl⟩, Option.filter_some, beq_self_eq_true,
    if_true, Option.bind_eq_bind, Option.bind_some, Option.bind_eq_some_iff, Option.ite_none_right_eq_some,
    Option.some.injEq, Prod.mk.injEq, find_tenantLoads]
  constructor
  · rintro ⟨_, hfound, hguard, rfl, rfl⟩
    by_cases hlatest : (latestId (tenantCheckCalls (order c.organizationId) d c.organizationId) c.loadId == some c.id) = true
    · rw [if_pos hlatest] at hguard
      obtain ⟨l, hl, hrow⟩ := (Option.any_eq_true _ _).mp hguard
      rw [hl] at hrow
      simp only [Bool.and_eq_true, beq_iff_eq] at hrow
      obtain ⟨⟨hof, htime⟩, hsame⟩ := hrow
      obtain ⟨hload, hid⟩ := Table.get_eq_some.mp hl
      refine ⟨(latestId_iff hids hmem).mp (beq_iff_eq.mp hlatest), hfound, l, hload, hid, hof, ?_⟩
      rw [hsame]
      exact htime
    · rw [if_neg hlatest] at hguard
      simp at hguard
  · rintro ⟨hlatest, hfound, l, hl, hid, hof, htime⟩
    obtain rfl := hlatest.load
    refine ⟨found, hfound, ?_, rfl, rfl⟩
    rw [if_pos (beq_iff_eq.mpr ((latestId_iff hids hmem).mpr hlatest)), ← hid, Table.get_eq_some.mpr ⟨hl, rfl⟩]
    have hkept : (some l).filter (fun l => l.organizationId == c.organizationId) = some l :=
      Option.filter_eq_some_iff.mpr ⟨rfl, beq_iff_eq.mpr hof⟩
    rw [hkept]
    simp [hof, htime]

end Plan

section Progress

variable {resolve : Resolver} {organizations : RowOrder} {order : Uuid → ℕ → RowOrder} {d s : LocationStore}

lemma isUnresolved_apply (resolved : Option ResolvedLocation) (now : Instant) (r : Resolution) :
    isUnresolved (r.apply resolved now) = resolved.isNone := by
  cases resolved <;> rfl

structure Kept (resolve : Resolver) (organizations : RowOrder) (order : Uuid → ℕ → RowOrder) (d s : LocationStore) :
    Prop where
  rows : SameRows d s
  resolutions : ∀ k, plan resolve organizations order d k = none → s.resolutions k = d.resolutions k
  coordinates : ∀ l, (∀ k job found, plan resolve organizations order d k = some job →
    d.target resolve k job ≠ some (l, found)) → s.coordinates l = d.coordinates l

def Settled (resolve : Resolver) (organizations : RowOrder) (order : Uuid → ℕ → RowOrder) (d : LocationStore) (k : JobId)
    (s : LocationStore) : Prop :=
  ∀ job, plan resolve organizations order d k = some job →
    isUnresolved (s.resolutions k) = (resolve job.data.city job.data.state).isNone ∧
    ∀ l found, d.target resolve k job = some (l, found) → s.coordinates l = (some found.lat, some found.lng)

lemma target_injective {k k' : JobId} {job job' : TenantJob} {l : Uuid} {found found' : ResolvedLocation}
    (hk : plan resolve organizations order d k = some job) (hk' : plan resolve organizations order d k' = some job')
    (htarget : d.target resolve k job = some (l, found)) (htarget' : d.target resolve k' job' = some (l, found')) :
    k = k' := by
  obtain ⟨kind, i⟩ := k
  obtain ⟨kind', i'⟩ := k'
  cases kind with
  | stop => cases htarget
  | checkCall =>
    cases kind' with
    | stop => cases htarget'
    | checkCall =>
      obtain ⟨c, hc, _, _, _, rfl, rfl⟩ := checkCall_planned.mp hk
      obtain ⟨c', hc', _, _, _, rfl, rfl⟩ := checkCall_planned.mp hk'
      obtain ⟨hlatest, _, load, hload, hid, hof, _⟩ := (target_planned hc).mp htarget
      obtain ⟨hlatest', _, load', hload', hid', hof', _⟩ := (target_planned hc').mp htarget'
      obtain rfl := d.loads.eq_of_key hload hload' (hid.trans hid'.symm)
      rw [← hof'] at hlatest'
      rw [← hof] at hlatest
      rw [hlatest.id_eq hlatest']

lemma backfill_leaves : Leaves (LocationStore.processJob resolve) (plan resolve organizations order d)
    (Kept resolve organizations order d) (Settled resolve organizations order d) where
  keeps k job now s hk hs := by
    obtain ⟨hrows, hresolutions, hcoordinates⟩ := processJob_eq resolve k job now s
    refine ⟨hs.rows.trans hrows, fun k' hk' => ?_, fun l hl => ?_⟩
    · have hne : k' ≠ k := by
        rintro rfl
        rw [hk] at hk'
        cases hk'
      rw [hresolutions, ← hs.resolutions k' hk']
      split
      next => exact Function.update_of_ne hne _ _
      next => rfl
    · rw [hcoordinates, hs.rows.target_eq, ← hs.coordinates l hl]
      cases htarget : d.target resolve k job with
      | none => rfl
      | some write =>
        obtain ⟨loadId, found⟩ := write
        have hne : l ≠ loadId := by
          rintro rfl
          exact hl k job found hk htarget
        exact Function.update_of_ne hne _ _
  marks k job now s hk hs := by
    obtain ⟨_, hresolutions, hcoordinates⟩ := processJob_eq resolve k job now s
    rintro _ hjob
    obtain rfl := Option.some.inj (hk.symm.trans hjob)
    refine ⟨?_, fun l found htarget => ?_⟩
    · rw [hresolutions, hs.rows.owns_eq, if_pos (owns_of_planned hk), Function.update_self, isUnresolved_apply]
    · rw [hcoordinates, hs.rows.target_eq, htarget]
      exact Function.update_self ..
  stays k job k' now s hk hs hne hdone := by
    obtain ⟨_, hresolutions, hcoordinates⟩ := processJob_eq resolve k job now s
    intro job' hk'
    obtain ⟨hstatus, hwritten⟩ := hdone job' hk'
    refine ⟨?_, fun l found htarget => ?_⟩
    · rw [hresolutions, ← hstatus]
      split
      next => rw [Function.update_of_ne hne]
      next => rfl
    · rw [hcoordinates, hs.rows.target_eq, ← hwritten l found htarget]
      cases hother : d.target resolve k job with
      | none => rfl
      | some write =>
        obtain ⟨loadId, found'⟩ := write
        have hload : l ≠ loadId := by
          rintro rfl
          exact hne (target_injective hk' hk htarget hother)
        exact Function.update_of_ne hload _ _

end Progress

end LocationResolutionBackfillService

end Truckmaster.Locations
