import Truckmaster.Locations.BackfillJobs

namespace Truckmaster.Locations

open Common Tables JobQueues Runs LocationResolutionBackfillService

namespace LocationResolutionBackfillService

open LocationStore

section After

variable {resolve : Resolver} {organizations : RowOrder} {order : Uuid → ℕ → RowOrder} {d s : LocationStore}

lemma checkCall_after (hkept : Kept resolve organizations order d s)
    (hsettled : ∀ k, Settled resolve organizations order d k s) {c : CheckCallRow} (hc : c ∈ d.checkCalls.rows)
    (horg : c.organizationId ∈ d.organizations.rows.map OrganizationRow.id) :
    isUnresolved (s.checkCallResolutions c.id) =
      (isUnresolved (d.checkCallResolutions c.id) && !resolvable resolve d c) := by
  cases hjob : plan resolve organizations order d (.checkCall, c.id) with
  | none =>
    have hsame : s.checkCallResolutions c.id = d.checkCallResolutions c.id := hkept.resolutions _ hjob
    have hskipped : resolvable resolve d c = false := by
      refine Bool.eq_false_iff.mpr (fun h => ?_)
      simp only [resolvable, Bool.and_eq_true] at h
      rw [checkCall_planned.mpr ⟨c, hc, horg, h.1.1, h.1.2, rfl, rfl⟩] at hjob
      cases hjob
    rw [hsame, hskipped, Bool.not_false, Bool.and_true]
  | some job =>
    obtain ⟨c', hc', _, hopen, husable, hid, rfl⟩ := checkCall_planned.mp hjob
    obtain rfl := d.checkCalls.eq_of_key hc' hc hid
    have hstatus : isUnresolved (s.checkCallResolutions c'.id) = _ := (hsettled _ _ hjob).1
    rw [hstatus, resolvable, hopen, husable, Bool.true_and, Bool.true_and, Bool.true_and, Option.not_isSome]
    rfl

lemma stop_after (hkept : Kept resolve organizations order d s)
    (hsettled : ∀ k, Settled resolve organizations order d k s) {stop : StopRow} (hstop : stop ∈ d.stops.rows)
    (horg : stop.organizationId ∈ d.organizations.rows.map OrganizationRow.id) :
    isUnresolved (s.stopResolutions stop.id) =
      (isUnresolved (d.stopResolutions stop.id) && !stopResolvable resolve d stop) := by
  cases hjob : plan resolve organizations order d (.stop, stop.id) with
  | none =>
    have hsame : s.stopResolutions stop.id = d.stopResolutions stop.id := hkept.resolutions _ hjob
    have hskipped : stopResolvable resolve d stop = false := by
      refine Bool.eq_false_iff.mpr (fun h => ?_)
      simp only [stopResolvable, Bool.and_eq_true] at h
      rw [stop_planned.mpr ⟨stop, hstop, horg, h.1.1, h.1.2, rfl, rfl⟩] at hjob
      cases hjob
    rw [hsame, hskipped, Bool.not_false, Bool.and_true]
  | some job =>
    obtain ⟨stop', hstop', _, hopen, husable, hid, rfl⟩ := stop_planned.mp hjob
    obtain rfl := d.stops.eq_of_key hstop' hstop hid
    have hstatus : isUnresolved (s.stopResolutions stop'.id) = _ := (hsettled _ _ hjob).1
    rw [hstatus, stopResolvable, hopen, husable, Bool.true_and, Bool.true_and, Bool.true_and, Option.not_isSome]
    rfl

def Source (resolve : Resolver) (d : LocationStore) (l : LoadRow) (c : CheckCallRow) : Prop :=
  Latest (d.checkCalls.rows.filter (fun c => c.organizationId == l.organizationId)) l.id c ∧ resolvable resolve d c = true

lemma Source.found {l : LoadRow} {c : CheckCallRow} (h : Source resolve d l c) :
    ∃ found, resolve (c.locationCity.getD "") (c.locationState.getD "") = some found := by
  have hresolvable := h.2
  simp only [resolvable, Bool.and_eq_true] at hresolvable
  exact Option.isSome_iff_exists.mp hresolvable.2

lemma Latest.congr {checkCalls checkCalls' : List CheckCallRow} (h : ∀ c, c ∈ checkCalls ↔ c ∈ checkCalls')
    {loadId : Uuid} {c : CheckCallRow} : Latest checkCalls loadId c ↔ Latest checkCalls' loadId c :=
  ⟨fun hc => ⟨(h c).mp hc.mem, hc.load, fun a ha => hc.last a ((h a).mpr ha)⟩,
    fun hc => ⟨(h c).mpr hc.mem, hc.load, fun a ha => hc.last a ((h a).mp ha)⟩⟩

lemma latest_tenantCheckCalls (order : ℕ → RowOrder) {organizationId loadId : Uuid} {c : CheckCallRow} :
    Latest (tenantCheckCalls order d organizationId) loadId c ↔
      Latest (d.checkCalls.rows.filter (fun c => c.organizationId == organizationId)) loadId c :=
  Latest.congr (fun c => by simp)

lemma coordinates_after (hkept : Kept resolve organizations order d s)
    (hsettled : ∀ k, Settled resolve organizations order d k s) {l : LoadRow} (hl : l ∈ d.loads.rows)
    (horg : l.organizationId ∈ d.organizations.rows.map OrganizationRow.id) :
    (∀ c, Source resolve d l c → l.currentLocationUpdatedAt.isSome = true → ∀ found,
      resolve (c.locationCity.getD "") (c.locationState.getD "") = some found →
      s.coordinates l.id = (some found.lat, some found.lng)) ∧
    ((∀ c, Source resolve d l c → l.currentLocationUpdatedAt.isSome = false) → s.coordinates l.id = d.coordinates l.id) := by
  constructor
  · rintro c ⟨hlatest, hresolvable⟩ htime found hfound
    obtain ⟨hc, hof⟩ : c ∈ d.checkCalls.rows ∧ c.organizationId = l.organizationId := by simpa using hlatest.mem
    simp only [resolvable, Bool.and_eq_true] at hresolvable
    have hjob : plan resolve organizations order d (.checkCall, c.id) = some (plannedCheckCall order d c).2 :=
      checkCall_planned.mpr ⟨c, hc, hof ▸ horg, hresolvable.1.1, hresolvable.1.2, rfl, rfl⟩
    refine (hsettled _ _ hjob).2 l.id found ((target_planned hc).mpr ⟨?_, hfound, l, hl, rfl, hof.symm, htime⟩)
    rw [latest_tenantCheckCalls, hof]
    exact hlatest
  · intro huntimed
    refine hkept.coordinates l.id (fun k job found hjob htarget => ?_)
    obtain ⟨kind, i⟩ := k
    cases kind with
    | stop => cases htarget
    | checkCall =>
      obtain ⟨c, hc, _, hopen, husable, rfl, rfl⟩ := checkCall_planned.mp hjob
      obtain ⟨hlatest, hfound, load, hload, hid, hof, htime⟩ := (target_planned hc).mp htarget
      obtain rfl := d.loads.eq_of_key hload hl hid
      rw [latest_tenantCheckCalls, ← hof] at hlatest
      have hsource : Source resolve d load c := ⟨hlatest, by simp [resolvable, hopen, husable, hfound]⟩
      rw [huntimed c hsource] at htime
      cases htime

lemma exists_source_iff (order : ℕ → RowOrder) (d : LocationStore) (l : LoadRow) :
    ((tenantCheckCalls order d l.organizationId).any (fun c =>
      decide (Latest (tenantCheckCalls order d l.organizationId) l.id c) && resolvable resolve d c)) = true ↔
      ∃ c, Source resolve d l c := by
  rw [List.any_eq_true]
  refine exists_congr (fun c => ?_)
  rw [Bool.and_eq_true, decide_eq_true_eq, latest_tenantCheckCalls, Source, mem_tenantCheckCalls]
  refine ⟨And.right, fun h => ⟨?_, h⟩⟩
  simpa using h.1.mem

end After

section Report

variable {resolve : Resolver} {organizations : RowOrder} {order : Uuid → ℕ → RowOrder} {d s : LocationStore}
  {dryRun : Bool} {queue : Option (Queue JobId TenantJob)}

lemma orgTurn_report (r : BackfillReport × Option (Queue JobId TenantJob)) (org : OrganizationRow) :
    (orgTurn resolve order d r org).1.perOrganization =
      r.1.perOrganization ++ [(analyzeOrg resolve (order org.id) d org).orgResult] ∧
    (orgTurn resolve order d r org).1.checkCalls =
      addEntityStats r.1.checkCalls (analyzeOrg resolve (order org.id) d org).orgResult.checkCalls ∧
    (orgTurn resolve order d r org).1.stops =
      addEntityStats r.1.stops (analyzeOrg resolve (order org.id) d org).orgResult.stops ∧
    (orgTurn resolve order d r org).1.loads =
      addLoadStats r.1.loads (analyzeOrg resolve (order org.id) d org).orgResult.loads := by
  obtain ⟨report, queue⟩ := r
  rw [orgTurn]
  dsimp only
  cases report.dryRun <;> cases queue <;> exact ⟨rfl, rfl, rfl, rfl⟩

lemma perOrganization_run :
    (run resolve organizations order d dryRun queue).1.perOrganization =
      (organizations.arrange d.organizations.rows).map (fun org => (analyzeOrg resolve (order org.id) d org).orgResult) :=
  Passes.foldl_collect (fun r : BackfillReport × Option (Queue JobId TenantJob) => r.1.perOrganization)
    (fun r org => (orgTurn_report r org).1) _ _

lemma foldl_orgTurn_queue (queue : Queue JobId TenantJob) (report : BackfillReport) (hexecute : report.dryRun = false)
    (orgs : List OrganizationRow) :
    (orgs.foldl (orgTurn resolve order d) (report, some queue)).2 =
      some ((orgs.flatMap (fun org => (analyzeOrg resolve (order org.id) d org).jobs)).foldl
        (fun queue job => queue.add job.1 job.2) queue) := by
  induction orgs generalizing queue report with
  | nil => rfl
  | cons org orgs ih =>
    rw [List.foldl_cons, List.flatMap_cons, List.foldl_append]
    have hturn : orgTurn resolve order d (report, some queue) org =
        ((orgTurn resolve order d (report, some queue) org).1,
          some ((analyzeOrg resolve (order org.id) d org).jobs.foldl (fun queue job => queue.add job.1 job.2) queue)) := by
      rw [orgTurn, hexecute]
      rfl
    rw [hturn]
    refine ih _ _ ?_
    rw [orgTurn, hexecute]
    rfl

lemma run_queue (queue : Queue JobId TenantJob) :
    (run resolve organizations order d false (some queue)).2 =
      some ((allJobs resolve organizations order d).foldl (fun queue job => queue.add job.1 job.2) queue) :=
  foldl_orgTurn_queue queue _ rfl _

lemma run_checkCalls {f : BackfillEntityStats → ℕ} (hadd : ∀ a b, f (addEntityStats a b) = f a + f b) (hzero : f {} = 0) :
    f (run resolve organizations order d dryRun queue).1.checkCalls =
      (d.organizations.rows.map (fun org => f (analyzeOrg resolve (order org.id) d org).orgResult.checkCalls)).sum := by
  have hstep (r : BackfillReport × Option (Queue JobId TenantJob)) (org : OrganizationRow) :
      f (orgTurn resolve order d r org).1.checkCalls =
        f r.1.checkCalls + f (analyzeOrg resolve (order org.id) d org).orgResult.checkCalls := by
    rw [(orgTurn_report r org).2.1, hadd]
  have hsum := Passes.foldl_sum (fun r : BackfillReport × Option (Queue JobId TenantJob) => f r.1.checkCalls) hstep
    ({ dryRun }, queue) (organizations.arrange d.organizations.rows)
  dsimp only at hsum
  rw [hzero, Nat.zero_add, ((organizations.perm _).map _).sum_eq] at hsum
  exact hsum

lemma run_stops {f : BackfillEntityStats → ℕ} (hadd : ∀ a b, f (addEntityStats a b) = f a + f b) (hzero : f {} = 0) :
    f (run resolve organizations order d dryRun queue).1.stops =
      (d.organizations.rows.map (fun org => f (analyzeOrg resolve (order org.id) d org).orgResult.stops)).sum := by
  have hstep (r : BackfillReport × Option (Queue JobId TenantJob)) (org : OrganizationRow) :
      f (orgTurn resolve order d r org).1.stops =
        f r.1.stops + f (analyzeOrg resolve (order org.id) d org).orgResult.stops := by
    rw [(orgTurn_report r org).2.2.1, hadd]
  have hsum := Passes.foldl_sum (fun r : BackfillReport × Option (Queue JobId TenantJob) => f r.1.stops) hstep
    ({ dryRun }, queue) (organizations.arrange d.organizations.rows)
  dsimp only at hsum
  rw [hzero, Nat.zero_add, ((organizations.perm _).map _).sum_eq] at hsum
  exact hsum

lemma run_loads {f : BackfillLoadStats → ℕ} (hadd : ∀ a b, f (addLoadStats a b) = f a + f b) (hzero : f {} = 0) :
    f (run resolve organizations order d dryRun queue).1.loads =
      (d.organizations.rows.map (fun org => f (analyzeOrg resolve (order org.id) d org).orgResult.loads)).sum := by
  have hstep (r : BackfillReport × Option (Queue JobId TenantJob)) (org : OrganizationRow) :
      f (orgTurn resolve order d r org).1.loads =
        f r.1.loads + f (analyzeOrg resolve (order org.id) d org).orgResult.loads := by
    rw [(orgTurn_report r org).2.2.2, hadd]
  have hsum := Passes.foldl_sum (fun r : BackfillReport × Option (Queue JobId TenantJob) => f r.1.loads) hstep
    ({ dryRun }, queue) (organizations.arrange d.organizations.rows)
  dsimp only at hsum
  rw [hzero, Nat.zero_add, ((organizations.perm _).map _).sum_eq] at hsum
  exact hsum

lemma countP_tenantCheckCalls (order : ℕ → RowOrder) (d : LocationStore) (organizationId : Uuid) (p : CheckCallRow → Bool) :
    (tenantCheckCalls order d organizationId).countP p =
      d.checkCalls.rows.countP (fun c => c.organizationId == organizationId && p c) := by
  rw [tenantCheckCalls, (findMany_perm _ _ _).countP_eq, List.countP_filter]
  exact List.countP_congr (fun c _ => by rw [Bool.and_comm])

lemma countP_tenantStops (order : ℕ → RowOrder) (d : LocationStore) (organizationId : Uuid) (p : StopRow → Bool) :
    (tenantStops order d organizationId).countP p =
      d.stops.rows.countP (fun s => s.organizationId == organizationId && p s) := by
  rw [tenantStops, (findMany_perm _ _ _).countP_eq, List.countP_filter]
  exact List.countP_congr (fun s _ => by rw [Bool.and_comm])

lemma countP_tenantLoads (order : ℕ → RowOrder) (d : LocationStore) (organizationId : Uuid) (p : LoadRow → Bool) :
    (tenantLoads order d organizationId).countP p =
      d.loads.rows.countP (fun l => l.organizationId == organizationId && p l) := by
  rw [tenantLoads, (findMany_perm _ _ _).countP_eq, List.countP_filter]
  exact List.countP_congr (fun l _ => by rw [Bool.and_comm])

lemma analyzeOrg_counts (resolve : Resolver) (order : ℕ → RowOrder) (d : LocationStore) (org : OrganizationRow) :
    (analyzeOrg resolve order d org).orgResult.checkCalls.wouldResolve =
      d.checkCalls.rows.countP (fun c => c.organizationId == org.id && resolvable resolve d c) ∧
    (analyzeOrg resolve order d org).orgResult.stops.wouldResolve =
      d.stops.rows.countP (fun stop => stop.organizationId == org.id && stopResolvable resolve d stop) := by
  rw [analyzeOrg_checkCalls, analyzeOrg_stops, countP_tenantCheckCalls, countP_tenantStops]
  exact ⟨rfl, rfl⟩

lemma analyzeOrg_examined (resolve : Resolver) (order : ℕ → RowOrder) (d : LocationStore) (org : OrganizationRow) :
    (analyzeOrg resolve order d org).orgResult.checkCalls.totalUnresolvedExamined =
      d.checkCalls.rows.countP (fun c => c.organizationId == org.id && isUnresolved (d.checkCallResolutions c.id)) ∧
    (analyzeOrg resolve order d org).orgResult.stops.totalUnresolvedExamined =
      d.stops.rows.countP (fun stop => stop.organizationId == org.id && isUnresolved (d.stopResolutions stop.id)) := by
  rw [← countP_tenantCheckCalls order, ← countP_tenantStops order, List.countP_eq_length_filter,
    List.countP_eq_length_filter, analyzeOrg]
  dsimp only
  rw [foldl_checkCallRound_examined, foldl_stopRound_examined]
  exact ⟨rfl, rfl⟩

end Report

end LocationResolutionBackfillService

open LocationResolutionBackfillService

namespace LocationStore

def newlyResolved (before after : LocationStore) (organizationId : Uuid) (c : CheckCallRow) : Bool :=
  c.organizationId == organizationId && isUnresolved (before.checkCallResolutions c.id) &&
    !isUnresolved (after.checkCallResolutions c.id)

def stopNewlyResolved (before after : LocationStore) (organizationId : Uuid) (s : StopRow) : Bool :=
  s.organizationId == organizationId && isUnresolved (before.stopResolutions s.id) &&
    !isUnresolved (after.stopResolutions s.id)

def newlyLocated (before after : LocationStore) (organizationId : Uuid) (l : LoadRow) : Bool :=
  l.organizationId == organizationId && !hasCoordinates before l && hasCoordinates after l

/-- A Load whose latest check call gained coordinates, but that does not say when it was updated. -/
def passedOver (before after : LocationStore) (organizationId : Uuid) (l : LoadRow) : Bool :=
  let checkCalls := before.checkCalls.rows.filter (fun c => c.organizationId == organizationId)
  l.organizationId == organizationId && !hasCoordinates before l && l.currentLocationUpdatedAt.isNone &&
    checkCalls.any (fun c => decide (Latest checkCalls l.id c) && newlyResolved before after organizationId c)

end LocationStore

section Prediction

open LocationStore

variable {resolve : Resolver} {organizations : RowOrder} {order : Uuid → ℕ → RowOrder} {d : LocationStore}
  {queue added : Queue JobId TenantJob} {report : BackfillReport} {es : List (WorkEvent JobId Instant)} {s : BackfillState}

lemma backfill_settled (hids : ∀ job ∈ allJobs resolve organizations order d, queue job.1 = none)
    (hidle : ∀ k, ¬ queue.Pending k) (hreport : run resolve organizations order d false (some queue) = (report, some added))
    (hrun : Run (Guarded (Total (BackfillState.next resolve)) (WorkState.Lasts attempts)) ⟨d, added⟩ es s)
    (hquiet : ∀ k, ¬ s.queue.Pending k) :
    Kept resolve organizations order d s.store ∧ ∀ k, Settled resolve organizations order d k s.store := by
  have hadded : added = (allJobs resolve organizations order d).foldl (fun queue job => queue.add job.1 job.2) queue := by
    rw [← Option.some.injEq, ← run_queue, hreport]
  have hunderway : Underway (plan resolve organizations order d) (Kept resolve organizations order d)
      (Settled resolve organizations order d) ⟨d, added⟩ := by
    rw [hadded]
    exact underway_of_added hids allJobs_nodup hidle (fun k job => plan_eq_some)
      ⟨.refl d, fun _ _ => rfl, fun _ _ => rfl⟩
  obtain ⟨hkept, hsettled⟩ := backfill_leaves.drained hunderway hrun hquiet
  refine ⟨hkept, fun k => ?_⟩
  cases hk : plan resolve organizations order d k with
  | none =>
    intro job hjob
    rw [hk] at hjob
    cases hjob
  | some job => exact hsettled k job hk

variable (hkept : Kept resolve organizations order d s.store)
  (hsettled : ∀ k, Settled resolve organizations order d k s.store)

include hkept hsettled

lemma newlyResolved_iff {organizationId : Uuid} (horg : organizationId ∈ d.organizations.rows.map OrganizationRow.id)
    {c : CheckCallRow} (hc : c ∈ d.checkCalls.rows) :
    newlyResolved d s.store organizationId c = (c.organizationId == organizationId && resolvable resolve d c) := by
  by_cases hof : c.organizationId = organizationId
  · rw [newlyResolved, checkCall_after hkept hsettled hc (hof ▸ horg), hof, beq_self_eq_true, Bool.true_and, Bool.true_and]
    cases hopen : isUnresolved (d.checkCallResolutions c.id) <;> simp [resolvable, hopen]
  · rw [newlyResolved, beq_false_of_ne hof, Bool.false_and, Bool.false_and, Bool.false_and]

lemma stopNewlyResolved_iff {organizationId : Uuid} (horg : organizationId ∈ d.organizations.rows.map OrganizationRow.id)
    {stop : StopRow} (hstop : stop ∈ d.stops.rows) :
    stopNewlyResolved d s.store organizationId stop =
      (stop.organizationId == organizationId && stopResolvable resolve d stop) := by
  by_cases hof : stop.organizationId = organizationId
  · rw [stopNewlyResolved, stop_after hkept hsettled hstop (hof ▸ horg), hof, beq_self_eq_true, Bool.true_and, Bool.true_and]
    cases hopen : isUnresolved (d.stopResolutions stop.id) <;> simp [stopResolvable, hopen]
  · rw [stopNewlyResolved, beq_false_of_ne hof, Bool.false_and, Bool.false_and, Bool.false_and]

lemma newlyLocated_iff {organizationId : Uuid} (horg : organizationId ∈ d.organizations.rows.map OrganizationRow.id)
    {l : LoadRow} (hl : l ∈ d.loads.rows) :
    newlyLocated d s.store organizationId l = true ↔
      l.organizationId = organizationId ∧ hasCoordinates d l = false ∧ l.currentLocationUpdatedAt.isSome = true ∧
        ∃ c, Source resolve d l c := by
  rw [newlyLocated, Bool.and_eq_true, Bool.and_eq_true, beq_iff_eq, Bool.not_eq_true', and_assoc]
  refine and_congr_right (fun hof => and_congr_right (fun hbare => ?_))
  obtain ⟨hwritten, hunwritten⟩ := coordinates_after hkept hsettled hl (hof ▸ horg)
  constructor
  · intro hlocated
    by_contra hnone
    have hsame : s.store.coordinates l.id = d.coordinates l.id := by
      refine hunwritten (fun c hc => ?_)
      by_contra htime
      exact hnone ⟨Bool.not_eq_false _ ▸ htime, c, hc⟩
    have hsame' : hasCoordinates s.store l = hasCoordinates d l :=
      congrArg (fun p : Option ℤ × Option ℤ => p.1.isSome && p.2.isSome) hsame
    rw [hsame', hbare] at hlocated
    cases hlocated
  · rintro ⟨htime, c, hc⟩
    obtain ⟨found, hfound⟩ := hc.found
    have hcoordinates := hwritten c hc htime found hfound
    have hsame : hasCoordinates s.store l = ((some found.lat).isSome && (some found.lng).isSome) :=
      congrArg (fun p : Option ℤ × Option ℤ => p.1.isSome && p.2.isSome) hcoordinates
    rw [hsame]
    rfl

lemma passedOver_iff {organizationId : Uuid} (horg : organizationId ∈ d.organizations.rows.map OrganizationRow.id)
    (l : LoadRow) :
    passedOver d s.store organizationId l = true ↔
      l.organizationId = organizationId ∧ hasCoordinates d l = false ∧ l.currentLocationUpdatedAt.isNone = true ∧
        ∃ c, Source resolve d l c := by
  rw [passedOver, Bool.and_eq_true, Bool.and_eq_true, Bool.and_eq_true, beq_iff_eq, Bool.not_eq_true', and_assoc, and_assoc]
  refine and_congr_right (fun hof => and_congr_right (fun _ => and_congr_right (fun _ => ?_)))
  subst hof
  rw [List.any_eq_true]
  refine exists_congr (fun c => ?_)
  rw [Bool.and_eq_true, decide_eq_true_eq, List.mem_filter]
  constructor
  · rintro ⟨⟨hc, hof⟩, hlatest, hnew⟩
    rw [newlyResolved_iff hkept hsettled horg hc, hof, Bool.true_and] at hnew
    exact ⟨hlatest, hnew⟩
  · rintro ⟨hlatest, hnew⟩
    obtain ⟨hc, hof⟩ := List.mem_filter.mp hlatest.mem
    refine ⟨⟨hc, hof⟩, hlatest, ?_⟩
    rw [newlyResolved_iff hkept hsettled horg hc, hof, hnew]
    rfl

lemma analyzeOrg_located {order' : ℕ → RowOrder} {org : OrganizationRow}
    (horg : org.id ∈ d.organizations.rows.map OrganizationRow.id) :
    (analyzeOrg resolve order' d org).orgResult.loads.wouldReceiveCoordinates =
      d.loads.rows.countP (d.newlyLocated s.store org.id) + d.loads.rows.countP (d.passedOver s.store org.id) := by
  rw [analyzeOrg_loads, countP_tenantLoads, List.countP_eq_countP_filter_add _ _ (fun l => l.currentLocationUpdatedAt.isSome),
    List.countP_filter, List.countP_filter]
  congr 1
  · refine List.countP_congr (fun l hl => ?_)
    rw [newlyLocated_iff hkept hsettled horg hl]
    simp only [Bool.and_eq_true, beq_iff_eq, Bool.not_eq_true', and_assoc]
    refine and_congr_right (fun horg' => and_congr_right (fun _ => ?_))
    rw [← horg', exists_source_iff, and_comm]
  · refine List.countP_congr (fun l hl => ?_)
    rw [passedOver_iff hkept hsettled horg]
    simp only [Bool.and_eq_true, beq_iff_eq, Bool.not_eq_true', and_assoc]
    refine and_congr_right (fun horg' => and_congr_right (fun _ => ?_))
    rw [← horg', exists_source_iff, and_comm, Option.isSome_eq_false_iff]

lemma counts_after (order' order'' : ℕ → RowOrder) {org : OrganizationRow}
    (horg : org.id ∈ d.organizations.rows.map OrganizationRow.id) :
    (analyzeOrg resolve order' s.store org).orgResult.checkCalls.wouldResolve = 0 ∧
    (analyzeOrg resolve order' s.store org).orgResult.stops.wouldResolve = 0 ∧
    (analyzeOrg resolve order' s.store org).orgResult.checkCalls.totalUnresolvedExamined +
        (analyzeOrg resolve order'' d org).orgResult.checkCalls.wouldResolve =
      (analyzeOrg resolve order'' d org).orgResult.checkCalls.totalUnresolvedExamined ∧
    (analyzeOrg resolve order' s.store org).orgResult.stops.totalUnresolvedExamined +
        (analyzeOrg resolve order'' d org).orgResult.stops.wouldResolve =
      (analyzeOrg resolve order'' d org).orgResult.stops.totalUnresolvedExamined := by
  have hcall (c : CheckCallRow) (hc : c ∈ d.checkCalls.rows) (hof : c.organizationId = org.id) :
      isUnresolved (s.store.checkCallResolutions c.id) =
        (isUnresolved (d.checkCallResolutions c.id) && !resolvable resolve d c) :=
    checkCall_after hkept hsettled hc (hof ▸ horg)
  have hstop (stop : StopRow) (hrow : stop ∈ d.stops.rows) (hof : stop.organizationId = org.id) :
      isUnresolved (s.store.stopResolutions stop.id) =
        (isUnresolved (d.stopResolutions stop.id) && !stopResolvable resolve d stop) :=
    stop_after hkept hsettled hrow (hof ▸ horg)
  simp only [analyzeOrg_counts, analyzeOrg_examined, hkept.rows.checkCalls, hkept.rows.stops]
  refine ⟨?_, ?_, ?_, ?_⟩
  · refine List.countP_eq_zero.mpr (fun c hc h => ?_)
    simp only [Bool.and_eq_true, beq_iff_eq, resolvable] at h
    obtain ⟨hof, ⟨hopen, husable⟩, hfound⟩ := h
    rw [hcall c hc hof, resolvable, husable, hfound] at hopen
    simp at hopen
  · refine List.countP_eq_zero.mpr (fun stop hrow h => ?_)
    simp only [Bool.and_eq_true, beq_iff_eq, stopResolvable] at h
    obtain ⟨hof, ⟨hopen, husable⟩, hfound⟩ := h
    rw [hstop stop hrow hof, stopResolvable, husable, hfound] at hopen
    simp at hopen
  · rw [List.countP_eq_countP_filter_add d.checkCalls.rows
      (fun c => c.organizationId == org.id && isUnresolved (d.checkCallResolutions c.id)) (resolvable resolve d),
      List.countP_filter, List.countP_filter, Nat.add_comm]
    congr 1
    · refine List.countP_congr (fun c _ => ?_)
      simp only [Bool.and_eq_true, beq_iff_eq, resolvable]
      tauto
    · refine List.countP_congr (fun c hc => ?_)
      simp only [Bool.and_eq_true, beq_iff_eq, and_assoc]
      refine and_congr_right (fun hof => ?_)
      rw [hcall c hc hof, Bool.and_eq_true]
  · rw [List.countP_eq_countP_filter_add d.stops.rows
      (fun stop => stop.organizationId == org.id && isUnresolved (d.stopResolutions stop.id)) (stopResolvable resolve d),
      List.countP_filter, List.countP_filter, Nat.add_comm]
    congr 1
    · refine List.countP_congr (fun stop _ => ?_)
      simp only [Bool.and_eq_true, beq_iff_eq, stopResolvable]
      tauto
    · refine List.countP_congr (fun stop hrow => ?_)
      simp only [Bool.and_eq_true, beq_iff_eq, and_assoc]
      refine and_congr_right (fun hof => ?_)
      rw [hstop stop hrow hof, Bool.and_eq_true]

lemma loads_after {order' : ℕ → RowOrder} {org : OrganizationRow}
    (horg : org.id ∈ d.organizations.rows.map OrganizationRow.id) :
    (analyzeOrg resolve order' s.store org).orgResult.loads.wouldReceiveCoordinates = 0 := by
  rw [analyzeOrg_loads]
  refine List.countP_eq_zero.mpr (fun l _ h => ?_)
  simp only [Bool.and_eq_true, List.any_eq_true] at h
  obtain ⟨_, c, hc, _, hresolvable⟩ := h
  obtain ⟨hrow, hof⟩ := mem_tenantCheckCalls.mp hc
  rw [hkept.rows.checkCalls] at hrow
  simp only [resolvable, Bool.and_eq_true] at hresolvable
  obtain ⟨⟨hopen, husable⟩, hfound⟩ := hresolvable
  rw [checkCall_after hkept hsettled hrow (hof ▸ horg), resolvable, husable, hfound] at hopen
  simp at hopen

omit hkept hsettled

/-- What a backfill that executes reports, per tenant, is what its jobs do once all of them have run: the check calls and
stops that they resolve, and the Loads that they locate, each after its latest check call. Only the Loads that do not
say when they were updated are counted without being located. -/
theorem backfill_as_predicted (hids : ∀ job ∈ allJobs resolve organizations order d, queue job.1 = none)
    (hidle : ∀ k, ¬ queue.Pending k) (hreport : run resolve organizations order d false (some queue) = (report, some added))
    (hrun : Run (Guarded (Total (BackfillState.next resolve)) (WorkState.Lasts attempts)) ⟨d, added⟩ es s)
    (hquiet : ∀ k, ¬ s.queue.Pending k) : ∀ result ∈ report.perOrganization,
    result.checkCalls.wouldResolve = d.checkCalls.rows.countP (d.newlyResolved s.store result.organizationId) ∧
    result.stops.wouldResolve = d.stops.rows.countP (d.stopNewlyResolved s.store result.organizationId) ∧
    result.loads.wouldReceiveCoordinates = d.loads.rows.countP (d.newlyLocated s.store result.organizationId) +
      d.loads.rows.countP (d.passedOver s.store result.organizationId) ∧
    ∀ l ∈ d.loads.rows, d.newlyLocated s.store result.organizationId l = true → ∃ c found,
      Latest (d.checkCalls.rows.filter (fun c => c.organizationId == l.organizationId)) l.id c ∧
      resolve (c.locationCity.getD "") (c.locationState.getD "") = some found ∧
      s.store.coordinates l.id = (some found.lat, some found.lng) := by
  obtain ⟨hkept, hsettled⟩ := backfill_settled hids hidle hreport hrun hquiet
  have hresults : report.perOrganization = (organizations.arrange d.organizations.rows).map
      (fun org => (analyzeOrg resolve (order org.id) d org).orgResult) := by
    rw [← perOrganization_run, hreport]
  intro result hresult
  rw [hresults] at hresult
  obtain ⟨org, horg, rfl⟩ := List.mem_map.mp hresult
  have hof : org.id ∈ d.organizations.rows.map OrganizationRow.id :=
    List.mem_map_of_mem ((organizations.perm _).mem_iff.mp horg)
  have hname : (analyzeOrg resolve (order org.id) d org).orgResult.organizationId = org.id := rfl
  rw [hname]
  obtain ⟨hcalls, hstops⟩ := analyzeOrg_counts resolve (order org.id) d org
  refine ⟨hcalls.trans ?_, hstops.trans ?_, ?_, fun l hl hlocated => ?_⟩
  · exact List.countP_congr (fun c hc => by rw [newlyResolved_iff hkept hsettled hof hc])
  · exact List.countP_congr (fun stop hstop => by rw [stopNewlyResolved_iff hkept hsettled hof hstop])
  · exact analyzeOrg_located hkept hsettled hof
  · obtain ⟨hof', _, htime, c, hc⟩ := (newlyLocated_iff hkept hsettled hof hl).mp hlocated
    obtain ⟨found, hfound⟩ := hc.found
    exact ⟨c, found, hc.1, hfound, (coordinates_after hkept hsettled hl (hof' ▸ hof)).1 c hc htime found hfound⟩

theorem backfill_again (hids : ∀ job ∈ allJobs resolve organizations order d, queue job.1 = none)
    (hidle : ∀ k, ¬ queue.Pending k) (hreport : run resolve organizations order d false (some queue) = (report, some added))
    (hrun : Run (Guarded (Total (BackfillState.next resolve)) (WorkState.Lasts attempts)) ⟨d, added⟩ es s)
    (hquiet : ∀ k, ¬ s.queue.Pending k) {organizations' : RowOrder} {order' : Uuid → ℕ → RowOrder} {dryRun : Bool}
    {queue' : Option (Queue JobId TenantJob)} {again : BackfillReport}
    (hagain : (run resolve organizations' order' s.store dryRun queue').1 = again) :
    again.checkCalls.wouldResolve = 0 ∧ again.stops.wouldResolve = 0 ∧ again.loads.wouldReceiveCoordinates = 0 ∧
    again.checkCalls.totalUnresolvedExamined + report.checkCalls.wouldResolve =
      report.checkCalls.totalUnresolvedExamined ∧
    again.stops.totalUnresolvedExamined + report.stops.wouldResolve = report.stops.totalUnresolvedExamined := by
  obtain ⟨hkept, hsettled⟩ := backfill_settled hids hidle hreport hrun hquiet
  have hfirst : (run resolve organizations order d false (some queue)).1 = report := by rw [hreport]
  have hmember (org : OrganizationRow) (horg : org ∈ d.organizations.rows) :
      org.id ∈ d.organizations.rows.map OrganizationRow.id := List.mem_map_of_mem horg
  have hafter (org : OrganizationRow) (horg : org ∈ d.organizations.rows) :=
    counts_after hkept hsettled (order' org.id) (order org.id) (hmember org horg)
  subst hagain hfirst
  rw [run_checkCalls (f := BackfillEntityStats.wouldResolve) (fun _ _ => rfl) rfl,
    run_stops (f := BackfillEntityStats.wouldResolve) (fun _ _ => rfl) rfl,
    run_loads (f := BackfillLoadStats.wouldReceiveCoordinates) (fun _ _ => rfl) rfl,
    run_checkCalls (f := BackfillEntityStats.totalUnresolvedExamined) (fun _ _ => rfl) rfl,
    run_checkCalls (f := BackfillEntityStats.wouldResolve) (fun _ _ => rfl) rfl,
    run_checkCalls (f := BackfillEntityStats.totalUnresolvedExamined) (fun _ _ => rfl) rfl,
    run_stops (f := BackfillEntityStats.totalUnresolvedExamined) (fun _ _ => rfl) rfl,
    run_stops (f := BackfillEntityStats.wouldResolve) (fun _ _ => rfl) rfl,
    run_stops (f := BackfillEntityStats.totalUnresolvedExamined) (fun _ _ => rfl) rfl, hkept.rows.organizations,
    ← List.sum_map_add, ← List.sum_map_add]
  refine ⟨List.sum_eq_zero ?_, List.sum_eq_zero ?_, List.sum_eq_zero ?_, ?_, ?_⟩
  · simp only [List.forall_mem_map]
    exact fun org horg => (hafter org horg).1
  · simp only [List.forall_mem_map]
    exact fun org horg => (hafter org horg).2.1
  · simp only [List.forall_mem_map]
    exact fun org horg => loads_after hkept hsettled (hmember org horg)
  · exact congrArg List.sum (List.map_congr_left (fun org horg => (hafter org horg).2.2.1))
  · exact congrArg List.sum (List.map_congr_left (fun org horg => (hafter org horg).2.2.2))

end Prediction

namespace BackfillSample

def resolve : Resolver := fun city state =>
  if city = "Reno" ∧ state = "NV" then some ⟨39529600, -119813800, "census"⟩
  else if city = "Elko" ∧ state = "NV" then some ⟨40832400, -115763100, "census"⟩ else none

def checkCallRows : List CheckCallRow :=
  [⟨20, 1, 10, some "Reno", some "NV", 50⟩, ⟨21, 1, 10, some "Elko", some "NV", 60⟩, ⟨22, 1, 11, some "Reno", some "NV", 70⟩,
    ⟨23, 1, 10, some "Nowhere", some "ZZ", 40⟩]

def loadRows : List LoadRow := [⟨10, 1, "L-10", some 60⟩, ⟨11, 1, "L-11", none⟩]

lemma checkCallRows_nodup : (checkCallRows.map CheckCallRow.id).Nodup := by decide

lemma loadRows_nodup : (loadRows.map LoadRow.id).Nodup := by decide

def store : LocationStore where
  organizations := ⟨[⟨1, "Basin Freight"⟩], List.nodup_singleton _⟩
  checkCalls := ⟨checkCallRows, checkCallRows_nodup⟩
  stops := ⟨[⟨30, 1, 10, "Elko", "NV"⟩], List.nodup_singleton _⟩
  loads := ⟨loadRows, loadRows_nodup⟩

def reported : BackfillReport × Option (Queue JobId TenantJob) :=
  run resolve .stored (fun _ _ => .stored) store false (some (fun _ => none))

def jobs : List (JobId × TenantJob) := allJobs resolve .stored (fun _ _ => .stored) store

def events : List (WorkEvent JobId Instant) :=
  [⟨(.stop, 30), .start, 80⟩, ⟨(.stop, 30), .complete, 81⟩, ⟨(.checkCall, 23), .start, 82⟩, ⟨(.checkCall, 23), .complete, 83⟩,
    ⟨(.checkCall, 22), .start, 84⟩, ⟨(.checkCall, 22), .complete, 85⟩, ⟨(.checkCall, 21), .start, 86⟩,
    ⟨(.checkCall, 21), .stall true, 87⟩, ⟨(.checkCall, 20), .start, 88⟩, ⟨(.checkCall, 20), .complete, 89⟩,
    ⟨(.checkCall, 21), .start, 90⟩, ⟨(.checkCall, 21), .complete, 91⟩]

def added : Queue JobId TenantJob := jobs.foldl (fun queue job => queue.add job.1 job.2) (fun _ => none)

def after : BackfillState := events.foldl (BackfillState.next resolve) ⟨store, added⟩

lemma report_added : reported = (reported.1, some added) := Prod.ext rfl (run_queue _)

lemma run_after : Run (Guarded (Total (BackfillState.next resolve)) (WorkState.Lasts attempts)) ⟨store, added⟩ events after :=
  run_total_checked (by decide +kernel)

lemma quiet (k : JobId) : ¬ after.queue.Pending k := by
  by_cases hk : ∃ job ∈ jobs, job.1 = k
  · obtain ⟨job, hjob, rfl⟩ := hk
    have hall : ∀ job ∈ jobs, (after.queue job.1).all (fun j => !j.pending) = true := by decide +kernel
    exact Queue.not_pending_of_all (hall job hjob)
  · have hnone : added k = none := Queue.foldl_add_other (fun job hjob hid => hk ⟨job, hjob, hid⟩)
    rintro ⟨j, hj, _⟩
    rw [WorkState.queue_none run_after.unguarded hnone] at hj
    cases hj

end BackfillSample

open BackfillSample in
theorem backfill_as_predicted_sample : ∃ result ∈ reported.1.perOrganization, result.checkCalls.wouldResolve = 3 ∧
    store.checkCalls.rows.countP (store.newlyResolved after.store result.organizationId) = 3 ∧
    result.stops.wouldResolve = store.stops.rows.countP (store.stopNewlyResolved after.store result.organizationId) ∧
    result.loads.wouldReceiveCoordinates = store.loads.rows.countP (store.newlyLocated after.store result.organizationId) +
      store.loads.rows.countP (store.passedOver after.store result.organizationId) := by
  obtain ⟨result, hresult, hthree⟩ : ∃ result ∈ reported.1.perOrganization, result.checkCalls.wouldResolve = 3 :=
    List.any_eq_true.mp rfl |>.imp (fun _ h => ⟨h.1, of_decide_eq_true h.2⟩)
  obtain ⟨hcalls, hstops, hloads, _⟩ :=
    backfill_as_predicted (fun _ _ => rfl) (by rintro k ⟨j, ⟨⟩, _⟩) report_added run_after quiet result hresult
  exact ⟨result, hresult, hthree, hcalls.symm.trans hthree, hstops, hloads⟩

open BackfillSample in
theorem backfill_again_sample :
    let again := (run resolve .reversed (fun _ _ => .reversed) after.store true none).1
    again.checkCalls.wouldResolve = 0 ∧ again.stops.wouldResolve = 0 ∧ again.loads.wouldReceiveCoordinates = 0 ∧
    again.checkCalls.totalUnresolvedExamined + reported.1.checkCalls.wouldResolve =
      reported.1.checkCalls.totalUnresolvedExamined ∧
    again.stops.totalUnresolvedExamined + reported.1.stops.wouldResolve = reported.1.stops.totalUnresolvedExamined :=
  backfill_again (fun _ _ => rfl) (by rintro k ⟨j, ⟨⟩, _⟩) report_added run_after quiet rfl

end Truckmaster.Locations
