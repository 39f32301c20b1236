import Truckmaster.Library.JobRuns
import Truckmaster.Locations.LocationResolution

/-! The backfill of old check calls and stops: a report of what its jobs will resolve, and the jobs. -/

namespace Truckmaster.Locations

open Common Tables JobQueues

structure CheckCallRow where
  id : Uuid
  organizationId : Uuid
  loadId : Uuid
  locationCity : Option String
  locationState : Option String
  occurredAt : Instant
  deriving DecidableEq, Repr

structure StopRow where
  id : Uuid
  organizationId : Uuid
  loadId : Uuid
  city : String
  state : String
  deriving DecidableEq, Repr

structure LoadRow where
  id : Uuid
  organizationId : Uuid
  loadNumber : String
  currentLocationUpdatedAt : Option Instant
  deriving DecidableEq, Repr

structure OrganizationRow where
  id : Uuid
  legalName : String
  deriving DecidableEq, Repr

/-- The rows of every tenant, and by their ids the columns that the jobs write. -/
structure LocationStore where
  organizations : Table OrganizationRow.id
  checkCalls : Table CheckCallRow.id
  stops : Table StopRow.id
  loads : Table LoadRow.id
  checkCallResolutions : Uuid → Resolution := fun _ => {}
  stopResolutions : Uuid → Resolution := fun _ => {}
  currentLocationLat : Uuid → Option ℤ := fun _ => none
  currentLocationLng : Uuid → Option ℤ := fun _ => none

structure TenantJob where
  organizationId : Uuid
  data : LocationResolutionJobData
  deriving DecidableEq, Repr

structure BackfillEntityStats where
  totalUnresolvedExamined : ℕ := 0
  usableCityState : ℕ := 0
  cacheHits : ℕ := 0
  wouldResolve : ℕ := 0
  wouldRemainUnresolved : ℕ := 0
  deriving DecidableEq, Repr

structure BackfillLoadStats where
  wouldReceiveCoordinates : ℕ := 0
  skippedStaleCheckCall : ℕ := 0
  noApplicableLatestCheckCall : ℕ := 0
  alreadyHavingCoordinates : ℕ := 0
  deriving DecidableEq, Repr

structure BackfillSampleRef where
  organizationId : Uuid
  id : Uuid
  city : String
  state : String
  deriving DecidableEq, Repr

structure BackfillLoadSampleRef where
  organizationId : Uuid
  loadId : Uuid
  loadNumber : String
  viaCheckCallId : Option Uuid := none
  deriving DecidableEq, Repr

structure BackfillSamples where
  checkCallResolvable : Option BackfillSampleRef := none
  checkCallUnresolved : Option BackfillSampleRef := none
  stopResolvable : Option BackfillSampleRef := none
  stopUnresolved : Option BackfillSampleRef := none
  loadReceivingCoordinates : Option BackfillLoadSampleRef := none
  loadStaleGuarded : Option BackfillLoadSampleRef := none
  deriving DecidableEq, Repr

structure OrgBackfillResult where
  organizationId : Uuid
  organizationName : String
  checkCalls : BackfillEntityStats
  stops : BackfillEntityStats
  loads : BackfillLoadStats
  deriving DecidableEq, Repr

structure BackfillReport where
  dryRun : Bool
  jobsEnqueued : ℕ := 0
  perOrganization : List OrgBackfillResult := []
  checkCalls : BackfillEntityStats := {}
  stops : BackfillEntityStats := {}
  loads : BackfillLoadStats := {}
  samples : BackfillSamples := {}
  deriving DecidableEq, Repr

structure OrgAnalysis where
  orgResult : OrgBackfillResult
  jobs : List (JobId × TenantJob)
  orgSamples : BackfillSamples

namespace LocationStore

def applyToCheckCall (id : Uuid) (job : TenantJob) (resolved : Option ResolvedLocation) (now : Instant)
    (d : LocationStore) : LocationStore :=
  match (d.checkCalls.get id).filter (fun c => c.organizationId == job.organizationId) with
  | none => d
  | some checkCall =>
    let written := { d with
      checkCallResolutions := Function.update d.checkCallResolutions id ((d.checkCallResolutions id).apply resolved now) }
    match resolved with
    | none => written
    | some found =>
      let isGuarded (load : LoadRow) : Bool := load.organizationId == job.organizationId &&
        job.data.asOfLoadUpdatedAt.isSome && load.currentLocationUpdatedAt == job.data.asOfLoadUpdatedAt
      if (d.loads.get checkCall.loadId).any isGuarded then
        { written with
          currentLocationLat := Function.update d.currentLocationLat checkCall.loadId (some found.lat)
          currentLocationLng := Function.update d.currentLocationLng checkCall.loadId (some found.lng) }
      else written

def applyToStop (id : Uuid) (job : TenantJob) (resolved : Option ResolvedLocation) (now : Instant) (d : LocationStore) :
    LocationStore :=
  if (d.stops.get id).any (fun s => s.organizationId == job.organizationId) then
    { d with stopResolutions := Function.update d.stopResolutions id ((d.stopResolutions id).apply resolved now) }
  else d

def processJob (resolve : Resolver) (id : JobId) (job : TenantJob) (now : Instant) (d : LocationStore) : LocationStore :=
  let resolved := resolve job.data.city job.data.state
  match id.1 with
  | .checkCall => d.applyToCheckCall id.2 job resolved now
  | .stop => d.applyToStop id.2 job resolved now

end LocationStore

namespace LocationResolutionBackfillService

def usable (city state : Option String) : Bool :=
  city.any (fun c => trim c != "") && state.any (fun s => trim s != "")

def addEntityStats (target add : BackfillEntityStats) : BackfillEntityStats :=
  ⟨target.totalUnresolvedExamined + add.totalUnresolvedExamined, target.usableCityState + add.usableCityState,
    target.cacheHits + add.cacheHits, target.wouldResolve + add.wouldResolve,
    target.wouldRemainUnresolved + add.wouldRemainUnresolved⟩

def addLoadStats (target add : BackfillLoadStats) : BackfillLoadStats :=
  ⟨target.wouldReceiveCoordinates + add.wouldReceiveCoordinates,
    target.skippedStaleCheckCall + add.skippedStaleCheckCall,
    target.noApplicableLatestCheckCall + add.noApplicableLatestCheckCall,
    target.alreadyHavingCoordinates + add.alreadyHavingCoordinates⟩

def isLater (c current : CheckCallRow) : Bool :=
  c.occurredAt > current.occurredAt || (c.occurredAt == current.occurredAt && c.id < current.id)

def latestCheckCallPerLoad (checkCalls : List CheckCallRow) : Uuid → Option CheckCallRow :=
  checkCalls.foldl (fun latest c =>
    match latest c.loadId with
    | none => Function.update latest c.loadId (some c)
    | some current => if isLater c current then Function.update latest c.loadId (some c) else latest) (fun _ => none)

structure CheckCallPass where
  stats : BackfillEntityStats
  resolvedById : Uuid → Option Bool := fun _ => none
  staleLoads : List Uuid := []
  jobs : List (JobId × TenantJob) := []
  samples : BackfillSamples := {}

def checkCallRound (resolve : Resolver) (organizationId : Uuid) (latest : Uuid → Option Uuid) (loads : List LoadRow)
    (pass : CheckCallPass) (c : CheckCallRow) : CheckCallPass :=
  let city := c.locationCity.getD ""
  let state := c.locationState.getD ""
  let resolved := resolve city state
  let isLatest := latest c.loadId == some c.id
  let load := loads.find? (fun l => l.id == c.loadId)
  { stats :=
      if resolved.isSome then
        { pass.stats with cacheHits := pass.stats.cacheHits + 1, wouldResolve := pass.stats.wouldResolve + 1 }
      else { pass.stats with wouldRemainUnresolved := pass.stats.wouldRemainUnresolved + 1 }
    resolvedById := Function.update pass.resolvedById c.id (some resolved.isSome)
    staleLoads := if isLatest then pass.staleLoads else c.loadId :: pass.staleLoads
    jobs := pass.jobs ++ [((.checkCall, c.id), ⟨organizationId,
      { city, state, asOfLoadUpdatedAt := if isLatest then load.bind LoadRow.currentLocationUpdatedAt else none }⟩)]
    samples :=
      if resolved.isSome then
        { pass.samples with
          checkCallResolvable := pass.samples.checkCallResolvable.or (some ⟨organizationId, c.id, city, state⟩) }
      else
        { pass.samples with
          checkCallUnresolved := pass.samples.checkCallUnresolved.or (some ⟨organizationId, c.id, city, state⟩) } }

structure StopPass where
  stats : BackfillEntityStats
  jobs : List (JobId × TenantJob)
  samples : BackfillSamples

def stopRound (resolve : Resolver) (organizationId : Uuid) (pass : StopPass) (s : StopRow) : StopPass :=
  let resolved := resolve s.city s.state
  { stats :=
      if resolved.isSome then
        { pass.stats with cacheHits := pass.stats.cacheHits + 1, wouldResolve := pass.stats.wouldResolve + 1 }
      else { pass.stats with wouldRemainUnresolved := pass.stats.wouldRemainUnresolved + 1 }
    jobs := pass.jobs ++ [((.stop, s.id), ⟨organizationId, { city := s.city, state := s.state }⟩)]
    samples :=
      if resolved.isSome then
        { pass.samples with stopResolvable := pass.samples.stopResolvable.or (some ⟨organizationId, s.id, s.city, s.state⟩) }
      else
        { pass.samples with
          stopUnresolved := pass.samples.stopUnresolved.or (some ⟨organizationId, s.id, s.city, s.state⟩) } }

structure LoadPass where
  stats : BackfillLoadStats := {}
  samples : BackfillSamples

def hasCoordinates (d : LocationStore) (l : LoadRow) : Bool :=
  (d.currentLocationLat l.id).isSome && (d.currentLocationLng l.id).isSome

def isUnresolved (r : Resolution) : Bool := r.resolutionStatus == .unresolved

def isApplicable (d : LocationStore) (checkCalls : List CheckCallRow) (latest : Uuid → Option Uuid)
    (resolvedById : Uuid → Option Bool) (l : LoadRow) : Bool :=
  ((latest l.id).bind (fun latestId => checkCalls.find? (fun c => c.id == latestId))).any (fun c =>
    isUnresolved (d.checkCallResolutions c.id) && usable c.locationCity c.locationState &&
      resolvedById c.id == some true)

def loadRound (d : LocationStore) (organizationId : Uuid) (checkCalls : List CheckCallRow) (latest : Uuid → Option Uuid)
    (resolvedById : Uuid → Option Bool) (staleLoads : List Uuid) (pass : LoadPass) (l : LoadRow) : LoadPass :=
  let counted : LoadPass :=
    if hasCoordinates d l then
      { pass with stats := { pass.stats with alreadyHavingCoordinates := pass.stats.alreadyHavingCoordinates + 1 } }
    else if isApplicable d checkCalls latest resolvedById l then
      { stats := { pass.stats with wouldReceiveCoordinates := pass.stats.wouldReceiveCoordinates + 1 }
        samples := { pass.samples with
          loadReceivingCoordinates := pass.samples.loadReceivingCoordinates.or
            (some ⟨organizationId, l.id, l.loadNumber, latest l.id⟩) } }
    else { pass with stats := { pass.stats with noApplicableLatestCheckCall := pass.stats.noApplicableLatestCheckCall + 1 } }
  if staleLoads.contains l.id then
    { stats := { counted.stats with skippedStaleCheckCall := counted.stats.skippedStaleCheckCall + 1 }
      samples := { counted.samples with
        loadStaleGuarded := counted.samples.loadStaleGuarded.or (some ⟨organizationId, l.id, l.loadNumber, none⟩) } }
  else counted

def ccUnresolved (d : LocationStore) (checkCalls : List CheckCallRow) : List CheckCallRow :=
  checkCalls.filter (fun c => isUnresolved (d.checkCallResolutions c.id))

def ccUsable (d : LocationStore) (checkCalls : List CheckCallRow) : List CheckCallRow :=
  (ccUnresolved d checkCalls).filter (fun c => usable c.locationCity c.locationState)

def stUnresolved (d : LocationStore) (stops : List StopRow) : List StopRow :=
  stops.filter (fun s => isUnresolved (d.stopResolutions s.id))

def stUsable (d : LocationStore) (stops : List StopRow) : List StopRow :=
  (stUnresolved d stops).filter (fun s => usable (some s.city) (some s.state))

/-- The three queries see the rows of their tenant. -/
def analyzeOrg (resolve : Resolver) (order : ℕ → RowOrder) (d : LocationStore) (org : OrganizationRow) : OrgAnalysis :=
  let checkCalls := findMany (order 0) (fun c => c.organizationId == org.id) d.checkCalls.rows
  let stops := findMany (order 1) (fun s => s.organizationId == org.id) d.stops.rows
  let loads := findMany (order 2) (fun l => l.organizationId == org.id) d.loads.rows
  let latest (loadId : Uuid) := (latestCheckCallPerLoad checkCalls loadId).map CheckCallRow.id
  let calls := (ccUsable d checkCalls).foldl (checkCallRound resolve org.id latest loads)
    { stats := { totalUnresolvedExamined := (ccUnresolved d checkCalls).length
                 usableCityState := (ccUsable d checkCalls).length } }
  let halts := (stUsable d stops).foldl (stopRound resolve org.id)
    { stats := { totalUnresolvedExamined := (stUnresolved d stops).length, usableCityState := (stUsable d stops).length }
      jobs := calls.jobs
      samples := calls.samples }
  let located := loads.foldl (loadRound d org.id checkCalls latest calls.resolvedById calls.staleLoads)
    { samples := halts.samples }
  { orgResult := ⟨org.id, org.legalName, calls.stats, halts.stats, located.stats⟩
    jobs := halts.jobs
    orgSamples := located.samples }

def addSamples (samples orgSamples : BackfillSamples) : BackfillSamples where
  checkCallResolvable := samples.checkCallResolvable.or orgSamples.checkCallResolvable
  checkCallUnresolved := samples.checkCallUnresolved.or orgSamples.checkCallUnresolved
  stopResolvable := samples.stopResolvable.or orgSamples.stopResolvable
  stopUnresolved := samples.stopUnresolved.or orgSamples.stopUnresolved
  loadReceivingCoordinates := samples.loadReceivingCoordinates.or orgSamples.loadReceivingCoordinates
  loadStaleGuarded := samples.loadStaleGuarded.or orgSamples.loadStaleGuarded

/-- One tenant's turn; `queue` is absent where the caller passes none. -/
def orgTurn (resolve : Resolver) (order : Uuid → ℕ → RowOrder) (d : LocationStore)
    (r : BackfillReport × Option (Queue JobId TenantJob)) (org : OrganizationRow) :
    BackfillReport × Option (Queue JobId TenantJob) :=
  let analysis := analyzeOrg resolve (order org.id) d org
  let report := { r.1 with
    perOrganization := r.1.perOrganization ++ [analysis.orgResult]
    checkCalls := addEntityStats r.1.checkCalls analysis.orgResult.checkCalls
    stops := addEntityStats r.1.stops analysis.orgResult.stops
    loads := addLoadStats r.1.loads analysis.orgResult.loads
    samples := addSamples r.1.samples analysis.orgSamples }
  if r.1.dryRun then (report, r.2)
  else
    match r.2 with
    | none => (report, none)
    | some queue =>
      ({ report with jobsEnqueued := report.jobsEnqueued + analysis.jobs.length },
        some (analysis.jobs.foldl (fun queue job => queue.add job.1 job.2) queue))

def run (resolve : Resolver) (organizations : RowOrder) (order : Uuid → ℕ → RowOrder) (d : LocationStore) (dryRun : Bool)
    (queue : Option (Queue JobId TenantJob)) : BackfillReport × Option (Queue JobId TenantJob) :=
  (organizations.arrange d.organizations.rows).foldl (orgTurn resolve order d) ({ dryRun }, queue)

end LocationResolutionBackfillService

abbrev BackfillState := WorkState LocationStore JobId TenantJob

def BackfillState.next (resolve : Resolver) : BackfillState → WorkEvent JobId Instant → BackfillState :=
  WorkState.next attempts (LocationStore.processJob resolve)

end Truckmaster.Locations
