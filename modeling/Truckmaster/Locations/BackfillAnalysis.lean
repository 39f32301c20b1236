import Truckmaster.Library.Passes
import Truckmaster.Locations.LocationBackfill

namespace Truckmaster.Locations

open Common Tables JobQueues Passes

namespace LocationResolutionBackfillService

section Latest

lemma not_isLater_self (c : CheckCallRow) : isLater c c = false := by simp [isLater]

lemma isLater_iff {c current : CheckCallRow} :
    isLater c current = true ↔
      current.occurredAt < c.occurredAt ∨ c.occurredAt = current.occurredAt ∧ c.id < current.id := by
  simp [isLater]

lemma not_isLater_trans {a b c : CheckCallRow} (hab : isLater a b = false) (hcb : isLater c b = true) :
    isLater a c = false := by
  rw [Bool.eq_false_iff, Ne, isLater_iff] at hab ⊢
  rw [isLater_iff] at hcb
  grind

lemma eq_of_not_isLater {a b : CheckCallRow} (hab : isLater a b = false) (hba : isLater b a = false) : a.id = b.id := by
  rw [Bool.eq_false_iff, Ne, isLater_iff] at hab hba
  grind

/-- The latest check call of a Load, by the hour it is said to have occurred and then by the smaller id. -/
structure Latest (checkCalls : List CheckCallRow) (loadId : Uuid) (c : CheckCallRow) : Prop where
  mem : c ∈ checkCalls
  load : c.loadId = loadId
  last : ∀ c' ∈ checkCalls, c'.loadId = loadId → isLater c' c = false

instance (checkCalls : List CheckCallRow) (loadId : Uuid) (c : CheckCallRow) : Decidable (Latest checkCalls loadId c) :=
  decidable_of_iff (c ∈ checkCalls ∧ c.loadId = loadId ∧ ∀ c' ∈ checkCalls, c'.loadId = loadId → isLater c' c = false)
    ⟨fun h => ⟨h.1, h.2.1, h.2.2⟩, fun h => ⟨h.mem, h.load, h.last⟩⟩

variable {checkCalls : List CheckCallRow} {loadId : Uuid} {c : CheckCallRow}

lemma Latest.id_eq {c' : CheckCallRow} (h : Latest checkCalls loadId c) (h' : Latest checkCalls loadId c') :
    c.id = c'.id :=
  eq_of_not_isLater (h'.last c h.mem h.load) (h.last c' h'.mem h'.load)

lemma Latest.append {c' : CheckCallRow} (h : Latest checkCalls loadId c)
    (hlater : c'.loadId = loadId → isLater c' c = false) : Latest (checkCalls ++ [c']) loadId c := by
  refine ⟨List.mem_append_left _ h.mem, h.load, fun a ha hload => ?_⟩
  rcases List.mem_append.mp ha with hold | hnew
  · exact h.last a hold hload
  · obtain rfl := List.mem_singleton.mp hnew
    exact hlater hload

lemma latestCheckCallPerLoad_append (checkCalls : List CheckCallRow) (c : CheckCallRow) :
    latestCheckCallPerLoad (checkCalls ++ [c]) =
      match latestCheckCallPerLoad checkCalls c.loadId with
      | none => Function.update (latestCheckCallPerLoad checkCalls) c.loadId (some c)
      | some current =>
        if isLater c current then Function.update (latestCheckCallPerLoad checkCalls) c.loadId (some c)
        else latestCheckCallPerLoad checkCalls := by
  rw [latestCheckCallPerLoad, List.foldl_append, List.foldl_cons, List.foldl_nil]
  rfl

lemma latestCheckCallPerLoad_spec (checkCalls : List CheckCallRow) (loadId : Uuid) :
    (∀ c, latestCheckCallPerLoad checkCalls loadId = some c → Latest checkCalls loadId c) ∧
      (latestCheckCallPerLoad checkCalls loadId = none → ∀ c ∈ checkCalls, c.loadId ≠ loadId) := by
  induction checkCalls using List.reverseRecOn with
  | nil => exact ⟨by rintro c ⟨⟩, fun _ => by simp⟩
  | append_singleton checkCalls c ih =>
    obtain ⟨hsome, hnone⟩ := ih
    rw [latestCheckCallPerLoad_append]
    by_cases hload : c.loadId = loadId
    · subst hload
      cases hcurrent : latestCheckCallPerLoad checkCalls c.loadId with
      | none =>
        dsimp only
        rw [Function.update_self]
        refine ⟨?_, by rintro ⟨⟩⟩
        rintro _ ⟨⟩
        refine ⟨List.mem_append_right _ (List.mem_singleton.mpr rfl), rfl, fun a ha hsame => ?_⟩
        rcases List.mem_append.mp ha with hold | hnew
        · exact absurd hsame (hnone hcurrent a hold)
        · rw [List.mem_singleton.mp hnew, not_isLater_self]
      | some current =>
        have hlatest := hsome current hcurrent
        dsimp only
        split
        next hlater =>
          rw [Function.update_self]
          refine ⟨?_, by rintro ⟨⟩⟩
          rintro _ ⟨⟩
          refine ⟨List.mem_append_right _ (List.mem_singleton.mpr rfl), rfl, fun a ha hsame => ?_⟩
          rcases List.mem_append.mp ha with hold | hnew
          · exact not_isLater_trans (hlatest.last a hold hsame) hlater
          · rw [List.mem_singleton.mp hnew, not_isLater_self]
        next hlater =>
          rw [hcurrent]
          refine ⟨?_, by rintro ⟨⟩⟩
          rintro _ ⟨⟩
          exact hlatest.append (fun _ => Bool.eq_false_iff.mpr hlater)
    · have hkeep : (match latestCheckCallPerLoad checkCalls c.loadId with
          | none => Function.update (latestCheckCallPerLoad checkCalls) c.loadId (some c)
          | some current =>
            if isLater c current then Function.update (latestCheckCallPerLoad checkCalls) c.loadId (some c)
            else latestCheckCallPerLoad checkCalls) loadId = latestCheckCallPerLoad checkCalls loadId := by
        cases latestCheckCallPerLoad checkCalls c.loadId with
        | none => exact Function.update_of_ne (Ne.symm hload) _ _
        | some current =>
          dsimp only
          split
          next => exact Function.update_of_ne (Ne.symm hload) _ _
          next => rfl
      rw [hkeep]
      refine ⟨fun a ha => (hsome a ha).append (fun hsame => absurd hsame hload), fun h a ha => ?_⟩
      rcases List.mem_append.mp ha with hold | hnew
      · exact hnone h a hold
      · rw [List.mem_singleton.mp hnew]
        exact hload

lemma latest_of_eq_some (h : latestCheckCallPerLoad checkCalls loadId = some c) : Latest checkCalls loadId c :=
  (latestCheckCallPerLoad_spec checkCalls loadId).1 c h

lemma latestCheckCallPerLoad_iff (hids : (checkCalls.map CheckCallRow.id).Nodup) :
    latestCheckCallPerLoad checkCalls loadId = some c ↔ Latest checkCalls loadId c := by
  refine ⟨latest_of_eq_some, fun h => ?_⟩
  cases hfound : latestCheckCallPerLoad checkCalls loadId with
  | none => exact absurd h.load ((latestCheckCallPerLoad_spec checkCalls loadId).2 hfound c h.mem)
  | some found =>
    have hlatest := latest_of_eq_some hfound
    rw [List.inj_on_of_nodup_map hids hlatest.mem h.mem (hlatest.id_eq h)]

end Latest

section Analysis

variable {resolve : Resolver} {order : ℕ → RowOrder} {d : LocationStore} {org : OrganizationRow}

def tenantCheckCalls (order : ℕ → RowOrder) (d : LocationStore) (organizationId : Uuid) : List CheckCallRow :=
  findMany (order 0) (fun c => c.organizationId == organizationId) d.checkCalls.rows

def tenantStops (order : ℕ → RowOrder) (d : LocationStore) (organizationId : Uuid) : List StopRow :=
  findMany (order 1) (fun s => s.organizationId == organizationId) d.stops.rows

def tenantLoads (order : ℕ → RowOrder) (d : LocationStore) (organizationId : Uuid) : List LoadRow :=
  findMany (order 2) (fun l => l.organizationId == organizationId) d.loads.rows

lemma tenantCheckCalls_nodup (order : ℕ → RowOrder) (d : LocationStore) (organizationId : Uuid) :
    ((tenantCheckCalls order d organizationId).map CheckCallRow.id).Nodup :=
  (((findMany_perm _ _ _).map _).nodup_iff).mpr (d.checkCalls.nodup.sublist (List.filter_sublist.map _))

lemma tenantStops_nodup (order : ℕ → RowOrder) (d : LocationStore) (organizationId : Uuid) :
    ((tenantStops order d organizationId).map StopRow.id).Nodup :=
  (((findMany_perm _ _ _).map _).nodup_iff).mpr (d.stops.nodup.sublist (List.filter_sublist.map _))

@[simp] lemma mem_tenantCheckCalls {organizationId : Uuid} {c : CheckCallRow} :
    c ∈ tenantCheckCalls order d organizationId ↔ c ∈ d.checkCalls.rows ∧ c.organizationId = organizationId := by
  simp [tenantCheckCalls]

@[simp] lemma mem_tenantStops {organizationId : Uuid} {s : StopRow} :
    s ∈ tenantStops order d organizationId ↔ s ∈ d.stops.rows ∧ s.organizationId = organizationId := by
  simp [tenantStops]

def resolvable (resolve : Resolver) (d : LocationStore) (c : CheckCallRow) : Bool :=
  isUnresolved (d.checkCallResolutions c.id) && usable c.locationCity c.locationState &&
    (resolve (c.locationCity.getD "") (c.locationState.getD "")).isSome

def stopResolvable (resolve : Resolver) (d : LocationStore) (s : StopRow) : Bool :=
  isUnresolved (d.stopResolutions s.id) && usable (some s.city) (some s.state) && (resolve s.city s.state).isSome

def checkCallJob (organizationId : Uuid) (latest : Uuid → Option Uuid) (loads : List LoadRow) (c : CheckCallRow) :
    JobId × TenantJob :=
  ((.checkCall, c.id), ⟨organizationId,
    { city := c.locationCity.getD ""
      state := c.locationState.getD ""
      asOfLoadUpdatedAt :=
        if latest c.loadId == some c.id then
          (loads.find? (fun l => l.id == c.loadId)).bind LoadRow.currentLocationUpdatedAt
        else none }⟩)

def stopJob (organizationId : Uuid) (s : StopRow) : JobId × TenantJob :=
  ((.stop, s.id), ⟨organizationId, { city := s.city, state := s.state }⟩)

def latestId (checkCalls : List CheckCallRow) (loadId : Uuid) : Option Uuid :=
  (latestCheckCallPerLoad checkCalls loadId).map CheckCallRow.id

section Rounds

variable {organizationId : Uuid} {latest : Uuid → Option Uuid} {loads : List LoadRow}

lemma foldl_checkCallRound_jobs (pass : CheckCallPass) (checkCalls : List CheckCallRow) :
    (checkCalls.foldl (checkCallRound resolve organizationId latest loads) pass).jobs =
      pass.jobs ++ checkCalls.map (checkCallJob organizationId latest loads) :=
  foldl_collect CheckCallPass.jobs (fun _ _ => rfl) pass checkCalls

lemma foldl_stopRound_jobs (pass : StopPass) (stops : List StopRow) :
    (stops.foldl (stopRound resolve organizationId) pass).jobs = pass.jobs ++ stops.map (stopJob organizationId) :=
  foldl_collect StopPass.jobs (fun _ _ => rfl) pass stops

lemma foldl_checkCallRound_wouldResolve (pass : CheckCallPass) (checkCalls : List CheckCallRow) :
    (checkCalls.foldl (checkCallRound resolve organizationId latest loads) pass).stats.wouldResolve =
      pass.stats.wouldResolve +
        checkCalls.countP (fun c => (resolve (c.locationCity.getD "") (c.locationState.getD "")).isSome) := by
  refine foldl_tally (fun pass : CheckCallPass => pass.stats.wouldResolve) (fun s c => ?_) pass checkCalls
  dsimp only [checkCallRound]
  split <;> rfl

lemma foldl_stopRound_wouldResolve (pass : StopPass) (stops : List StopRow) :
    (stops.foldl (stopRound resolve organizationId) pass).stats.wouldResolve =
      pass.stats.wouldResolve + stops.countP (fun s => (resolve s.city s.state).isSome) := by
  refine foldl_tally (fun pass : StopPass => pass.stats.wouldResolve) (fun p s => ?_) pass stops
  dsimp only [stopRound]
  split <;> rfl

lemma foldl_checkCallRound_examined (pass : CheckCallPass) (checkCalls : List CheckCallRow) :
    (checkCalls.foldl (checkCallRound resolve organizationId latest loads) pass).stats.totalUnresolvedExamined =
      pass.stats.totalUnresolvedExamined := by
  refine foldl_constant (fun pass : CheckCallPass => pass.stats.totalUnresolvedExamined) (fun s c => ?_) pass checkCalls
  dsimp only [checkCallRound]
  split <;> rfl

lemma foldl_stopRound_examined (pass : StopPass) (stops : List StopRow) :
    (stops.foldl (stopRound resolve organizationId) pass).stats.totalUnresolvedExamined =
      pass.stats.totalUnresolvedExamined := by
  refine foldl_constant (fun pass : StopPass => pass.stats.totalUnresolvedExamined) (fun p s => ?_) pass stops
  dsimp only [stopRound]
  split <;> rfl

lemma foldl_checkCallRound_resolvedById (pass : CheckCallPass) {checkCalls : List CheckCallRow}
    (hids : (checkCalls.map CheckCallRow.id).Nodup) (id : Uuid) :
    (checkCalls.foldl (checkCallRound resolve organizationId latest loads) pass).resolvedById id =
      ((checkCalls.find? (fun c => c.id = id)).map
        (fun c => (resolve (c.locationCity.getD "") (c.locationState.getD "")).isSome)).or (pass.resolvedById id) :=
  foldl_update CheckCallPass.resolvedById (fun _ _ => rfl) pass hids id

lemma foldl_loadRound_wouldReceive {checkCalls : List CheckCallRow} {resolvedById : Uuid → Option Bool}
    {staleLoads : List Uuid} (pass : LoadPass) (loads : List LoadRow) :
    (loads.foldl (loadRound d organizationId checkCalls latest resolvedById staleLoads) pass).stats.wouldReceiveCoordinates =
      pass.stats.wouldReceiveCoordinates +
        loads.countP (fun l => !hasCoordinates d l && isApplicable d checkCalls latest resolvedById l) := by
  refine foldl_tally (fun pass : LoadPass => pass.stats.wouldReceiveCoordinates) (fun p l => ?_) pass loads
  dsimp only [loadRound]
  cases hasCoordinates d l <;> cases isApplicable d checkCalls latest resolvedById l <;>
    cases staleLoads.contains l.id <;> rfl

end Rounds

lemma analyzeOrg_jobs :
    (analyzeOrg resolve order d org).jobs =
      (ccUsable d (tenantCheckCalls order d org.id)).map
        (checkCallJob org.id (latestId (tenantCheckCalls order d org.id)) (tenantLoads order d org.id)) ++
      (stUsable d (tenantStops order d org.id)).map (stopJob org.id) := by
  rw [analyzeOrg]
  dsimp only
  rw [foldl_stopRound_jobs, foldl_checkCallRound_jobs]
  rfl

lemma analyzeOrg_checkCalls :
    (analyzeOrg resolve order d org).orgResult.checkCalls.wouldResolve =
      (tenantCheckCalls order d org.id).countP (resolvable resolve d) := by
  rw [analyzeOrg]
  dsimp only
  rw [foldl_checkCallRound_wouldResolve]
  dsimp only
  rw [Nat.zero_add, ccUsable, ccUnresolved, List.countP_filter, List.countP_filter]
  refine List.countP_congr (fun c _ => ?_)
  simp only [resolvable, Bool.and_eq_true]
  tauto

lemma analyzeOrg_stops :
    (analyzeOrg resolve order d org).orgResult.stops.wouldResolve =
      (tenantStops order d org.id).countP (stopResolvable resolve d) := by
  rw [analyzeOrg]
  dsimp only
  rw [foldl_stopRound_wouldResolve]
  dsimp only
  rw [Nat.zero_add, stUsable, stUnresolved, List.countP_filter, List.countP_filter]
  refine List.countP_congr (fun s _ => ?_)
  simp only [stopResolvable, Bool.and_eq_true]
  tauto

lemma latestId_iff {checkCalls : List CheckCallRow} (hids : (checkCalls.map CheckCallRow.id).Nodup) {loadId : Uuid}
    {c : CheckCallRow} (hc : c ∈ checkCalls) : latestId checkCalls loadId = some c.id ↔ Latest checkCalls loadId c := by
  rw [latestId, ← latestCheckCallPerLoad_iff hids, Option.map_eq_some_iff]
  constructor
  · rintro ⟨c', hfound, hid⟩
    rw [hfound, List.inj_on_of_nodup_map hids (latest_of_eq_some hfound).mem hc hid]
  · exact fun h => ⟨c, h, rfl⟩

lemma find_id {checkCalls : List CheckCallRow} (hids : (checkCalls.map CheckCallRow.id).Nodup) {c : CheckCallRow}
    (hc : c ∈ checkCalls) {p : CheckCallRow → Bool} (hp : p c = true) (hkey : ∀ c', p c' = true → c'.id = c.id) :
    checkCalls.find? p = some c := by
  have hfound : (checkCalls.find? p).isSome := List.find?_isSome.mpr ⟨c, hc, hp⟩
  obtain ⟨c', hc'⟩ := Option.isSome_iff_exists.mp hfound
  rw [hc', List.inj_on_of_nodup_map hids (List.mem_of_find?_eq_some hc') hc (hkey c' (List.find?_some hc'))]

lemma isApplicable_iff {checkCalls : List CheckCallRow} (hids : (checkCalls.map CheckCallRow.id).Nodup)
    {resolvedById : Uuid → Option Bool}
    (hresolved : ∀ id, resolvedById id = ((ccUsable d checkCalls).find? (fun c => c.id = id)).map
      (fun c => (resolve (c.locationCity.getD "") (c.locationState.getD "")).isSome)) {l : LoadRow} :
    isApplicable d checkCalls (latestId checkCalls) resolvedById l = true ↔
      ∃ c, Latest checkCalls l.id c ∧ resolvable resolve d c = true := by
  have hmarked {c : CheckCallRow} (hc : c ∈ checkCalls) (hopen : isUnresolved (d.checkCallResolutions c.id) = true)
      (husable : usable c.locationCity c.locationState = true) :
      resolvedById c.id = some (resolve (c.locationCity.getD "") (c.locationState.getD "")).isSome := by
    have hsub : (ccUsable d checkCalls).Sublist checkCalls := List.filter_sublist.trans List.filter_sublist
    have hmem : c ∈ ccUsable d checkCalls := List.mem_filter.mpr ⟨List.mem_filter.mpr ⟨hc, hopen⟩, husable⟩
    rw [hresolved, find_id (hids.sublist (hsub.map _)) hmem (by simp) (by simp), Option.map_some]
  simp only [isApplicable, Option.any_eq_true, Option.bind_eq_some_iff, Bool.and_eq_true, beq_iff_eq]
  constructor
  · rintro ⟨c, ⟨id, hid, hfind⟩, ⟨hopen, husable⟩, hmark⟩
    have hc := List.mem_of_find?_eq_some hfind
    have hkey : c.id = id := by simpa using List.find?_some hfind
    subst hkey
    rw [hmarked hc hopen husable] at hmark
    refine ⟨c, (latestId_iff hids hc).mp hid, ?_⟩
    rw [resolvable, hopen, husable, Option.some.inj hmark]
    rfl
  · rintro ⟨c, hlatest, hresolvable⟩
    simp only [resolvable, Bool.and_eq_true] at hresolvable
    obtain ⟨⟨hopen, husable⟩, hfound⟩ := hresolvable
    refine ⟨c, ⟨c.id, (latestId_iff hids hlatest.mem).mpr hlatest, find_id hids hlatest.mem (by simp) (by simp)⟩,
      ⟨hopen, husable⟩, ?_⟩
    rw [hmarked hlatest.mem hopen husable, hfound]

lemma analyzeOrg_loads :
    (analyzeOrg resolve order d org).orgResult.loads.wouldReceiveCoordinates =
      (tenantLoads order d org.id).countP (fun l => !hasCoordinates d l &&
        (tenantCheckCalls order d org.id).any (fun c =>
          decide (Latest (tenantCheckCalls order d org.id) l.id c) && resolvable resolve d c)) := by
  have hids := tenantCheckCalls_nodup order d org.id
  have hsub : (ccUsable d (tenantCheckCalls order d org.id)).Sublist (tenantCheckCalls order d org.id) :=
    List.filter_sublist.trans List.filter_sublist
  rw [analyzeOrg]
  dsimp only
  rw [foldl_loadRound_wouldReceive]
  dsimp only
  rw [Nat.zero_add]
  refine List.countP_congr (fun l _ => ?_)
  simp only [Bool.and_eq_true, List.any_eq_true, decide_eq_true_eq]
  refine and_congr_right (fun _ => Iff.trans (isApplicable_iff hids (fun id => ?_))
    (exists_congr (fun c => ⟨fun h => ⟨h.1.mem, h⟩, And.right⟩)))
  exact (foldl_checkCallRound_resolvedById _ (hids.sublist (hsub.map _)) id).trans Option.or_none

end Analysis

end LocationResolutionBackfillService

end Truckmaster.Locations
