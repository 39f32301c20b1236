import Truckmaster.Library.Reconciliation
import Truckmaster.QuoteLoad.Entities

namespace Truckmaster.BackgroundJobs

open Common Tables QuoteLoad Reconciliation

inductive AttentionType
  | pickupMissed | deliveryMissed | etaAfterAppointment | appointmentImminentNoCheckCall | staleLocation
  | unassignedDispatcher | stuckCarrierSourcing | checkCallOverdue | stuckLoadStatus | missingPod
  | unresolvedLocation | missingRequiredDocument | checkCallDueSoon | appointmentChanged | manualRiskFlag
  deriving DecidableEq, Repr

inductive AttentionSeverity
  | critical | high | medium | info
  deriving DecidableEq, Repr

inductive AttentionStatus
  | active | resolved
  deriving DecidableEq, Repr

inductive LastActivitySource
  | checkCall | dispatch
  deriving DecidableEq, Repr

def stopTypeLabel : StopType → String
  | .pickup => "Pickup"
  | .delivery => "Delivery"
  | .other => "Stop"

/-- What the detectors store in the JSON column; `other` stands for a text that none of them wrote. -/
inductive AttentionMetadata
  | etaRisk (minutesAfter : ℤ) (appointmentDatetime currentEta : Instant) (stopType : StopType)
  | staleLocation (ageMinutes : ℤ) (currentLocationUpdatedAt : Instant)
  | appointmentImminent (minutesUntilAppointment : ℤ) (appointmentDatetime : Instant) (stopType : StopType)
      (minutesSinceLastActivity : ℤ) (lastActivitySource : LastActivitySource)
  | other (text : String)
  deriving DecidableEq, Repr

structure AttentionItem where
  id : Uuid
  organizationId : Uuid
  loadId : Uuid
  type : AttentionType
  severity : AttentionSeverity
  status : AttentionStatus := .active
  title : String
  reason : String
  impact : Option String := none
  suggestedActions : List String
  metadata : Option AttentionMetadata
  detectedAt : Instant
  updatedAt : Instant
  resolvedAt : Option Instant := none
  deriving DecidableEq, Repr

structure Finding where
  severity : AttentionSeverity
  title : String
  reason : String
  metadata : AttentionMetadata
  deriving DecidableEq, Repr

namespace AttentionItem

def key (i : AttentionItem) : Uuid × Uuid × AttentionType := (i.organizationId, i.loadId, i.type)

def create (id organizationId loadId : Uuid) (type : AttentionType) (f : Finding) (now : Instant) : AttentionItem where
  id
  organizationId
  loadId
  type
  severity := f.severity
  title := f.title
  reason := f.reason
  suggestedActions := ["VIEW_LOAD"]
  metadata := some f.metadata
  detectedAt := now
  updatedAt := now

def refresh (i : AttentionItem) (f : Finding) (now : Instant) : AttentionItem :=
  { i with
    severity := f.severity
    title := f.title
    reason := f.reason
    suggestedActions := ["VIEW_LOAD"]
    metadata := some f.metadata
    updatedAt := now }

def reactivate (i : AttentionItem) (f : Finding) (now : Instant) : AttentionItem :=
  { i.refresh f now with status := .active, detectedAt := now, resolvedAt := none }

def resolve (i : AttentionItem) (now : Instant) : AttentionItem :=
  { i with status := .resolved, resolvedAt := some now, updatedAt := now }

lemma refresh_key (f : Finding) (now : Instant) (i : AttentionItem) : (i.refresh f now).key = i.key := rfl

lemma reactivate_key (f : Finding) (now : Instant) (i : AttentionItem) : (i.reactivate f now).key = i.key := rfl

lemma resolve_key (now : Instant) (i : AttentionItem) : (i.resolve now).key = i.key := rfl

end AttentionItem

structure DetectionEvent extends AuditEvent where
  organizationId : Uuid
  newValue : AttentionType × AttentionSeverity
  deriving DecidableEq, Repr

structure TenantLoad where
  organizationId : Uuid
  rows : LoadRows

def TenantLoad.id (l : TenantLoad) : Uuid := l.rows.load.id

structure Tenants where
  organizations : List Uuid
  loads : Table TenantLoad.id
  stopOrder : RowOrder
  nodup : organizations.Nodup
  owned : ∀ l ∈ loads.rows, l.organizationId ∈ organizations

structure Board where
  items : Table AttentionItem.key
  audit : List DetectionEvent := []

/-- The generated ids and the row orders one pass meets. -/
structure Pass where
  uuid : Uuid → Uuid → Uuid
  organizations : RowOrder
  loads : Uuid → RowOrder
  items : Uuid → RowOrder

structure Detector where
  type : AttentionType
  suppressingType : Option AttentionType := none
  suppressing_ne : suppressingType ≠ some type
  evaluate : LoadRows → List Stop → Instant → Option Finding

def operationalStatuses : List LoadStatus := [.dispatched, .pickup, .inTransit]

def Tenants.isOperational (organizationId : Uuid) (l : TenantLoad) : Bool :=
  l.organizationId == organizationId && operationalStatuses.contains l.rows.load.status

def Tenants.stops (w : Tenants) (l : TenantLoad) : List Stop := w.stopOrder.arrange l.rows.stops.rows

namespace Board

def updateItem (b : Board) (k : Uuid × Uuid × AttentionType) (f : AttentionItem → AttentionItem)
    (hf : ∀ i, (f i).key = i.key) : Board := { b with items := b.items.update k f hf }

def record (b : Board) (action : String) (k : Uuid × Uuid × AttentionType) (severity : AttentionSeverity) : Board :=
  { b with audit := b.audit ++ [⟨⟨action, "Load", k.2.1, none, .system, none⟩, k.1, (k.2.2, severity)⟩] }

/-- A row is addressed by its unique key where the source uses the id of the row it has just read. -/
def resolveItem (b : Board) (k : Uuid × Uuid × AttentionType) (now : Instant) : Board :=
  b.updateItem k (fun i => i.resolve now) (AttentionItem.resolve_key now)

def isActive (b : Board) (k : Uuid × Uuid × AttentionType) : Bool :=
  (b.items.get k).any (fun i => i.status == .active)

end Board

namespace Detector

variable (d : Detector)

def isSuppressed (b : Board) (organizationId loadId : Uuid) : Bool :=
  d.suppressingType.any (fun t => b.isActive (organizationId, loadId, t))

def applyResult (now : Instant) (id organizationId loadId : Uuid) (risk : Option Finding) (b : Board) : Board :=
  let k := (organizationId, loadId, d.type)
  let existing := b.items.get k
  match if d.isSuppressed b organizationId loadId then none else risk with
  | none => if existing.any (fun i => i.status == .active) then b.resolveItem k now else b
  | some f =>
    match existing with
    | none =>
      -- a taken key would fail the transaction of this Load
      match b.items.insert (.create id organizationId loadId d.type f now) with
      | none => b
      | some items => { b with items }.record "Attention Item Detected" k f.severity
    | some item =>
      if item.status = .active then b.updateItem k (fun i => i.refresh f now) (AttentionItem.refresh_key f now)
      else
        (b.updateItem k (fun i => i.reactivate f now) (AttentionItem.reactivate_key f now)).record "Attention Item Reactivated" k f.severity

def sweepLoads (w : Tenants) (now : Instant) (q : Pass) (organizationId : Uuid) (loads : List TenantLoad) (b : Board) :
    Board :=
  loads.foldl (fun b l => d.applyResult now (q.uuid organizationId l.id) organizationId l.id
    (d.evaluate l.rows (w.stops l) now) b) b

def staleActive (organizationId : Uuid) (i : AttentionItem) : Bool :=
  i.organizationId == organizationId && i.type == d.type && i.status == .active

def sweepOrganization (w : Tenants) (now : Instant) (q : Pass) (b : Board) (organizationId : Uuid) : Board :=
  let loads := findMany (q.loads organizationId) (Tenants.isOperational organizationId) w.loads.rows
  let b := d.sweepLoads w now q organizationId loads b
  let staleActiveItems := findMany (q.items organizationId) (d.staleActive organizationId) b.items.rows
  staleActiveItems.foldl
    (fun b i => if (loads.map TenantLoad.id).contains i.loadId then b else b.resolveItem i.key now) b

def sweep (w : Tenants) (now : Instant) (q : Pass) (b : Board) : Board :=
  (q.organizations.arrange w.organizations).foldl (d.sweepOrganization w now q) b

/-- What a visit makes of the row of its Load, `risk` being what is left of the finding. -/
def settle (now : Instant) (id : Uuid) (k : Uuid × Uuid × AttentionType) (risk : Option Finding)
    (old : Option AttentionItem) : Option AttentionItem :=
  match risk with
  | none => old.map (fun i => if i.status = .active then i.resolve now else i)
  | some f =>
    match old with
    | none => some (.create id k.1 k.2.1 k.2.2 f now)
    | some i => some (if i.status = .active then i.refresh f now else i.reactivate f now)

variable {d}

lemma updateItem_get (b : Board) (k j : Uuid × Uuid × AttentionType) (f : AttentionItem → AttentionItem)
    (hf : ∀ i, (f i).key = i.key) :
    (b.updateItem k f hf).items.get j = if j = k then (b.items.get j).map f else b.items.get j :=
  b.items.get_update j k f hf

lemma updateItem_found {b : Board} {k : Uuid × Uuid × AttentionType} {i : AttentionItem} (hold : b.items.get k = some i)
    (f : AttentionItem → AttentionItem) (hf : ∀ i, (f i).key = i.key) (j : Uuid × Uuid × AttentionType) :
    (b.updateItem k f hf).items.get j = if j = k then some (f i) else b.items.get j := by
  rw [updateItem_get]
  split_ifs with hj
  · rw [hj, hold, Option.map_some]
  · rfl

lemma applyResult_get (now : Instant) (id organizationId loadId : Uuid) (risk : Option Finding) (b : Board)
    (j : Uuid × Uuid × AttentionType) :
    (d.applyResult now id organizationId loadId risk b).items.get j =
      if j = (organizationId, loadId, d.type) then
        settle now id j (if d.isSuppressed b organizationId loadId then none else risk) (b.items.get j)
      else b.items.get j := by
  obtain ⟨k, hk⟩ : ∃ k, k = (organizationId, loadId, d.type) := ⟨_, rfl⟩
  have hkey (f : Finding) : (AttentionItem.create id organizationId loadId d.type f now).key = k := hk.symm
  simp only [applyResult, ← hk]
  cases (if d.isSuppressed b organizationId loadId then none else risk) with
  | none =>
    cases hold : b.items.get k with
    | none =>
      dsimp only
      rw [Option.any_none, if_neg Bool.false_ne_true]
      split_ifs with hj
      · rw [hj, hold, settle, Option.map_none]
      · rfl
    | some i =>
      dsimp only
      by_cases hactive : i.status = .active
      · rw [Option.any_some, if_pos (beq_iff_eq.mpr hactive), Board.resolveItem, updateItem_found hold]
        split_ifs with hj
        · rw [hj, hold, settle, Option.map_some, if_pos hactive]
        · rfl
      · rw [Option.any_some, if_neg (fun h => hactive (beq_iff_eq.mp h))]
        split_ifs with hj
        · rw [hj, hold, settle, Option.map_some, if_neg hactive]
        · rfl
  | some f =>
    cases hold : b.items.get k with
    | none =>
      obtain ⟨items, hinsert, -⟩ := Table.insert_of_new (Table.get_eq_none.mp ((hkey f).symm ▸ hold))
      simp only [hinsert, Board.record, Table.get_insert hinsert, hkey f]
      split_ifs with hj
      · rw [hj, hold, hk]
        rfl
      · rfl
    | some i =>
      dsimp only
      by_cases hactive : i.status = .active
      · rw [if_pos hactive, updateItem_found hold]
        split_ifs with hj
        · rw [hj, hold, settle, if_pos hactive]
        · rfl
      · rw [if_neg hactive, Board.record, updateItem_found hold]
        split_ifs with hj
        · rw [hj, hold, settle, if_neg hactive]
        · rfl

lemma isSuppressed_congr {b b' : Board} (h : ∀ k : Uuid × Uuid × AttentionType, k.2.2 ≠ d.type → b'.items.get k = b.items.get k) :
    d.isSuppressed b' = d.isSuppressed b := by
  funext organizationId loadId
  cases htype : d.suppressingType with
  | none => simp [isSuppressed, htype]
  | some t =>
    have ht : t ≠ d.type := fun heq => d.suppressing_ne (htype.trans (congrArg some heq))
    simp only [isSuppressed, htype, Option.any_some, Board.isActive, h (organizationId, loadId, t) ht]

def loadVisits (d : Detector) (w : Tenants) (now : Instant) (q : Pass) (organizationId : Uuid) :
    Visits Board TenantLoad (Uuid × Uuid × AttentionType) (Option AttentionItem) (Uuid → Uuid → Bool) where
  visit b l := d.applyResult now (q.uuid organizationId l.id) organizationId l.id (d.evaluate l.rows (w.stops l) now) b
  cell b := b.items.get
  view := d.isSuppressed
  owns l k := k = (organizationId, l.id, d.type)
  settle l suppressed k := settle now (q.uuid organizationId l.id) k
    (if suppressed organizationId l.id then none else d.evaluate l.rows (w.stops l) now)
  view_visit b l := by
    apply isSuppressed_congr
    intro k hk
    rw [applyResult_get, if_neg]
    rintro rfl
    exact hk rfl
  cell_owned b l k hk := by rw [applyResult_get, if_pos hk]
  cell_other b l k hk := by rw [applyResult_get, if_neg hk]

def resolveVisits (now : Instant) (loadIds : List Uuid) :
    Visits Board AttentionItem (Uuid × Uuid × AttentionType) (Option AttentionItem) Unit where
  visit b i := if loadIds.contains i.loadId then b else b.resolveItem i.key now
  cell b := b.items.get
  view _ := ()
  owns i k := k = i.key
  settle i _ _ old := if loadIds.contains i.loadId then old else old.map (fun i => i.resolve now)
  view_visit _ _ := rfl
  cell_owned b i k hk := by
    split_ifs
    · rfl
    · rw [Board.resolveItem, updateItem_get, if_pos hk]
  cell_other b i k hk := by
    split_ifs
    · rfl
    · rw [Board.resolveItem, updateItem_get, if_neg hk]

lemma findMany_keys {ρ κ : Type} {key : ρ → κ} (o : RowOrder) (p : ρ → Bool) (t : Table key) :
    ((findMany o p t.rows).map key).Nodup :=
  ((findMany_perm o p t.rows).map key).nodup_iff.mpr (t.nodup.sublist (List.filter_sublist.map key))

lemma staleActive_iff {organizationId : Uuid} {i : AttentionItem} {k : Uuid × Uuid × AttentionType}
    (hi : i.key = k) : d.staleActive organizationId i = true ↔ (k.1 = organizationId ∧ k.2.2 = d.type) ∧ i.status = .active := by
  subst hi
  simp [staleActive, AttentionItem.key]

lemma resolveStale_get (o : RowOrder) (now : Instant) (organizationId : Uuid) (loadIds : List Uuid) (b : Board)
    {k : Uuid × Uuid × AttentionType} (hk : k.1 = organizationId ∧ k.2.2 = d.type) :
    ((findMany o (d.staleActive organizationId) b.items.rows).foldl (resolveVisits now loadIds).visit b).items.get k =
      if loadIds.contains k.2.1 then b.items.get k
      else (b.items.get k).map (fun i => if i.status = .active then i.resolve now else i) := by
  have hapart : (resolveVisits now loadIds).Apart (findMany o (d.staleActive organizationId) b.items.rows) :=
    (resolveVisits now loadIds).apart_of_keys _ AttentionItem.key (findMany_keys o _ b.items)
      (fun i j k (hi : k = i.key) (hj : k = j.key) => hi.symm.trans hj)
  cases hold : b.items.get k with
  | none =>
    have hother := (resolveVisits now loadIds).cell_foldl_other
      (findMany o (d.staleActive organizationId) b.items.rows) b k (fun i hi hown =>
        Table.get_eq_none.mp hold (hown ▸ List.mem_map_of_mem (mem_findMany.mp hi).1))
    refine hother.trans (hold.trans ?_)
    rw [Option.map_none, ite_self]
  | some i =>
    obtain ⟨hrow, hkey⟩ := Table.get_eq_some.mp hold
    by_cases hactive : i.status = .active
    · have hmem : i ∈ findMany o (d.staleActive organizationId) b.items.rows :=
        mem_findMany.mpr ⟨hrow, (staleActive_iff hkey).mpr ⟨hk, hactive⟩⟩
      have hown := (resolveVisits now loadIds).cell_foldl_owned _ b hapart hmem hkey.symm
      refine hown.trans ?_
      have hload : i.loadId = k.2.1 := congrArg (fun k => k.2.1) hkey
      simp only [resolveVisits, hold, hload, Option.map_some, if_pos hactive]
    · have hother := (resolveVisits now loadIds).cell_foldl_other
        (findMany o (d.staleActive organizationId) b.items.rows) b k (fun j hj hown => by
          obtain ⟨hjrow, hjstale⟩ := mem_findMany.mp hj
          rw [← b.items.eq_of_key hjrow hrow (hown.symm.trans hkey.symm)] at hactive
          exact hactive ((staleActive_iff hown.symm).mp hjstale).2)
      refine hother.trans (hold.trans ?_)
      rw [Option.map_some, if_neg hactive, ite_self]

lemma resolveStale_other (o : RowOrder) (now : Instant) (organizationId : Uuid) (loadIds : List Uuid) (b : Board)
    {k : Uuid × Uuid × AttentionType} (hk : ¬ (k.1 = organizationId ∧ k.2.2 = d.type)) :
    ((findMany o (d.staleActive organizationId) b.items.rows).foldl (resolveVisits now loadIds).visit b).items.get k =
      b.items.get k :=
  (resolveVisits now loadIds).cell_foldl_other _ b k (fun _ hi hown =>
    hk ((staleActive_iff hown.symm).mp (mem_findMany.mp hi).2).1)

def finding (d : Detector) (w : Tenants) (now : Instant) (suppressed : Uuid → Uuid → Bool) (organizationId loadId : Uuid) :
    Option Finding :=
  ((w.loads.get loadId).filter (Tenants.isOperational organizationId)).bind (fun l =>
    if suppressed organizationId loadId then none else d.evaluate l.rows (w.stops l) now)

lemma operational_eq_some {w : Tenants} {organizationId loadId : Uuid} {l : TenantLoad} :
    (w.loads.get loadId).filter (Tenants.isOperational organizationId) = some l ↔
      l ∈ w.loads.rows ∧ l.id = loadId ∧ Tenants.isOperational organizationId l = true := by
  rw [Option.filter_eq_some_iff, Table.get_eq_some, and_assoc]

lemma sweepOrganization_get (w : Tenants) (now : Instant) (q : Pass) (b : Board) (organizationId : Uuid)
    {k : Uuid × Uuid × AttentionType} (hk : k.1 = organizationId ∧ k.2.2 = d.type) :
    (d.sweepOrganization w now q b organizationId).items.get k =
      settle now (q.uuid organizationId k.2.1) k (d.finding w now (d.isSuppressed b) organizationId k.2.1)
        (b.items.get k) := by
  obtain ⟨loads, hloads⟩ : ∃ loads, loads = findMany (q.loads organizationId) (Tenants.isOperational organizationId)
    w.loads.rows := ⟨_, rfl⟩
  have hapart : (loadVisits d w now q organizationId).Apart loads :=
    (loadVisits d w now q organizationId).apart_of_keys loads TenantLoad.id
      (hloads ▸ findMany_keys (q.loads organizationId) _ w.loads)
      (fun i j k (hi : k = _) (hj : k = _) => congrArg (fun k => k.2.1) (hi.symm.trans hj))
  have hstale := resolveStale_get (q.items organizationId) now organizationId (loads.map TenantLoad.id)
    (d.sweepLoads w now q organizationId loads b) hk
  rw [sweepOrganization, ← hloads]
  refine hstale.trans ?_
  cases hload : (w.loads.get k.2.1).filter (Tenants.isOperational organizationId) with
  | none =>
    have hmissing : ∀ l ∈ loads, l.id ≠ k.2.1 := by
      intro l hl hid
      obtain ⟨hrow, hop⟩ := mem_findMany.mp (hloads ▸ hl)
      rw [operational_eq_some.mpr ⟨hrow, hid, hop⟩] at hload
      cases hload
    have hother := (loadVisits d w now q organizationId).cell_foldl_other loads b k (fun l hl hown =>
      hmissing l hl (congrArg (fun k => k.2.1) hown).symm)
    rw [if_neg (by simpa using hmissing), finding, hload]
    exact congrArg _ hother
  | some l =>
    obtain ⟨hrow, hid, hop⟩ := operational_eq_some.mp hload
    have hmem : l ∈ loads := hloads ▸ mem_findMany.mpr ⟨hrow, hop⟩
    have hkey : k = (organizationId, l.id, d.type) := by
      rw [← hk.1, ← hk.2, hid]
    have hown := (loadVisits d w now q organizationId).cell_foldl_owned loads b hapart hmem hkey
    rw [if_pos (by simpa using ⟨l, hmem, hid⟩), finding, hload, Option.bind_some, ← hid]
    exact hown

lemma sweepOrganization_other (w : Tenants) (now : Instant) (q : Pass) (b : Board) (organizationId : Uuid)
    {k : Uuid × Uuid × AttentionType} (hk : ¬ (k.1 = organizationId ∧ k.2.2 = d.type)) :
    (d.sweepOrganization w now q b organizationId).items.get k = b.items.get k :=
  (resolveStale_other (q.items organizationId) now organizationId _ _ hk).trans
    ((loadVisits d w now q organizationId).cell_foldl_other _ b k (fun _ _ hown => hk (by rw [hown]; exact ⟨rfl, rfl⟩)))

def organizationVisits (d : Detector) (w : Tenants) (now : Instant) (q : Pass) :
    Visits Board Uuid (Uuid × Uuid × AttentionType) (Option AttentionItem) (Uuid → Uuid → Bool) where
  visit := d.sweepOrganization w now q
  cell b := b.items.get
  view := d.isSuppressed
  owns o k := k.1 = o ∧ k.2.2 = d.type
  settle o suppressed k := settle now (q.uuid o k.2.1) k (d.finding w now suppressed o k.2.1)
  view_visit b o := isSuppressed_congr (fun _ hk => sweepOrganization_other w now q b o (fun h => hk h.2))
  cell_owned b o _ hk := sweepOrganization_get w now q b o hk
  cell_other b o _ hk := sweepOrganization_other w now q b o hk

lemma sweep_get (w : Tenants) (now : Instant) (q : Pass) (b : Board) {organizationId : Uuid}
    (ho : organizationId ∈ w.organizations) (loadId : Uuid) :
    (d.sweep w now q b).items.get (organizationId, loadId, d.type) =
      settle now (q.uuid organizationId loadId) (organizationId, loadId, d.type)
        (d.finding w now (d.isSuppressed b) organizationId loadId) (b.items.get (organizationId, loadId, d.type)) := by
  have hperm := q.organizations.perm w.organizations
  have hapart : (organizationVisits d w now q).Apart (q.organizations.arrange w.organizations) :=
    (organizationVisits d w now q).apart_of_keys _ id ((List.map_id _).symm ▸ hperm.nodup_iff.mpr w.nodup)
      (fun i j k hi hj => hi.1.symm.trans hj.1)
  exact (organizationVisits d w now q).cell_foldl_owned _ b hapart (hperm.mem_iff.mpr ho) ⟨rfl, rfl⟩

lemma sweep_other (w : Tenants) (now : Instant) (q : Pass) (b : Board) {k : Uuid × Uuid × AttentionType}
    (hk : ¬ (k.1 ∈ w.organizations ∧ k.2.2 = d.type)) : (d.sweep w now q b).items.get k = b.items.get k :=
  (organizationVisits d w now q).cell_foldl_other _ b k (fun _ hi hown =>
    hk ⟨hown.1 ▸ (q.organizations.perm w.organizations).mem_iff.mp hi, hown.2⟩)

lemma sweep_isSuppressed (w : Tenants) (now : Instant) (q : Pass) (b : Board) :
    d.isSuppressed (d.sweep w now q b) = d.isSuppressed b :=
  isSuppressed_congr (fun _ hk => sweep_other w now q b (fun h => hk h.2))

lemma settle_active (now : Instant) (id : Uuid) (k : Uuid × Uuid × AttentionType) (risk : Option Finding)
    (old : Option AttentionItem) : (settle now id k risk old).any (fun i => i.status == .active) = risk.isSome := by
  cases risk with
  | none =>
    cases old with
    | none => rfl
    | some i => by_cases h : i.status = .active <;> simp [settle, h, AttentionItem.resolve]
  | some f =>
    cases old with
    | none => rfl
    | some i => by_cases h : i.status = .active <;> simp [settle, h, AttentionItem.refresh, AttentionItem.reactivate]

lemma sweep_isActive (w : Tenants) (now : Instant) (q : Pass) (b : Board) {organizationId : Uuid}
    (ho : organizationId ∈ w.organizations) (loadId : Uuid) :
    (d.sweep w now q b).isActive (organizationId, loadId, d.type) =
      (d.finding w now (d.isSuppressed b) organizationId loadId).isSome := by
  rw [Board.isActive, sweep_get w now q b ho, settle_active]

def Settled (now : Instant) (risk : Option Finding) (item : Option AttentionItem) : Prop :=
  match risk with
  | none => ∀ i, item = some i → i.status ≠ .active
  | some f => ∃ i, item = some i ∧ i.status = .active ∧ i.refresh f now = i

lemma settle_settled (now : Instant) (id : Uuid) (k : Uuid × Uuid × AttentionType) (risk : Option Finding)
    (old : Option AttentionItem) : Settled now risk (settle now id k risk old) := by
  cases risk with
  | none =>
    rintro i hi hactive
    have hany := settle_active now id k none old
    rw [hi, Option.any_some, hactive] at hany
    cases hany
  | some f =>
    cases old with
    | none => exact ⟨_, rfl, rfl, rfl⟩
    | some i =>
      by_cases h : i.status = .active
      · exact ⟨_, congrArg some (if_pos h), h, rfl⟩
      · exact ⟨_, congrArg some (if_neg h), rfl, rfl⟩

lemma updateItem_same {b : Board} {k : Uuid × Uuid × AttentionType} {i : AttentionItem} (hold : b.items.get k = some i)
    (f : AttentionItem → AttentionItem) (hf : ∀ i, (f i).key = i.key) (hsame : f i = i) : b.updateItem k f hf = b := by
  have hitems : b.items.update k f hf = b.items := by
    apply Table.update_same
    intro j hj
    rw [Option.some.inj (hj.symm.trans hold), hsame]
  rw [Board.updateItem, hitems]

lemma applyResult_settled {now : Instant} {organizationId loadId : Uuid} {risk : Option Finding} {b : Board} (id : Uuid)
    (h : Settled now (if d.isSuppressed b organizationId loadId then none else risk)
      (b.items.get (organizationId, loadId, d.type))) : d.applyResult now id organizationId loadId risk b = b := by
  rw [applyResult]
  cases hrisk : (if d.isSuppressed b organizationId loadId then none else risk) with
  | none =>
    rw [hrisk] at h
    have hidle : ¬ ((b.items.get (organizationId, loadId, d.type)).any (fun i => i.status == .active)) = true := by
      rw [Option.any_eq_true]
      rintro ⟨i, hi, hactive⟩
      exact h i hi (beq_iff_eq.mp hactive)
    exact if_neg hidle
  | some f =>
    rw [hrisk] at h
    obtain ⟨i, hi, hactive, hsame⟩ := h
    rw [hi]
    dsimp only
    rw [if_pos hactive]
    exact updateItem_same hi _ _ hsame

lemma sweepOrganization_settled {w : Tenants} {now : Instant} {b : Board} {organizationId : Uuid} (q : Pass)
    (h : ∀ loadId, Settled now (d.finding w now (d.isSuppressed b) organizationId loadId)
      (b.items.get (organizationId, loadId, d.type))) : d.sweepOrganization w now q b organizationId = b := by
  have hloads : d.sweepLoads w now q organizationId
      (findMany (q.loads organizationId) (Tenants.isOperational organizationId) w.loads.rows) b = b := by
    apply foldl_at_rest
    intro l hl
    obtain ⟨hrow, hop⟩ := mem_findMany.mp hl
    have hl := h l.id
    rw [finding, operational_eq_some.mpr ⟨hrow, rfl, hop⟩, Option.bind_some] at hl
    exact applyResult_settled _ hl
  rw [sweepOrganization, hloads]
  apply foldl_at_rest
  intro i hi
  obtain ⟨hrow, hstale⟩ := mem_findMany.mp hi
  obtain ⟨⟨ho, ht⟩, hactive⟩ := (staleActive_iff (k := i.key) rfl).mp hstale
  have hkey : i.key = (organizationId, i.loadId, d.type) := by rw [← ho, ← ht]; rfl
  have hget : b.items.get (organizationId, i.loadId, d.type) = some i := Table.get_eq_some.mpr ⟨hrow, hkey⟩
  have hi := h i.loadId
  rw [hget] at hi
  -- an ACTIVE item at rest has a finding, so its Load is among those just read
  cases hload : (w.loads.get i.loadId).filter (Tenants.isOperational organizationId) with
  | none =>
    rw [finding, hload] at hi
    exact absurd hactive (hi i rfl)
  | some l =>
    obtain ⟨hl, hid, hop⟩ := operational_eq_some.mp hload
    refine if_pos ?_
    rw [List.contains_iff_mem, ← hid]
    exact List.mem_map_of_mem (mem_findMany.mpr ⟨hl, hop⟩)

lemma sweep_again (w : Tenants) (now : Instant) (q q' : Pass) (b : Board) :
    d.sweep w now q' (d.sweep w now q b) = d.sweep w now q b := by
  apply foldl_at_rest
  intro organizationId ho
  apply sweepOrganization_settled
  intro loadId
  rw [sweep_isSuppressed, sweep_get w now q b ((q'.organizations.perm w.organizations).mem_iff.mp ho)]
  exact settle_settled _ _ _ _ _

end Detector

end Truckmaster.BackgroundJobs
