import Truckmaster.Common.Timestamps
import Truckmaster.Library.Grouping
import Truckmaster.QuoteLoad.Entities

namespace Truckmaster.Reporting

open Calendars Common Fallible Grouping QuoteLoad Tables

structure ReportedLoad where
  organizationId : Uuid
  createdAt : Instant
  rows : LoadRows

structure ReportDb where
  loads : List ReportedLoad
  customerName : Uuid → Option String
  carrierName : Uuid → Option String
  userName : Uuid → Option String

/-- A date is a text of the request, or what `toISOString` writes of an instant, which the Date constructor reads back. -/
inductive DateFilter
  | text (s : String)
  | iso (t : Instant)

def DateFilter.given : DateFilter → Bool
  | .text s => s ≠ ""
  | .iso _ => true

inductive RevenueRollupGroupBy
  | customer | carrier | lane | month | salesUser
  deriving DecidableEq, Repr

inductive LoadVolumeBucket
  | day | week | month
  deriving DecidableEq, Repr

structure RevenueMarginFilters where
  dateFrom : Option DateFilter := none
  dateTo : Option DateFilter := none
  customerId : Option Uuid := none
  carrierId : Option Uuid := none
  equipmentType : Option EquipmentType := none

structure LoadVolumeFilters where
  dateFrom : Option DateFilter := none
  dateTo : Option DateFilter := none
  bucket : LoadVolumeBucket
  customerId : Option Uuid := none
  equipmentType : Option EquipmentType := none

/-- The margin is left as it is before its rounding. -/
structure RevenueMarginRow where
  groupKey : String
  groupLabel : String
  loadCount : ℕ
  revenue : Cents
  cost : Cents
  grossProfit : Cents
  marginPercent : ℚ

structure LoadVolumeRow where
  period : String
  loadCount : ℕ

structure RevenueMarginResult where
  items : List RevenueMarginRow
  total : ℕ
  page : ℕ
  pageSize : ℕ
  previousPeriod : Option (List RevenueMarginRow)

namespace ReportCatalogService

/-- `new Date(value)`, which later refuses to be written if it is invalid. -/
def readDate (engine : Engine) (server : Zone) : DateFilter → Except AppError Instant
  | .text s => require (newDate engine server s) (.database "Invalid time value")
  | .iso t => .ok t

def parseDate (engine : Engine) (server : Zone) (value : Option DateFilter) : Except AppError (Option Instant) :=
  match value with
  | none => .ok none
  | some d => if d.given then (readDate engine server d).map some else .ok none

def padded (width : ℕ) (n : ℤ) : String :=
  String.ofList (List.leftpad width '0' (toString n).toList)

def monthText (p : WallClock) : String := padded 4 p.year ++ "-" ++ padded 2 p.month

def dayText (p : WallClock) : String := monthText p ++ "-" ++ padded 2 p.day

/-- `date_trunc` and `to_char`; weeks begin on Mondays, and the epoch was a Thursday. -/
def period (bucket : LoadVolumeBucket) (createdAt : Instant) : String :=
  match bucket with
  | .day => dayText (.ofMs createdAt)
  | .week =>
    let day := createdAt / 86400000
    dayText (.ofMs (86400000 * (day - (day + 3) % 7)))
  | .month => monthText (.ofMs createdAt)

def inRange (dateFrom dateTo : Option Instant) (createdAt : Instant) : Bool :=
  dateFrom.all (fun from_ => from_ ≤ createdAt) && dateTo.all (fun to_ => createdAt ≤ to_)

def nonCancelledLoadStatuses : List LoadStatus :=
  [.booked, .carrierSourcing, .carrierAssigned, .rateConfirmation, .dispatched, .pickup, .inTransit, .delivered, .closed]

structure Group where
  key : String
  label : String
  deriving DecidableEq

def place (stop : Stop) : String := stop.city ++ ", " ++ stop.state

def lane (o : RowOrder) (load : ReportedLoad) : Option (String × String) := do
  let origin ← findFirstBy o (fun s => s.stopType == .pickup && s.stopPurpose == .standard)
    (fun s t => s.sequence ≤ t.sequence) load.rows.stops.rows
  let destination ← findFirstBy o (fun s => s.stopType == .delivery && s.stopPurpose == .standard)
    (fun s t => t.sequence ≤ s.sequence) load.rows.stops.rows
  return (place origin, place destination)

/-- The group that the joins of the query put a Load in; Loads of one lane text are grouped by its two ends. -/
def dimension (db : ReportDb) (o : RowOrder) (groupBy : RevenueRollupGroupBy) (load : ReportedLoad) :
    Option (Group × Option (String × String)) :=
  match groupBy with
  | .customer => (db.customerName load.rows.load.customerId).map (fun name =>
      (⟨toString load.rows.load.customerId, name⟩, none))
  | .carrier => load.rows.load.assignedCarrierId.bind (fun id => (db.carrierName id).map (fun name =>
      (⟨toString id, name⟩, none)))
  | .month =>
    let month := period .month load.createdAt
    some (⟨month, month⟩, none)
  | .salesUser => (db.userName load.rows.load.createdByUserId).map (fun name =>
      (⟨toString load.rows.load.createdByUserId, name⟩, none))
  | .lane => (lane o load).map (fun ends =>
      let text := ends.1 ++ " -> " ++ ends.2
      (⟨text, text⟩, some ends))

def charged (side : ChargeLineItemSide) (load : ReportedLoad) : Cents :=
  ((load.rows.chargeLineItems.filter (fun c => c.side == side)).map ChargeLineItem.amount).sum

def selects (organizationId : Uuid) (filters : RevenueMarginFilters) (load : ReportedLoad) : Bool :=
  load.organizationId == organizationId && nonCancelledLoadStatuses.contains load.rows.load.status &&
    filters.customerId.all (fun id => load.rows.load.customerId == id) &&
    filters.carrierId.all (fun id => load.rows.load.assignedCarrierId == some id) &&
    filters.equipmentType.all (fun e => load.rows.load.equipmentType == e)

def marginPercent (revenue grossProfit : Cents) : ℚ :=
  if revenue = 0 then 0 else grossProfit / revenue * 100

def marginRow (group : Group × Option (String × String)) (loads : List ReportedLoad) : RevenueMarginRow :=
  let revenue := (loads.map (charged .customer)).sum
  let cost := (loads.map (charged .carrier)).sum
  { groupKey := group.1.key, groupLabel := group.1.label, loadCount := loads.length, revenue, cost
    grossProfit := revenue - cost, marginPercent := marginPercent revenue (revenue - cost) }

def joined (db : ReportDb) (o : RowOrder) (groupBy : RevenueRollupGroupBy) :
    List ((Group × Option (String × String)) × ReportedLoad) :=
  db.loads.filterMap (fun load => (dimension db o groupBy load).map (fun group => (group, load)))

def revenueRollup (engine : Engine) (server : Zone) (db : ReportDb) (o : RowOrder) (organizationId : Uuid)
    (by_ : RevenueRollupGroupBy) (filters : RevenueMarginFilters) : Except AppError (List RevenueMarginRow) := do
  let dateFrom ← parseDate engine server filters.dateFrom
  let dateTo ← parseDate engine server filters.dateTo
  return groupBy Prod.fst (fun group rows => marginRow group (rows.map Prod.snd))
    ((joined db o by_).filter (fun row =>
      selects organizationId filters row.2 && inRange dateFrom dateTo row.2.createdAt))

def volumeSelects (organizationId : Uuid) (filters : LoadVolumeFilters) (load : ReportedLoad) : Bool :=
  load.organizationId == organizationId &&
    filters.customerId.all (fun id => load.rows.load.customerId == id) &&
    filters.equipmentType.all (fun e => load.rows.load.equipmentType == e)

def loadVolumeRows (engine : Engine) (server : Zone) (db : ReportDb) (organizationId : Uuid)
    (filters : LoadVolumeFilters) : Except AppError (List LoadVolumeRow) := do
  let dateFrom ← parseDate engine server filters.dateFrom
  let dateTo ← parseDate engine server filters.dateTo
  return (groupBy (fun load => period filters.bucket load.createdAt) (fun period loads => ⟨period, loads.length⟩)
    (db.loads.filter (fun load =>
      volumeSelects organizationId filters load && inRange dateFrom dateTo load.createdAt))).insertionSort
        (fun r s => r.period ≤ s.period)

def shiftDateRange (engine : Engine) (server : Zone) (dateFrom dateTo : DateFilter) :
    Except AppError (DateFilter × DateFilter) := do
  let from_ ← readDate engine server dateFrom
  let to_ ← readDate engine server dateTo
  let lengthMs := to_ - from_
  let previousTo := from_ - 24 * 60 * 60 * 1000
  let previousFrom := previousTo - lengthMs
  return (.iso previousFrom, .iso previousTo)

def paginate {α : Type} (rows : List α) (page pageSize : ℕ) : List α :=
  (rows.drop ((page - 1) * pageSize)).take pageSize

def revenueMargin (engine : Engine) (server : Zone) (db : ReportDb) (o : RowOrder) (organizationId : Uuid)
    (groupBy : RevenueRollupGroupBy) (filters : RevenueMarginFilters) (page pageSize : ℕ) (compare : Bool) :
    Except AppError RevenueMarginResult := do
  let rows ← revenueRollup engine server db o organizationId groupBy filters
  let previousPeriod ← match compare, filters.dateFrom, filters.dateTo with
    | true, some dateFrom, some dateTo =>
      if dateFrom.given && dateTo.given then do
        let shifted ← shiftDateRange engine server dateFrom dateTo
        let previous ← revenueRollup engine server db o organizationId groupBy
          { filters with dateFrom := some shifted.1, dateTo := some shifted.2 }
        pure (some previous)
      else pure none
    | _, _, _ => pure none
  return ⟨paginate rows page pageSize, rows.length, page, pageSize, previousPeriod⟩

end ReportCatalogService

structure CalendarDate where
  text : String
  date : WallClock
  written : dateOnly text.toList = some date
  valid : date.Valid

namespace CalendarDate

def start (d : CalendarDate) : Instant := d.date.ms

lemma start_midnight (d : CalendarDate) : (86400000 : ℤ) ∣ d.start := by
  have hsecond := (dateOnly_reads d.written).2.2
  rw [start, WallClock.ms, hsecond]
  omega

lemma text_ne (d : CalendarDate) : d.text ≠ "" := by
  intro hempty
  have hwritten := d.written
  rw [hempty] at hwritten
  cases hwritten

end CalendarDate

namespace RevenueMarginFilters

def between (filters : RevenueMarginFilters) (dateFrom dateTo : CalendarDate) : RevenueMarginFilters :=
  { filters with dateFrom := some (.text dateFrom.text), dateTo := some (.text dateTo.text) }

end RevenueMarginFilters

namespace LoadVolumeFilters

def between (filters : LoadVolumeFilters) (dateFrom dateTo : CalendarDate) : LoadVolumeFilters :=
  { filters with dateFrom := some (.text dateFrom.text), dateTo := some (.text dateTo.text) }

end LoadVolumeFilters

namespace ReportCatalogService

def reported (rows : List RevenueMarginRow) (key : String) : ℕ × Cents :=
  (rows.map (fun r => if r.groupKey = key then (r.loadCount, r.revenue) else 0)).sum

def reportedVolume (rows : List LoadVolumeRow) (period : String) : ℕ :=
  (rows.map (fun r => if r.period = period then r.loadCount else 0)).sum

def CreatedDuring (c : CalendarDate) (load : ReportedLoad) : Prop :=
  c.start < load.createdAt ∧ load.createdAt < c.start + 86400000

instance (c : CalendarDate) (load : ReportedLoad) : Decidable (CreatedDuring c load) :=
  inferInstanceAs (Decidable (_ ∧ _))

section Ranges

variable {engine : Engine} {server : Zone} {db : ReportDb} {o : RowOrder} {organizationId : Uuid}
  {by_ : RevenueRollupGroupBy} {a b c next : CalendarDate}

lemma readDate_date (d : CalendarDate) : readDate engine server (.text d.text) = .ok d.start := by
  rw [readDate, newDate_date d.written d.valid]
  rfl

lemma parseDate_date (d : CalendarDate) : parseDate engine server (some (.text d.text)) = .ok (some d.start) := by
  have hgiven : (DateFilter.text d.text).given = true := decide_eq_true d.text_ne
  simp only [parseDate, hgiven, if_true, readDate_date]
  rfl

def share (key : String) (row : (Group × Option (String × String)) × ReportedLoad) : ℕ × Cents :=
  if row.1.1.key = key then (1, charged .customer row.2) else 0

lemma sum_shares (loads : List ReportedLoad) : (loads.map (fun load => ((1 : ℕ), charged .customer load))).sum =
    (loads.length, (loads.map (charged .customer)).sum) := by
  induction loads with
  | nil => rfl
  | cons load loads ih =>
    rw [List.map_cons, List.sum_cons, ih, List.length_cons, List.map_cons, List.sum_cons, Prod.mk_add_mk, add_comm 1]

lemma reported_rollup (key : String) (rows : List ((Group × Option (String × String)) × ReportedLoad)) :
    reported (groupBy Prod.fst (fun group rows => marginRow group (rows.map Prod.snd)) rows) key =
      (rows.map (share key)).sum := by
  refine sum_groupBy Prod.fst _ (share key) (fun group rows hgroup => ?_) rows
  by_cases hkey : group.1.key = key
  · have hshare : rows.map (share key) = (rows.map Prod.snd).map (fun load => (1, charged .customer load)) := by
      rw [List.map_map]
      exact List.map_congr_left (fun row hrow => if_pos (by rw [hgroup row hrow, hkey]))
    rw [hshare, sum_shares]
    exact if_pos hkey
  · have hshare : rows.map (share key) = rows.map (fun _ => 0) :=
      List.map_congr_left (fun row hrow => if_neg (by rw [hgroup row hrow]; exact hkey))
    rw [hshare]
    simp [marginRow, hkey]

lemma inRange_eq (a b t : ℤ) : inRange (some a) (some b) t = decide (a ≤ t ∧ t ≤ b) := (Bool.decide_and _ _).symm

lemma range_parts {a b c : ℤ} (hac : a ≤ c) (hcb : c + 86400000 ≤ b) (t : ℤ) :
    (inRange (some a) (some b) t = true ∧
      (inRange (some a) (some c) t = true ∧ inRange (some (c + 86400000)) (some b) t = false ∧
          decide (c < t ∧ t < c + 86400000) = false ∨
        inRange (some a) (some c) t = false ∧ inRange (some (c + 86400000)) (some b) t = true ∧
          decide (c < t ∧ t < c + 86400000) = false ∨
        inRange (some a) (some c) t = false ∧ inRange (some (c + 86400000)) (some b) t = false ∧
          decide (c < t ∧ t < c + 86400000) = true)) ∨
      inRange (some a) (some b) t = false ∧ inRange (some a) (some c) t = false ∧
        inRange (some (c + 86400000)) (some b) t = false ∧ decide (c < t ∧ t < c + 86400000) = false := by
  simp only [inRange_eq, decide_eq_true_eq, decide_eq_false_iff_not]
  omega

lemma day_before {c b : ℤ} (hc : (86400000 : ℤ) ∣ c) (hb : (86400000 : ℤ) ∣ b) (h : c < b) : c + 86400000 ≤ b := by
  omega

lemma sum_range {ρ M : Type} [AddCommMonoid M] (f : ρ → M) (createdAt : ρ → Instant) (sel : ρ → Bool)
    (hac : a.start ≤ c.start) (hcb : c.start < b.start) (hnext : next.start = c.start + 86400000) (rows : List ρ) :
    ((rows.filter (fun r => sel r && inRange (some a.start) (some b.start) (createdAt r))).map f).sum =
      ((rows.filter (fun r => sel r && inRange (some a.start) (some c.start) (createdAt r))).map f).sum +
        ((rows.filter (fun r => sel r && inRange (some next.start) (some b.start) (createdAt r))).map f).sum +
        ((rows.filter (fun r => sel r && decide (c.start < createdAt r ∧ createdAt r < c.start + 86400000))).map f).sum := by
  refine sum_parts f (fun r => ?_) rows
  have hparts := range_parts hac (day_before c.start_midnight b.start_midnight hcb) (createdAt r)
  rw [hnext]
  cases sel r with
  | true => simpa only [Bool.true_and] using hparts
  | false => simp

lemma sum_gap {ρ M : Type} [AddCommMonoid M] (count : M →+ ℕ) (key : ρ → String) (f : ρ → M)
    (hcounted : ∀ r, 0 < count (f r)) (gap : ρ → Bool) (rows : List ρ) :
    (∀ k, ((rows.filter gap).map (fun r => if key r = k then f r else 0)).sum = 0) ↔ ∀ r ∈ rows, gap r = false := by
  constructor
  · intro h r hr
    by_contra hgap
    have hmem : r ∈ rows.filter gap := List.mem_filter.mpr ⟨hr, by simpa using hgap⟩
    have hzero := congrArg count (h (key r))
    rw [map_list_sum, map_zero] at hzero
    have hshare := List.sum_eq_zero_iff.mp hzero _ (List.mem_map_of_mem (List.mem_map_of_mem hmem))
    rw [if_pos rfl] at hshare
    exact (hcounted r).ne' hshare
  · intro h k
    rw [List.filter_eq_nil_iff.mpr (fun r hr => by simp [h r hr])]
    rfl

lemma revenueRollup_between {filters : RevenueMarginFilters} (d d' : CalendarDate) :
    revenueRollup engine server db o organizationId by_ (filters.between d d') =
      .ok (groupBy Prod.fst (fun group rows => marginRow group (rows.map Prod.snd))
        ((joined db o by_).filter (fun row =>
          selects organizationId filters row.2 && inRange (some d.start) (some d'.start) row.2.createdAt))) := by
  simp only [revenueRollup, RevenueMarginFilters.between, parseDate_date, ok_bind]
  rfl

lemma loadVolumeRows_between {filters : LoadVolumeFilters} (d d' : CalendarDate) :
    loadVolumeRows engine server db organizationId (filters.between d d') =
      .ok ((groupBy (fun load => period filters.bucket load.createdAt) (fun period loads => ⟨period, loads.length⟩)
        (db.loads.filter (fun load => volumeSelects organizationId filters load &&
          inRange (some d.start) (some d'.start) load.createdAt))).insertionSort (fun r s => r.period ≤ s.period)) := by
  simp only [loadVolumeRows, LoadVolumeFilters.between, parseDate_date, ok_bind]
  rfl

lemma revenue_additive_iff (filters : RevenueMarginFilters) (hac : a.start ≤ c.start) (hcb : c.start < b.start)
    (hnext : next.start = c.start + 86400000) :
    ∃ whole early late,
      revenueRollup engine server db o organizationId by_ (filters.between a b) = .ok whole ∧
      revenueRollup engine server db o organizationId by_ (filters.between a c) = .ok early ∧
      revenueRollup engine server db o organizationId by_ (filters.between next b) = .ok late ∧
      ((∀ key, reported whole key = reported early key + reported late key) ↔
        ∀ load ∈ db.loads, selects organizationId filters load = true → (dimension db o by_ load).isSome →
          ¬ CreatedDuring c load) := by
  refine ⟨_, _, _, revenueRollup_between a b, revenueRollup_between a c, revenueRollup_between next b, ?_⟩
  simp only [reported_rollup]
  have hparts (key : String) := sum_range (share key) (fun row => row.2.createdAt)
    (fun row => selects organizationId filters row.2) hac hcb hnext (joined db o by_)
  simp only [hparts, add_eq_left]
  refine (sum_gap (AddMonoidHom.fst ℕ Cents) (fun row : (Group × Option (String × String)) × ReportedLoad => row.1.1.key)
    (fun row => (1, charged .customer row.2)) (fun _ => one_pos) _ _).trans ?_
  constructor
  · intro h load hload hsel hgroup hgap
    obtain ⟨group, hgroup⟩ := Option.isSome_iff_exists.mp hgroup
    have hrow : (group, load) ∈ joined db o by_ := List.mem_filterMap.mpr ⟨load, hload, by rw [hgroup]; rfl⟩
    have hout := h _ hrow
    rw [hsel, Bool.true_and] at hout
    exact of_decide_eq_false hout hgap
  · rintro h ⟨group, load⟩ hrow
    obtain ⟨load', hload, hgroup⟩ := List.mem_filterMap.mp hrow
    obtain ⟨group', hgroup', heq⟩ := Option.map_eq_some_iff.mp hgroup
    obtain ⟨rfl, rfl⟩ := Prod.mk.inj heq
    by_contra hin
    rw [Bool.not_eq_false, Bool.and_eq_true] at hin
    exact h load' hload hin.1 (by rw [hgroup']; rfl) (of_decide_eq_true hin.2)

lemma reportedVolume_rows (bucket : LoadVolumeBucket) (text : String) (loads : List ReportedLoad) :
    reportedVolume ((groupBy (fun load => period bucket load.createdAt)
        (fun period loads => (⟨period, loads.length⟩ : LoadVolumeRow)) loads).insertionSort
          (fun r s => r.period ≤ s.period)) text =
      (loads.map (fun load => if period bucket load.createdAt = text then 1 else 0)).sum := by
  have hsorted := ((List.perm_insertionSort (fun r s : LoadVolumeRow => r.period ≤ s.period)
    (groupBy (fun load => period bucket load.createdAt) (fun period loads => ⟨period, loads.length⟩) loads)).map
      (fun r => if r.period = text then r.loadCount else 0)).sum_eq
  rw [reportedVolume, hsorted]
  apply sum_groupBy
  intro group rows hgroup
  by_cases hkey : group = text
  · have hshare : rows.map (fun load => if period bucket load.createdAt = text then 1 else 0) = rows.map (fun _ => 1) :=
      List.map_congr_left (fun row hrow => if_pos (by rw [hgroup row hrow, hkey]))
    rw [hshare]
    simp [hkey]
  · have hshare : rows.map (fun load => if period bucket load.createdAt = text then 1 else 0) = rows.map (fun _ => 0) :=
      List.map_congr_left (fun row hrow => if_neg (by rw [hgroup row hrow]; exact hkey))
    rw [hshare]
    simp [hkey]

lemma volume_additive_iff (filters : LoadVolumeFilters) (hac : a.start ≤ c.start) (hcb : c.start < b.start)
    (hnext : next.start = c.start + 86400000) :
    ∃ whole early late,
      loadVolumeRows engine server db organizationId (filters.between a b) = .ok whole ∧
      loadVolumeRows engine server db organizationId (filters.between a c) = .ok early ∧
      loadVolumeRows engine server db organizationId (filters.between next b) = .ok late ∧
      ((∀ period, reportedVolume whole period = reportedVolume early period + reportedVolume late period) ↔
        ∀ load ∈ db.loads, volumeSelects organizationId filters load = true → ¬ CreatedDuring c load) := by
  refine ⟨_, _, _, loadVolumeRows_between a b, loadVolumeRows_between a c, loadVolumeRows_between next b, ?_⟩
  simp only [reportedVolume_rows]
  have hparts (text : String) := sum_range (fun load => if period filters.bucket load.createdAt = text then 1 else 0)
    ReportedLoad.createdAt (volumeSelects organizationId filters) hac hcb hnext db.loads
  simp only [hparts, add_eq_left]
  refine (sum_gap (AddMonoidHom.id ℕ) (fun load : ReportedLoad => period filters.bucket load.createdAt)
    (fun _ => 1) (fun _ => one_pos) _ _).trans ?_
  refine forall₂_congr (fun load _ => ?_)
  rw [Bool.and_eq_false_imp]
  simp [CreatedDuring]

lemma previous_period (filters : RevenueMarginFilters) (page pageSize : ℕ) :
    ∃ result previous,
      revenueMargin engine server db o organizationId by_ (filters.between a b) page pageSize true = .ok result ∧
      result.previousPeriod = some previous ∧
      revenueRollup engine server db o organizationId by_
        { filters with
          dateFrom := some (.iso (a.start - 86400000 - (b.start - a.start)))
          dateTo := some (.iso (a.start - 86400000)) } = .ok previous := by
  have hgiven (d : CalendarDate) : (DateFilter.text d.text).given = true := decide_eq_true d.text_ne
  have hshift : shiftDateRange engine server (.text a.text) (.text b.text) =
      .ok (.iso (a.start - 86400000 - (b.start - a.start)), .iso (a.start - 86400000)) := by
    simp only [shiftDateRange, readDate_date, ok_bind]
    rfl
  simp only [revenueMargin, revenueRollup_between, ok_bind]
  simp only [RevenueMarginFilters.between, hgiven, Bool.and_self, if_true, hshift, ok_bind]
  exact ⟨_, _, rfl, rfl, rfl⟩

end Ranges

/-- Reports of two adjacent ranges of dates add up to the report of the whole just when no Load that they select was
created after the first midnight of the last date of the earlier range; the previous period is as long as the range
and ends on the day before. -/
theorem report_ranges_iff (engine : Engine) (server : Zone) (db : ReportDb) (o : RowOrder) (organizationId : Uuid)
    (by_ : RevenueRollupGroupBy) (filters : RevenueMarginFilters) (volumeFilters : LoadVolumeFilters)
    (a b c next : CalendarDate) (hac : a.start ≤ c.start) (hcb : c.start < b.start)
    (hnext : next.start = c.start + 86400000) :
    (∃ whole early late,
      revenueRollup engine server db o organizationId by_ (filters.between a b) = .ok whole ∧
      revenueRollup engine server db o organizationId by_ (filters.between a c) = .ok early ∧
      revenueRollup engine server db o organizationId by_ (filters.between next b) = .ok late ∧
      ((∀ key, reported whole key = reported early key + reported late key) ↔
        ∀ load ∈ db.loads, selects organizationId filters load = true → (dimension db o by_ load).isSome →
          ¬ CreatedDuring c load)) ∧
    (∃ whole early late,
      loadVolumeRows engine server db organizationId (volumeFilters.between a b) = .ok whole ∧
      loadVolumeRows engine server db organizationId (volumeFilters.between a c) = .ok early ∧
      loadVolumeRows engine server db organizationId (volumeFilters.between next b) = .ok late ∧
      ((∀ period, reportedVolume whole period = reportedVolume early period + reportedVolume late period) ↔
        ∀ load ∈ db.loads, volumeSelects organizationId volumeFilters load = true → ¬ CreatedDuring c load)) ∧
    ∀ page pageSize, ∃ result previous,
      revenueMargin engine server db o organizationId by_ (filters.between a b) page pageSize true = .ok result ∧
      result.previousPeriod = some previous ∧
      revenueRollup engine server db o organizationId by_
        { filters with
          dateFrom := some (.iso (a.start - 86400000 - (b.start - a.start)))
          dateTo := some (.iso (a.start - 86400000)) } = .ok previous :=
  ⟨revenue_additive_iff filters hac hcb hnext, volume_additive_iff volumeFilters hac hcb hnext,
    previous_period filters⟩

namespace Sample

def january (day : ℤ) (text : String) (written : dateOnly text.toList = some ⟨2026, 1, day, 0, 0, 0⟩)
    (valid : (⟨2026, 1, day, 0, 0, 0⟩ : WallClock).Valid) : CalendarDate := ⟨text, _, written, valid⟩

def first : CalendarDate := january 1 "2026-01-01" (by decide) (by decide)
def second : CalendarDate := january 2 "2026-01-02" (by decide) (by decide)
def third : CalendarDate := january 3 "2026-01-03" (by decide) (by decide)
def fourth : CalendarDate := january 4 "2026-01-04" (by decide) (by decide)

def bookedAt (createdAt : Instant) : ReportedLoad where
  organizationId := 1
  createdAt := createdAt
  rows :=
    { load :=
        { id := 10, loadNumber := "LD-2026-00001", customerId := 7, bookingSource := .direct, quoteId := none
          status := .booked, equipmentType := .dryVan, customerRate := 100000, rateSource := .manual
          rateAgreementId := none, createdByUserId := 5 }
      stops := .empty
      chargeLineItems :=
        [{ id := 11, side := .customer, chargeTypeId := 1, unitRate := 100000, amount := 100000, source := .original
           createdByUserId := 5 }] }

def reportDb (createdAt : Instant) : ReportDb where
  loads := [bookedAt createdAt]
  customerName id := if id = 7 then some "Acme" else none
  carrierName _ := none
  userName _ := none

def engine : Engine := ⟨fun _ => none, fun _ _ => none⟩

lemma greenwich_bounded (_ : ℤ) : (-86400 : ℤ) < 0 ∧ (0 : ℤ) < 86400 := by decide

lemma greenwich_earliest (t : ℤ) : let w := t + 1000 * (0 : ℤ)
    let first := w - 1000 * (0 : ℤ)
    first + 1000 * (0 : ℤ) = w ∧ first ≤ t := by simp

def utc : Zone where
  offset _ := 0
  offsetFor _ := 0
  bounded := greenwich_bounded
  earliest := greenwich_earliest

def reportedBetween (createdAt : Instant) (dateFrom dateTo : CalendarDate) : Option (ℕ × Cents) :=
  (revenueRollup engine utc (reportDb createdAt) .stored 1 .customer (RevenueMarginFilters.between {} dateFrom dateTo)).toOption.map
    (fun rows => reported rows "7")

end Sample

open ReportCatalogService.Sample in
theorem report_ranges_sample : ∃ whole early late,
    revenueRollup engine utc (reportDb first.start) .stored 1 .customer (RevenueMarginFilters.between {} first fourth) =
      .ok whole ∧
    revenueRollup engine utc (reportDb first.start) .stored 1 .customer (RevenueMarginFilters.between {} first second) =
      .ok early ∧
    revenueRollup engine utc (reportDb first.start) .stored 1 .customer (RevenueMarginFilters.between {} third fourth) =
      .ok late ∧ ∀ key, reported whole key = reported early key + reported late key := by
  obtain ⟨⟨whole, early, late, hwhole, hearly, hlate, hadd⟩, _⟩ := report_ranges_iff engine utc (reportDb first.start)
    .stored 1 .customer {} { bucket := .day } first fourth second third (by decide) (by decide) (by decide)
  refine ⟨whole, early, late, hwhole, hearly, hlate, hadd.mpr (fun load hload _ _ => ?_)⟩
  obtain rfl := List.mem_singleton.mp hload
  decide

open ReportCatalogService.Sample in
theorem noon_load_lost : reportedBetween (second.start + 43200000) first fourth = some (1, 100000) ∧
    reportedBetween (second.start + 43200000) first second = some (0, 0) ∧
    reportedBetween (second.start + 43200000) third fourth = some (0, 0) := by decide +kernel

end ReportCatalogService

end Truckmaster.Reporting
