import Truckmaster.Reporting.ReportRanges

namespace Truckmaster.Reporting

open Calendars Common Fallible Grouping QuoteLoad

inductive OnTimeGroupBy
  | carrier | dispatcher
  deriving DecidableEq, Repr

structure OnTimeFilters where
  dateFrom : Option DateFilter := none
  dateTo : Option DateFilter := none
  equipmentType : Option EquipmentType := none
  carrierId : Option Uuid := none

/-- The percentage is left as it is before its rounding. -/
structure OnTimeRow where
  groupKey : Uuid
  groupLabel : String
  deliveriesEvaluated : ℕ
  onTimeCount : ℕ
  onTimePercent : ℚ
  excludedNoAppointment : ℕ
  deriving DecidableEq

structure OnTimeRawRow where
  groupKey : Uuid
  groupLabel : String
  deliveriesEvaluated : ℕ
  onTimeCount : ℕ

structure OnTimeDb extends ReportDb where
  carrierExists : ∀ load ∈ loads, ∀ id ∈ load.rows.load.assignedCarrierId, (carrierName id).isSome
  dispatcherExists : ∀ load ∈ loads, ∀ id ∈ load.rows.load.assignedDispatcherId, (userName id).isSome

structure JoinedStop where
  load : ReportedLoad
  stop : Stop

def DatesGiven (dateFrom dateTo : Option Instant) : Prop := dateFrom.isSome ∨ dateTo.isSome

instance (dateFrom dateTo : Option Instant) : Decidable (DatesGiven dateFrom dateTo) :=
  inferInstanceAs (Decidable (_ ∨ _))

namespace OnTimeGroupBy

def groupId : OnTimeGroupBy → Load → Option Uuid
  | .carrier => Load.assignedCarrierId
  | .dispatcher => Load.assignedDispatcherId

def groupName (db : OnTimeDb) : OnTimeGroupBy → Uuid → Option String
  | .carrier => db.carrierName
  | .dispatcher => db.userName

end OnTimeGroupBy

namespace ReportCatalogService

def onTime (s : JoinedStop) : Bool :=
  s.stop.actualArrival.any (fun arrival => s.stop.appointmentDatetime.any (fun appointment => arrival ≤ appointment))

def appointedIn (dateFrom dateTo : Option Instant) (s : JoinedStop) : Bool :=
  s.stop.appointmentDatetime.any (inRange dateFrom dateTo)

def noAppointment (s : JoinedStop) : Bool := s.stop.appointmentDatetime.isNone

def carriedBy (filters : OnTimeFilters) (s : JoinedStop) : Bool :=
  filters.carrierId.all (fun id => s.load.rows.load.assignedCarrierId == some id)

def delivered (organizationId : Uuid) (filters : OnTimeFilters) (s : JoinedStop) : Bool :=
  s.stop.stopType == .delivery && s.stop.stopPurpose == .standard && s.stop.actualArrival.isSome &&
    s.load.organizationId == organizationId &&
    filters.equipmentType.all (fun equipment => s.load.rows.load.equipmentType == equipment)

def carrierCondition (by_ : OnTimeGroupBy) (filters : OnTimeFilters) (s : JoinedStop) : Bool :=
  match by_ with
  | .carrier => carriedBy filters s
  | .dispatcher => true

def keyed (db : OnTimeDb) (by_ : OnTimeGroupBy) : List (Uuid × JoinedStop) :=
  (db.loads.flatMap (fun load => load.rows.stops.rows.map (JoinedStop.mk load))).filterMap
    (fun s => (by_.groupId s.load.rows.load).map (fun id => (id, s)))

section Queries

variable (db : OnTimeDb) (organizationId : Uuid) (by_ : OnTimeGroupBy) (filters : OnTimeFilters)
  (dateFrom dateTo : Option Instant)

def selected : List (Uuid × JoinedStop) :=
  (keyed db by_).filter (fun r => delivered organizationId filters r.2 && carrierCondition by_ filters r.2)

def evaluatedQuery : List OnTimeRawRow :=
  groupBy Prod.fst
    (fun group rows => ⟨group.1, group.2, rows.length, rows.countP (fun r => onTime r.2)⟩)
    (((selected db organizationId by_ filters).filter (fun r => appointedIn dateFrom dateTo r.2)).filterMap
      (fun r => (by_.groupName db r.1).map (fun name => ((r.1, name), r.2))))

def excludedQuery : List (Uuid × ℕ) :=
  groupBy Prod.fst (fun id rows => (id, rows.length))
    ((selected db organizationId by_ filters).filter (fun r => noAppointment r.2))

end Queries

def onTimePercent (deliveriesEvaluated onTimeCount : ℕ) : ℚ :=
  if deliveriesEvaluated = 0 then 0 else onTimeCount / deliveriesEvaluated * 100

def onTimeRows (engine : Engine) (server : Zone) (db : OnTimeDb) (organizationId : Uuid) (by_ : OnTimeGroupBy)
    (filters : OnTimeFilters) : Except AppError (List OnTimeRow) := do
  let dateFrom ← parseDate engine server filters.dateFrom
  let dateTo ← parseDate engine server filters.dateTo
  let excluded := excludedQuery db organizationId by_ filters
  return (evaluatedQuery db organizationId by_ filters dateFrom dateTo).map (fun r => {
    groupKey := r.groupKey
    groupLabel := r.groupLabel
    deliveriesEvaluated := r.deliveriesEvaluated
    onTimeCount := r.onTimeCount
    onTimePercent := onTimePercent r.deliveriesEvaluated r.onTimeCount
    excludedNoAppointment := ((excluded.find? (fun e => e.1 == r.groupKey)).map Prod.snd).getD 0 })

section Accounting

variable {db : OnTimeDb} {organizationId : Uuid} {by_ : OnTimeGroupBy} {filters : OnTimeFilters}
  {dateFrom dateTo : Option Instant} {engine : Engine} {server : Zone}

lemma name_exists {r : Uuid × JoinedStop} (hr : r ∈ keyed db by_) : (by_.groupName db r.1).isSome := by
  obtain ⟨s, hs, hkey⟩ := List.mem_filterMap.mp hr
  obtain ⟨load, hload, hs⟩ := List.mem_flatMap.mp hs
  obtain ⟨stop, _, rfl⟩ := List.mem_map.mp hs
  obtain ⟨id, hid, rfl⟩ := Option.map_eq_some_iff.mp hkey
  cases by_ with
  | carrier => exact db.carrierExists load hload id hid
  | dispatcher => exact db.dispatcherExists load hload id hid

/-- The row of a group: the counts of its deliveries on both sides of the merge. -/
def mergedRow (db : OnTimeDb) (by_ : OnTimeGroupBy) (evaluated excluded : List (Uuid × JoinedStop)) (g : Uuid) : OnTimeRow :=
  let rows := evaluated.filter (fun r => r.1 = g)
  { groupKey := g
    groupLabel := (by_.groupName db g).getD ""
    deliveriesEvaluated := rows.length
    onTimeCount := rows.countP (fun r => onTime r.2)
    onTimePercent := onTimePercent rows.length (rows.countP (fun r => onTime r.2))
    excludedNoAppointment := (excluded.filter (fun r => r.1 = g)).length }

lemma onTimeRows_merged (hfrom : parseDate engine server filters.dateFrom = .ok dateFrom)
    (hto : parseDate engine server filters.dateTo = .ok dateTo) :
    onTimeRows engine server db organizationId by_ filters =
      .ok ((((selected db organizationId by_ filters).filter (fun r => appointedIn dateFrom dateTo r.2)).map Prod.fst).dedup.map
        (mergedRow db by_ ((selected db organizationId by_ filters).filter (fun r => appointedIn dateFrom dateTo r.2))
          ((selected db organizationId by_ filters).filter (fun r => noAppointment r.2)))) := by
  have hnamed : (((selected db organizationId by_ filters).filter (fun r => appointedIn dateFrom dateTo r.2)).filterMap
      (fun r => (by_.groupName db r.1).map (fun name => ((r.1, name), r.2)))) =
      ((selected db organizationId by_ filters).filter (fun r => appointedIn dateFrom dateTo r.2)).map
        (fun r => ((r.1, (by_.groupName db r.1).getD ""), r.2)) := by
    rw [← List.filterMap_eq_map]
    refine List.filterMap_congr (fun r hr => ?_)
    have hkeyed := (List.filter_sublist.trans List.filter_sublist).mem hr
    obtain ⟨name, hname⟩ := Option.isSome_iff_exists.mp (name_exists hkeyed)
    rw [Function.comp_apply, hname]
    rfl
  rw [onTimeRows, hfrom, hto, ok_bind, ok_bind, evaluatedQuery, hnamed, excludedQuery]
  simp only [lookup_groupBy]
  rw [groupBy_named (fun id => (by_.groupName db id).getD ""), groupBy, List.map_map]
  refine congrArg Except.ok (List.map_congr_left (fun g _ => ?_))
  simp only [Function.comp_apply, List.length_map, List.countP_map, mergedRow]
  rfl

variable (db organizationId by_ filters) in
def counted : List (Uuid × JoinedStop) :=
  (keyed db by_).filter (fun r => delivered organizationId filters r.2 && carriedBy filters r.2)

def shown (rows : List OnTimeRow) (g : Uuid) (measure : OnTimeRow → ℕ) : ℕ :=
  ((rows.filter (fun r => r.groupKey = g)).map measure).sum

variable (db organizationId by_ filters dateFrom dateTo) in
/-- Every delivery is counted once in the row of its group. -/
structure Accounts (rows : List OnTimeRow) : Prop where
  once : (rows.map OnTimeRow.groupKey).Nodup
  evaluated : ∀ g, shown rows g OnTimeRow.deliveriesEvaluated =
    ((counted db organizationId by_ filters).filter (fun r => r.1 = g)).countP (fun r => appointedIn dateFrom dateTo r.2)
  onTime : ∀ g, shown rows g OnTimeRow.onTimeCount =
    ((counted db organizationId by_ filters).filter (fun r => r.1 = g)).countP
      (fun r => appointedIn dateFrom dateTo r.2 && onTime r.2)
  excluded : ∀ g, shown rows g OnTimeRow.excludedNoAppointment =
    ((counted db organizationId by_ filters).filter (fun r => r.1 = g)).countP
      (fun r => noAppointment r.2 && !decide (DatesGiven dateFrom dateTo))
  total : (rows.map (fun r => r.deliveriesEvaluated + r.excludedNoAppointment)).sum =
    (counted db organizationId by_ filters).countP
      (fun r => appointedIn dateFrom dateTo r.2 || (noAppointment r.2 && !decide (DatesGiven dateFrom dateTo)))

lemma counted_selected : counted db organizationId by_ filters =
    (selected db organizationId by_ filters).filter (fun r => carriedBy filters r.2) := by
  rw [counted, selected, List.filter_filter]
  refine List.filter_congr (fun r _ => ?_)
  cases by_ with
  | carrier =>
    rw [carrierCondition, Bool.and_comm (carriedBy filters r.2), Bool.and_assoc, Bool.and_self]
  | dispatcher => rw [carrierCondition, Bool.and_true, Bool.and_comm]

lemma countP_counted (g : Uuid) (p : Uuid × JoinedStop → Bool) :
    ((counted db organizationId by_ filters).filter (fun r => r.1 = g)).countP p =
      (((selected db organizationId by_ filters).filter p).filter (fun r => r.1 = g)).countP (fun r => carriedBy filters r.2) := by
  simp only [counted_selected, List.countP_filter]
  refine List.countP_congr (fun r _ => ?_)
  simp only [Bool.and_eq_true, decide_eq_true_eq]
  tauto

lemma shown_merged (evaluated excluded : List (Uuid × JoinedStop)) (g : Uuid) (measure : OnTimeRow → ℕ) :
    shown ((evaluated.map Prod.fst).dedup.map (mergedRow db by_ evaluated excluded)) g measure =
      if g ∈ evaluated.map Prod.fst then measure (mergedRow db by_ evaluated excluded g) else 0 := by
  rw [shown, filter_key_map (List.nodup_dedup _) _ _ (fun _ => rfl)]
  simp only [List.mem_dedup]
  split_ifs
  · rw [List.map_singleton, List.sum_singleton]
  · rfl

lemma filter_key_nil {rows : List (Uuid × JoinedStop)} {g : Uuid} (hg : g ∉ rows.map Prod.fst) :
    rows.filter (fun r => r.1 = g) = [] :=
  List.filter_eq_nil_iff.mpr (fun _ hr hkey => hg (of_decide_eq_true hkey ▸ List.mem_map_of_mem hr))

lemma shown_evaluated (evaluated excluded : List (Uuid × JoinedStop)) (g : Uuid) :
    shown ((evaluated.map Prod.fst).dedup.map (mergedRow db by_ evaluated excluded)) g OnTimeRow.deliveriesEvaluated =
      (evaluated.filter (fun r => r.1 = g)).length := by
  rw [shown_merged]
  split_ifs with hg
  · rfl
  · rw [filter_key_nil hg, List.length_nil]

lemma shown_onTime (evaluated excluded : List (Uuid × JoinedStop)) (g : Uuid) :
    shown ((evaluated.map Prod.fst).dedup.map (mergedRow db by_ evaluated excluded)) g OnTimeRow.onTimeCount =
      (evaluated.filter (fun r => r.1 = g)).countP (fun r => ReportCatalogService.onTime r.2) := by
  rw [shown_merged]
  split_ifs with hg
  · rfl
  · rw [filter_key_nil hg, List.countP_nil]

lemma shown_excluded (evaluated excluded : List (Uuid × JoinedStop)) (g : Uuid) :
    shown ((evaluated.map Prod.fst).dedup.map (mergedRow db by_ evaluated excluded)) g OnTimeRow.excludedNoAppointment =
      if g ∈ evaluated.map Prod.fst then (excluded.filter (fun r => r.1 = g)).length else 0 := shown_merged _ _ _ _

lemma excluded_iff {evaluated rows : List (Uuid × JoinedStop)} {p : Uuid × JoinedStop → Bool} {open_ : Bool} :
    (∀ g, (if g ∈ evaluated.map Prod.fst then (rows.filter (fun r => r.1 = g)).length else 0) =
        (rows.filter (fun r => r.1 = g)).countP (fun r => open_ && p r)) ↔
      ∀ r ∈ rows, (r.1 ∈ evaluated.map Prod.fst ↔ open_ = true ∧ p r = true) := by
  constructor
  · intro h r hr
    have hmem : r ∈ rows.filter (fun r' => r'.1 = r.1) := List.mem_filter.mpr ⟨hr, decide_eq_true rfl⟩
    have hg := h r.1
    split_ifs at hg with hkey
    · have hall := List.countP_eq_length.mp hg.symm r hmem
      exact iff_of_true hkey (Bool.and_eq_true _ _ ▸ hall)
    · have hnone := List.countP_eq_zero.mp hg.symm r hmem
      exact iff_of_false hkey (Bool.and_eq_true _ _ ▸ hnone)
  · intro h g
    have hrow (r : Uuid × JoinedStop) (hr : r ∈ rows.filter (fun r => r.1 = g)) :
        g ∈ evaluated.map Prod.fst ↔ (open_ && p r) = true := by
      obtain ⟨hr, hkey⟩ := List.mem_filter.mp hr
      rw [Bool.and_eq_true, ← of_decide_eq_true hkey]
      exact h r hr
    split_ifs with hkey
    · exact (List.countP_eq_length.mpr (fun r hr => (hrow r hr).mp hkey)).symm
    · exact (List.countP_eq_zero.mpr (fun r hr hcounts => hkey ((hrow r hr).mpr hcounts))).symm

theorem onTime_accounts_iff (hfrom : parseDate engine server filters.dateFrom = .ok dateFrom)
    (hto : parseDate engine server filters.dateTo = .ok dateTo) :
    ∃ rows, onTimeRows engine server db organizationId by_ filters = .ok rows ∧
      (Accounts db organizationId by_ filters dateFrom dateTo rows ↔
        (∀ r ∈ selected db organizationId by_ filters, appointedIn dateFrom dateTo r.2 = true → carriedBy filters r.2 = true) ∧
        ∀ r ∈ selected db organizationId by_ filters, noAppointment r.2 = true →
          ((∃ e ∈ selected db organizationId by_ filters, appointedIn dateFrom dateTo e.2 = true ∧ e.1 = r.1) ↔
            ¬ DatesGiven dateFrom dateTo ∧ carriedBy filters r.2 = true)) := by
  refine ⟨_, onTimeRows_merged hfrom hto, ?_⟩
  generalize hevaluated : (selected db organizationId by_ filters).filter (fun r => appointedIn dateFrom dateTo r.2) = evaluated
  generalize hexcluded : (selected db organizationId by_ filters).filter (fun r => noAppointment r.2) = excluded
  have hcarried : (∀ r ∈ selected db organizationId by_ filters,
      appointedIn dateFrom dateTo r.2 = true → carriedBy filters r.2 = true) ↔ ∀ r ∈ evaluated, carriedBy filters r.2 = true := by
    simp only [← hevaluated, List.mem_filter, and_imp]
  have hkeys (g : Uuid) : (∃ e ∈ selected db organizationId by_ filters, appointedIn dateFrom dateTo e.2 = true ∧ e.1 = g) ↔
      g ∈ evaluated.map Prod.fst := by
    simp only [← hevaluated, List.mem_map, List.mem_filter, and_assoc]
  have hundated : (∀ r ∈ selected db organizationId by_ filters, noAppointment r.2 = true →
      (r.1 ∈ evaluated.map Prod.fst ↔ ¬ DatesGiven dateFrom dateTo ∧ carriedBy filters r.2 = true)) ↔
      ∀ r ∈ excluded, (r.1 ∈ evaluated.map Prod.fst ↔
        (!decide (DatesGiven dateFrom dateTo)) = true ∧ carriedBy filters r.2 = true) := by
    simp only [← hexcluded, List.mem_filter, and_imp, Bool.not_eq_true', decide_eq_false_iff_not]
  simp only [hkeys]
  rw [hcarried, hundated, ← excluded_iff]
  have hblank (g : Uuid) : ((counted db organizationId by_ filters).filter (fun r => r.1 = g)).countP
      (fun r => noAppointment r.2 && !decide (DatesGiven dateFrom dateTo)) =
      (excluded.filter (fun r => r.1 = g)).countP (fun r => !decide (DatesGiven dateFrom dateTo) && carriedBy filters r.2) := by
    rw [countP_counted, ← hexcluded]
    simp only [List.countP_filter]
    refine List.countP_congr (fun r _ => ?_)
    simp only [Bool.and_eq_true, decide_eq_true_eq]
    tauto
  have hdated (g : Uuid) : ((counted db organizationId by_ filters).filter (fun r => r.1 = g)).countP
      (fun r => appointedIn dateFrom dateTo r.2) =
      (evaluated.filter (fun r => r.1 = g)).countP (fun r => carriedBy filters r.2) := by
    rw [countP_counted, hevaluated]
  constructor
  · intro h
    refine ⟨fun r hr => ?_, fun g => ?_⟩
    · have hlength := h.evaluated r.1
      rw [shown_evaluated, hdated] at hlength
      exact List.countP_eq_length.mp hlength.symm r (List.mem_filter.mpr ⟨hr, decide_eq_true rfl⟩)
    · have hcount := h.excluded g
      rwa [shown_excluded, hblank] at hcount
  · rintro ⟨hall, hgroups⟩
    have hcount (g : Uuid) : (evaluated.filter (fun r => r.1 = g)).countP (fun r => carriedBy filters r.2) =
        (evaluated.filter (fun r => r.1 = g)).length :=
      List.countP_eq_length.mpr (fun r hr => hall r (List.mem_of_mem_filter hr))
    have honce : (((evaluated.map Prod.fst).dedup.map (mergedRow db by_ evaluated excluded)).map OnTimeRow.groupKey).Nodup := by
      rw [List.map_map]
      exact (List.map_id _).symm ▸ List.nodup_dedup _
    have honTime (g : Uuid) : ((counted db organizationId by_ filters).filter (fun r => r.1 = g)).countP
        (fun r => appointedIn dateFrom dateTo r.2 && ReportCatalogService.onTime r.2) =
        (evaluated.filter (fun r => r.1 = g)).countP (fun r => ReportCatalogService.onTime r.2) := by
      rw [countP_counted, ← hevaluated]
      simp only [List.countP_filter]
      refine List.countP_congr (fun r hr => ?_)
      have hcarrier (happointed : appointedIn dateFrom dateTo r.2 = true) : carriedBy filters r.2 = true :=
        hall r (hevaluated ▸ List.mem_filter.mpr ⟨hr, happointed⟩)
      simp only [Bool.and_eq_true, decide_eq_true_eq]
      tauto
    have hdisjoint (r : Uuid × JoinedStop) (hr : appointedIn dateFrom dateTo r.2 = true) :
        (noAppointment r.2 && !decide (DatesGiven dateFrom dateTo)) = false := by
      cases hd : r.2.stop.appointmentDatetime with
      | none =>
        rw [appointedIn, hd] at hr
        cases hr
      | some d => rw [noAppointment, hd, Option.isNone_some, Bool.false_and]
    refine ⟨honce, fun g => ?_, fun g => ?_, fun g => ?_, ?_⟩
    · rw [shown_evaluated, hdated, hcount]
    · rw [shown_onTime, honTime]
    · rw [shown_excluded, hblank]
      exact hgroups g
    · rw [← sum_indicator]
      refine sum_eq_of_groups OnTimeRow.groupKey Prod.fst (fun g => ?_)
      rw [sum_indicator, countP_or hdisjoint, hdated, hcount, hblank, ← hgroups g, List.sum_map_add]
      exact congrArg₂ (· + ·) (shown_evaluated evaluated excluded g) (shown_excluded evaluated excluded g)

end Accounting

namespace Sample

def delivery (id : Uuid) (appointmentDatetime : Option Instant) (actualArrival : Instant) : Stop where
  id
  sequence := 2
  stopType := .delivery
  city := "Dallas"
  state := "TX"
  zip := "75201"
  appointmentDatetime
  actualArrival := some actualArrival

def carriedLoad (id carrierId : Uuid) (first second : Option Instant) : ReportedLoad where
  organizationId := 1
  createdAt := 0
  rows :=
    { load :=
        { id, loadNumber := "LD-2026-00001", customerId := 7, bookingSource := .direct, quoteId := none
          status := .delivered, equipmentType := .dryVan, customerRate := 100000, rateSource := .manual
          rateAgreementId := none, createdByUserId := 5, assignedCarrierId := some carrierId
          assignedDispatcherId := some 6 }
      stops := ⟨[delivery (10 * id) first 50, delivery (10 * id + 1) second 60], by simp [delivery]⟩ }

def carriedDb (loads : List ReportedLoad) (h : ∀ load ∈ loads, load.rows.load.assignedDispatcherId = some 6) : OnTimeDb where
  loads
  customerName _ := none
  carrierName id := some ("Carrier " ++ toString id)
  userName id := if id = 6 then some "Dana" else none
  carrierExists _ _ _ _ := rfl
  dispatcherExists load hload id hid := by
    obtain rfl := Option.some.inj ((h load hload).symm.trans hid)
    rfl

def twoCarriers : OnTimeDb := carriedDb [carriedLoad 1 3 (some 70) none, carriedLoad 2 4 none none] (by decide)

def oneCarrier : OnTimeDb := carriedDb [carriedLoad 1 3 (some 70) none] (by decide)

end Sample

open ReportCatalogService.Sample

theorem onTime_accounts_sample : ∃ rows, onTimeRows engine utc oneCarrier 1 .carrier {} = .ok rows ∧
    Accounts oneCarrier 1 .carrier {} none none rows := by
  obtain ⟨rows, hrows, hiff⟩ : ∃ rows, onTimeRows engine utc oneCarrier 1 .carrier {} = .ok rows ∧
      (Accounts oneCarrier 1 .carrier {} none none rows ↔ _) := onTime_accounts_iff rfl rfl
  refine ⟨rows, hrows, hiff.mpr ?_⟩
  decide +kernel

theorem unscheduled_lost : ∃ rows, onTimeRows engine utc twoCarriers 1 .carrier {} = .ok rows ∧
    rows.map OnTimeRow.groupKey = [3] ∧ (counted twoCarriers 1 .carrier {}).map Prod.fst = [3, 3, 4, 4] ∧
    ¬ Accounts twoCarriers 1 .carrier {} none none rows := by
  refine ⟨_, rfl, by decide +kernel, by decide +kernel, fun h => ?_⟩
  exact absurd h.total (by decide +kernel)

end ReportCatalogService

end Truckmaster.Reporting
