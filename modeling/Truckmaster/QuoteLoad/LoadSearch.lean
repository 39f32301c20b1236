import Truckmaster.Common.LocalValues
import Truckmaster.Library.Pages
import Truckmaster.QuoteLoad.Csv
import Truckmaster.QuoteLoad.FinancialFieldShaping

namespace Truckmaster.QuoteLoad

open Calendars Common Tables Pages

inductive RiskStatus
  | normal | atRisk | delayed
  deriving DecidableEq, Repr

inductive LoadSearchSort
  | loadNumber | pickupDate | deliveryDate
  deriving DecidableEq, Repr

inductive LoadSearchSortDirection
  | asc | desc
  deriving DecidableEq, Repr

inductive DatedStop
  | pickup | delivery
  deriving DecidableEq, Repr

structure DispatchDriver where
  driverName : Option String
  sourceDriver : Option (String × String)

structure SearchLoad where
  load : Load
  organizationId : Uuid
  createdAt : Instant
  riskStatus : RiskStatus := .normal
  customerName : String
  carrierName : Option String := none
  dispatcherName : Option String := none
  dispatchRecord : Option DispatchDriver := none
  stops : List Stop

structure LoadSearchFilters where
  status : Option LoadStatus := none
  customerId : Option Uuid := none
  carrierId : Option Uuid := none
  dispatcherId : Option Uuid := none
  equipmentType : Option EquipmentType := none
  riskStatus : Option RiskStatus := none
  pickupFrom : Option String := none
  pickupTo : Option String := none
  deliveryFrom : Option String := none
  deliveryTo : Option String := none
  q : Option String := none
  sort : Option LoadSearchSort := none
  sortDirection : Option LoadSearchSortDirection := none
  ids : Option (List Uuid) := none
  excludeClosed : Bool := false

namespace DatedStop

def stopType : DatedStop → StopType
  | .pickup => .pickup
  | .delivery => .delivery

def matching (t : DatedStop) (stops : List Stop) : List Stop :=
  stops.filter (fun s => s.stopType == t.stopType && s.stopPurpose == .standard)

def overtakes : DatedStop → Stop → Stop → Bool
  | .pickup, b, a => b.sequence < a.sequence
  | .delivery, b, a => a.sequence < b.sequence

def pick (t : DatedStop) : List Stop → Option Stop
  | [] => none
  | s :: rest => some (rest.foldl (fun a b => if t.overtakes b a then b else a) s)

end DatedStop

def pickStopDate (stops : List Stop) (t : DatedStop) : Option Instant :=
  (t.pick (t.matching stops)).bind Stop.appointmentDatetime

structure StopFilter where
  stopType : DatedStop
  gte : Option Instant
  lte : Option Instant
  deriving DecidableEq, Repr

namespace StopFilter

def contains (range : StopFilter) (d : Instant) : Bool :=
  range.gte.all (fun first => decide (first ≤ d)) && range.lte.all (fun last => decide (d ≤ last))

def accepts (range : StopFilter) (s : Stop) : Bool :=
  s.stopType == range.stopType.stopType && s.appointmentDatetime.any range.contains

def passes (range : StopFilter) (stops : List Stop) : Bool := stops.any range.accepts

end StopFilter

def given (text : Option String) : Option String := text.filter (fun s => s ≠ "")

namespace LoadSearchService

/-! `toDate` is the Date constructor, and `like` the pattern match of the database without regard to case. -/

variable (toDate : String → Option Instant) (like : String → String → Bool)

/-- An invalid date fails the query. -/
def boundOf (text : Option String) : Option (Option Instant) :=
  match given text with
  | none => some none
  | some s => (toDate s).map some

def rangeFilter (t : DatedStop) (fromText toText : Option String) : Option (Option StopFilter) :=
  if given fromText = none ∧ given toText = none then some none
  else do
    let gte ← boundOf toDate fromText
    let lte ← boundOf toDate toText
    some (some ⟨t, gte, lte⟩)

def stopFilters (filters : LoadSearchFilters) : Option (List StopFilter) := do
  let pickup ← rangeFilter toDate .pickup filters.pickupFrom filters.pickupTo
  let delivery ← rangeFilter toDate .delivery filters.deliveryFrom filters.deliveryTo
  some (pickup.toList ++ delivery.toList)

def statusPasses (filters : LoadSearchFilters) (status : LoadStatus) : Bool :=
  match filters.status with
  | some wanted => status == wanted
  | none => !filters.excludeClosed || (status != .closed && status != .cancelled)

def textPasses (q : String) (l : SearchLoad) : Bool :=
  like l.load.loadNumber q || like l.customerName q || l.carrierName.any (like · q) ||
    l.stops.any (fun s => like s.city q || like s.state q || s.addressLine1.any (like · q))

def buildWhere (organizationId : Uuid) (filters : LoadSearchFilters) : Option (SearchLoad → Bool) := do
  let ranges ← stopFilters toDate filters
  some fun l =>
    l.organizationId == organizationId &&
    statusPasses filters l.load.status &&
    filters.customerId.all (fun id => l.load.customerId == id) &&
    filters.carrierId.all (fun id => l.load.assignedCarrierId == some id) &&
    filters.dispatcherId.all (fun id => l.load.assignedDispatcherId == some id) &&
    filters.equipmentType.all (fun equipment => l.load.equipmentType == equipment) &&
    filters.riskStatus.all (fun risk => l.riskStatus == risk) &&
    filters.ids.all (fun ids => ids.isEmpty || ids.contains l.load.id) &&
    ranges.all (fun range => range.passes l.stops) &&
    ((filters.q.map trim).filter (fun q => q ≠ "")).all (fun q => textPasses like q l)

def stopRows (loads : List SearchLoad) : List (Uuid × Stop) :=
  loads.flatMap (fun l => l.stops.map (fun s => (l.load.id, s)))

def stopsByLoad (o : RowOrder) (keep : Stop → Bool) (loads : List SearchLoad) (loadId : Uuid) : List Stop :=
  ((findMany o (fun r => keep r.2) (stopRows loads)).filter (fun r => r.1 == loadId)).map Prod.snd

def deriveSortDates (o : RowOrder) (loads : List SearchLoad) (t : DatedStop) (loadId : Uuid) : Option Instant :=
  pickStopDate (stopsByLoad o (fun s => s.stopType == t.stopType && s.stopPurpose == .standard) loads loadId) t

def compareDates (direction : LoadSearchSortDirection) : Option Instant → Option Instant → ℤ
  | none, none => 0
  | none, some _ => 1
  | some _, none => -1
  | some a, some b => if direction = .asc then a - b else -(a - b)

def DateOrder {α : Type} (direction : LoadSearchSortDirection) (date : α → Option Instant) (a b : α) : Prop :=
  compareDates direction (date a) (date b) ≤ 0

instance {α : Type} (direction : LoadSearchSortDirection) (date : α → Option Instant) :
    DecidableRel (DateOrder direction date) := fun _ _ => inferInstanceAs (Decidable (_ ≤ (0 : ℤ)))

def Newest (a b : SearchLoad) : Prop := b.createdAt ≤ a.createdAt

instance : DecidableRel Newest := fun _ _ => inferInstanceAs (Decidable (_ ≤ (_ : ℤ)))

def dated : Option LoadSearchSort → Option DatedStop
  | some .pickupDate => some .pickup
  | some .deliveryDate => some .delivery
  | _ => none

structure SearchDb where
  loads : Table (fun l : SearchLoad => l.load.id)
  numbers : (loads.rows.map (fun l => (l.organizationId, l.load.loadNumber))).Nodup

structure LoadSummary where
  load : Load
  riskStatus : RiskStatus
  createdAt : Instant
  stops : List Stop
  assignedDriverName : Option String

structure LoadSearchResult where
  items : List (FinancialRecord LoadSummary Unit Unit)
  total : ℕ
  page : ℕ
  pageSize : ℕ

def assignedDriverName (l : SearchLoad) : Option String :=
  l.dispatchRecord.bind fun record => match record.sourceDriver with
    | some (firstName, lastName) => some (firstName ++ " " ++ lastName)
    | none => record.driverName

def searchRecord {ρ : Type} (l : SearchLoad) (rest : ρ) : FinancialRecord ρ Unit Unit where
  createdByUserId := l.load.createdByUserId
  customerRate := some l.load.customerRate
  rateSource := some l.load.rateSource
  rateAgreementId := l.load.rateAgreementId
  carrierRate := some l.load.carrierRate
  customerChargesTotal := none
  sourcingAttempts := none
  chargeLineItems := none
  rest

def summary (l : SearchLoad) : FinancialRecord LoadSummary Unit Unit :=
  searchRecord l ⟨LoadService.otherColumns l.load, l.riskStatus, l.createdAt, l.stops, assignedDriverName l⟩

section Sorting

/-! `collate` orders texts as the database does. -/

variable {κ : Type} [LinearOrder κ] (collate : String ↪ κ)

def NumberOrder (direction : LoadSearchSortDirection) (a b : SearchLoad) : Prop :=
  if direction = .asc then collate a.load.loadNumber ≤ collate b.load.loadNumber
  else collate b.load.loadNumber ≤ collate a.load.loadNumber

instance (direction : LoadSearchSortDirection) : DecidableRel (NumberOrder collate direction) :=
  fun _ _ => inferInstanceAs (Decidable (ite _ _ _))

/-- The Loads on a page; `o` are the orders in which the queries of the call return their rows. -/
def pageLoads (o : ℕ → RowOrder) (db : SearchDb) (p : SearchLoad → Bool) (filters : LoadSearchFilters)
    (pageNumber pageSize : ℕ) : List SearchLoad :=
  let direction := filters.sortDirection.getD .asc
  match dated filters.sort with
  | some t =>
    let rows := findMany (o 0) p db.loads.rows
    let ids := rows.map (fun l => l.load.id)
    let sortedIds := ids.insertionSort (DateOrder direction (deriveSortDates (o 1) rows t))
    let pageIds := page pageNumber pageSize sortedIds
    let fetched := findMany (o 2) (fun l => decide (l.load.id ∈ pageIds)) db.loads.rows
    pageIds.filterMap (fun id => fetched.find? (fun l => l.load.id == id))
  | none =>
    if filters.sort = some .loadNumber then
      page pageNumber pageSize (findManyBy (o 0) p (NumberOrder collate direction) db.loads.rows)
    else page pageNumber pageSize (findManyBy (o 0) p Newest db.loads.rows)

def search (o : ℕ → RowOrder) (db : SearchDb) (organizationId actingUserId : Uuid)
    (actingRoles : List MembershipRoleName) (filters : LoadSearchFilters) (pageNumber pageSize : ℕ) :
    Option LoadSearchResult := do
  let p ← buildWhere toDate like organizationId filters
  some {
    items := (pageLoads collate o db p filters pageNumber pageSize).map
      (fun l => shapeFinancialFields (summary l) actingRoles actingUserId)
    total := db.loads.rows.countP p
    page := pageNumber
    pageSize }

def exportedLoads (o : ℕ → RowOrder) (db : SearchDb) (p : SearchLoad → Bool) (filters : LoadSearchFilters) :
    List (SearchLoad × List Stop) :=
  let direction := filters.sortDirection.getD .asc
  let found := if filters.sort = some .loadNumber then findManyBy (o 0) p (NumberOrder collate direction) db.loads.rows
    else findManyBy (o 0) p Newest db.loads.rows
  let loads := found.map (fun l => (l, stopsByLoad (o 1) (fun _ => true) found l.load.id))
  match dated filters.sort with
  | some t => loads.insertionSort (DateOrder direction (fun l => pickStopDate l.2 t))
  | none => loads

end Sorting

def statusText : LoadStatus → String
  | .booked => "BOOKED"
  | .carrierSourcing => "CARRIER_SOURCING"
  | .carrierAssigned => "CARRIER_ASSIGNED"
  | .rateConfirmation => "RATE_CONFIRMATION"
  | .dispatched => "DISPATCHED"
  | .pickup => "PICKUP"
  | .inTransit => "IN_TRANSIT"
  | .delivered => "DELIVERED"
  | .closed => "CLOSED"
  | .cancelled => "CANCELLED"

def riskText : RiskStatus → String
  | .normal => "NORMAL"
  | .atRisk => "AT_RISK"
  | .delayed => "DELAYED"

def equipmentText : EquipmentType → String
  | .dryVan => "DRY_VAN"
  | .reefer => "REEFER"
  | .flatbed => "FLATBED"

/-- `Decimal.toString` writes no zeros at the end of the fraction. -/
def decimalText (amount : Cents) : String :=
  let fraction := padStart 2 (numeric (amount.natAbs % 100))
  let digits := (fraction.reverse.dropWhile (fun c => c == '0')).reverse
  (if amount < 0 then "-" else "") ++ String.ofList (numeric (amount.natAbs / 100)) ++
    if digits = [] then "" else "." ++ String.ofList digits

def csvHeader : List String :=
  ["Load #", "Customer", "Status", "Risk", "Carrier", "Dispatcher", "Origin → Destination", "Pickup Date",
    "Delivery Date", "Equipment", "Customer Rate", "Carrier Rate"]

def standardStops (t : DatedStop) (stops : List Stop) : List Stop :=
  (t.matching stops).insertionSort (fun a b => a.sequence ≤ b.sequence)

def lane (stops : List Stop) : String :=
  match (standardStops .pickup stops).head?, (standardStops .delivery stops).getLast? with
  | some origin, some destination =>
    origin.city ++ ", " ++ origin.state ++ " → " ++ destination.city ++ ", " ++ destination.state
  | _, _ => ""

def csvRow (record : FinancialRecord (SearchLoad × List Stop) Unit Unit) : List String :=
  let l := record.rest.1
  let dateText (t : DatedStop) : String := ((pickStopDate record.rest.2 t).map toISOString).getD ""
  [l.load.loadNumber, l.customerName, statusText l.load.status, riskText l.riskStatus, l.carrierName.getD "",
    l.dispatcherName.getD "", lane record.rest.2, dateText .pickup, dateText .delivery,
    equipmentText l.load.equipmentType, (record.customerRate.map decimalText).getD "",
    ((record.carrierRate.bind id).map decimalText).getD ""]

def exportCsv {κ : Type} [LinearOrder κ] (collate : String ↪ κ) (o : ℕ → RowOrder) (db : SearchDb)
    (organizationId actingUserId : Uuid) (actingRoles : List MembershipRoleName) (filters : LoadSearchFilters) :
    Option (List Char) := do
  let p ← buildWhere toDate like organizationId filters
  let shaped := (exportedLoads collate o db p filters).map
    (fun l => shapeFinancialFields (searchRecord l.1 l) actingRoles actingUserId)
  some (Csv.toCsv ((csvHeader :: shaped.map csvRow).map (List.map String.toList)))

end LoadSearchService

open LoadSearchService

section Dates

variable {toDate : String → Option Instant} {like : String → String → Bool} {t : DatedStop} {stops : List Stop}
  {range : StopFilter} {s f : Stop} {fromText toText : Option String} {organizationId : Uuid} {p : SearchLoad → Bool}
  {l : SearchLoad}

def DatedStop.Before : DatedStop → Stop → Stop → Prop
  | .pickup, a, b => a.sequence ≤ b.sequence
  | .delivery, a, b => b.sequence ≤ a.sequence

/-- No STANDARD stop of the type comes before it: by the sequence, or at the same sequence by the place in the list. -/
structure Leads (t : DatedStop) (stops : List Stop) (f : Stop) : Prop where
  mem : f ∈ t.matching stops
  first : ∀ a ∈ t.matching stops, t.Before f a
  earlier : ∀ a ∈ t.matching stops, t.Before a f → (t.matching stops).idxOf f ≤ (t.matching stops).idxOf a

lemma foldl_pick {r : Stop → Stop → Prop} [DecidableRel r] (hr : ∀ b a, t.overtakes b a = true ↔ r b a)
    (stops : List Stop) : t.pick stops = stops.foldl (List.argAux r) none := by
  have hrest (rest : List Stop) (s : Stop) : some (rest.foldl (fun a b => if t.overtakes b a then b else a) s) =
      rest.foldl (List.argAux r) (some s) := by
    induction rest generalizing s with
    | nil => rfl
    | cons b rest ih =>
      rw [List.foldl_cons, List.foldl_cons, ih, List.argAux]
      simp only [hr, apply_ite some]
  cases stops with
  | nil => rfl
  | cons s rest => exact hrest rest s

lemma pick_iff : t.pick (t.matching stops) = some f ↔ Leads t stops f := by
  have hleads : Leads t stops f ↔ f ∈ t.matching stops ∧ (∀ a ∈ t.matching stops, t.Before f a) ∧
      ∀ a ∈ t.matching stops, t.Before a f → (t.matching stops).idxOf f ≤ (t.matching stops).idxOf a :=
    ⟨fun ⟨hmem, hfirst, hearlier⟩ => ⟨hmem, hfirst, hearlier⟩, fun ⟨hmem, hfirst, hearlier⟩ => ⟨hmem, hfirst, hearlier⟩⟩
  rw [hleads]
  cases t with
  | pickup =>
    have hpick : DatedStop.pickup.pick (DatedStop.pickup.matching stops) =
        (DatedStop.pickup.matching stops).argmin Stop.sequence :=
      foldl_pick (t := .pickup) (r := fun b a => b.sequence < a.sequence) (fun b a => by simp [DatedStop.overtakes]) _
    rw [hpick]
    exact List.argmin_eq_some_iff
  | delivery =>
    have hpick : DatedStop.delivery.pick (DatedStop.delivery.matching stops) =
        (DatedStop.delivery.matching stops).argmax Stop.sequence :=
      foldl_pick (t := .delivery) (r := fun b a => a.sequence < b.sequence) (fun b a => by simp [DatedStop.overtakes]) _
    rw [hpick]
    exact List.argmax_eq_some_iff

lemma mem_matching : s ∈ t.matching stops ↔ s ∈ stops ∧ s.stopType = t.stopType ∧ s.stopPurpose = .standard := by
  simp [DatedStop.matching]

lemma accepts_iff : range.accepts s = true ↔
    s.stopType = range.stopType.stopType ∧ ∃ d, s.appointmentDatetime = some d ∧ range.contains d = true := by
  cases happointment : s.appointmentDatetime <;> simp [StopFilter.accepts, happointment]

lemma pickStopDate_iff : (∃ d, pickStopDate stops range.stopType = some d ∧ range.contains d = true) ↔
    ∃ f, Leads range.stopType stops f ∧ range.accepts f = true := by
  constructor
  · rintro ⟨d, hd, hrange⟩
    obtain ⟨f, hf, hdate⟩ := Option.bind_eq_some_iff.mp hd
    have hleads := pick_iff.mp hf
    exact ⟨f, hleads, accepts_iff.mpr ⟨(mem_matching.mp hleads.mem).2.1, d, hdate, hrange⟩⟩
  · rintro ⟨f, hleads, haccepts⟩
    obtain ⟨_, d, hdate, hrange⟩ := accepts_iff.mp haccepts
    exact ⟨d, Option.bind_eq_some_iff.mpr ⟨f, pick_iff.mpr hleads, hdate⟩, hrange⟩

def DatedStop.filters (t : DatedStop) (fromText toText : Option String) : LoadSearchFilters :=
  match t with
  | .pickup => { pickupFrom := fromText, pickupTo := toText }
  | .delivery => { deliveryFrom := fromText, deliveryTo := toText }

lemma buildWhere_range (hrange : rangeFilter toDate t fromText toText = some (some range))
    (hwhere : buildWhere toDate like organizationId (t.filters fromText toText) = some p)
    (horg : l.organizationId = organizationId) : p l = range.passes l.stops := by
  have hnone (u : DatedStop) : rangeFilter toDate u none none = some none := if_pos ⟨rfl, rfl⟩
  have hfilters : stopFilters toDate (t.filters fromText toText) = some [range] := by
    cases t with
    | pickup => simp [stopFilters, DatedStop.filters, hrange, hnone]
    | delivery => simp [stopFilters, DatedStop.filters, hrange, hnone]
  rw [buildWhere, hfilters] at hwhere
  obtain rfl := Option.some.inj hwhere
  cases t with
  | pickup => simp [DatedStop.filters, statusPasses, horg]
  | delivery => simp [DatedStop.filters, statusPasses, horg]

lemma rangeFilter_type (hrange : rangeFilter toDate t fromText toText = some (some range)) : range.stopType = t := by
  rw [rangeFilter] at hrange
  split at hrange
  · cases hrange
  · simp only [Option.bind_eq_bind, Option.bind_eq_some_iff, Option.some.injEq] at hrange
    obtain ⟨_, _, _, _, rfl⟩ := hrange
    rfl

theorem date_filter_iff (hrange : rangeFilter toDate t fromText toText = some (some range))
    (hwhere : buildWhere toDate like organizationId (t.filters fromText toText) = some p)
    (horg : l.organizationId = organizationId) :
    (p l = true ↔ ∃ d, pickStopDate l.stops t = some d ∧ range.contains d = true) ↔
      ((∃ s ∈ l.stops, range.accepts s = true) → ∃ f, Leads t l.stops f ∧ range.accepts f = true) := by
  obtain rfl := rangeFilter_type hrange
  rw [buildWhere_range hrange hwhere horg, pickStopDate_iff, StopFilter.passes, List.any_eq_true]
  refine ⟨fun hagree => hagree.mp, fun hlead => ⟨hlead, ?_⟩⟩
  rintro ⟨f, hleads, haccepts⟩
  exact ⟨f, (mem_matching.mp hleads.mem).1, haccepts⟩

end Dates

namespace Sample

def dateMs (text : String) : Option Instant :=
  (dateOnly text.toList).bind (fun parts => if parts.Valid then some parts.ms else none)

def ignoringCase (text q : String) : Bool :=
  decide ((q.toList.map Char.toLower) <:+: (text.toList.map Char.toLower))

def datedStop (sequence : ℤ) (stopType : StopType) (stopPurpose : StopPurpose) (text : String) : Stop where
  id := 10 * sequence.toNat
  sequence
  stopType
  stopPurpose
  city := "Dallas"
  state := "TX"
  zip := "75201"
  appointmentDatetime := dateMs text

def foundLoad (id : Uuid) (createdAt : Instant) (stops : List Stop) : SearchLoad where
  load := {
    id, loadNumber := "LOAD-" ++ toString id, customerId := 7, bookingSource := .direct, quoteId := none
    status := .dispatched, equipmentType := .dryVan, customerRate := 245000, rateSource := .manual
    rateAgreementId := none, createdByUserId := 1 }
  organizationId := 1
  createdAt
  customerName := "Acme"
  stops

def inMarch : StopFilter := ⟨.pickup, dateMs "2026-03-01", dateMs "2026-03-31"⟩

def march (l : SearchLoad) : Option Bool :=
  (buildWhere dateMs ignoringCase 1 (DatedStop.pickup.filters (some "2026-03-01") (some "2026-03-31"))).map (fun p => p l)

def onePickup : SearchLoad := foundLoad 1 0 [datedStop 1 .pickup .standard "2026-03-10",
  datedStop 2 .delivery .standard "2026-04-02"]

def laterPickup : SearchLoad := foundLoad 1 0 [datedStop 1 .pickup .standard "2026-02-10",
  datedStop 2 .pickup .standard "2026-03-10"]

def returned : SearchLoad := foundLoad 1 0 [datedStop 1 .pickup .standard "2026-02-10",
  datedStop 2 .delivery .standard "2026-02-12", datedStop 3 .pickup .returnLeg "2026-03-10"]

end Sample

open Sample

theorem date_filter_sample : march onePickup = some true ∧
    ∃ d, pickStopDate onePickup.stops .pickup = some d ∧ inMarch.contains d = true := by
  have hrange : rangeFilter dateMs .pickup (some "2026-03-01") (some "2026-03-31") = some (some inMarch) := by
    decide +kernel
  obtain ⟨p, hp⟩ : ∃ p, buildWhere dateMs ignoringCase 1 (DatedStop.pickup.filters (some "2026-03-01") (some "2026-03-31")) =
      some p := Option.isSome_iff_exists.mp (by decide +kernel)
  have hlead : Leads .pickup onePickup.stops (datedStop 1 .pickup .standard "2026-03-10") := pick_iff.mp (by decide +kernel)
  have hagree := (date_filter_iff hrange hp (l := onePickup) rfl).mpr (fun _ => ⟨_, hlead, by decide +kernel⟩)
  have hshown : ∃ d, pickStopDate onePickup.stops .pickup = some d ∧ inMarch.contains d = true :=
    ⟨1773100800000, by decide +kernel⟩
  exact ⟨by rw [march, hp, Option.map_some, hagree.mpr hshown], hshown⟩

theorem other_stops_found : march laterPickup = some true ∧ march returned = some true ∧
    pickStopDate laterPickup.stops .pickup = dateMs "2026-02-10" ∧ pickStopDate returned.stops .pickup = dateMs "2026-02-10" ∧
    (dateMs "2026-02-10").any inMarch.contains = false := by
  decide +kernel

end Truckmaster.QuoteLoad
