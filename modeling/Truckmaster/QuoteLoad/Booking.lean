import Truckmaster.QuoteLoad.StatusDerivation
import Truckmaster.QuoteLoad.Inputs

namespace Truckmaster.QuoteLoad

open Common Fallible Tables

inductive QuoteStatus
  | open | won | lost
  deriving DecidableEq, Repr

inductive QuoteStopType
  | pickup | delivery
  deriving DecidableEq, Repr

def QuoteStopType.toStopType : QuoteStopType → StopType
  | .pickup => .pickup
  | .delivery => .delivery

structure QuoteStop where
  id : Uuid
  sequence : ℤ
  stopType : QuoteStopType
  addressCity : String
  addressState : String
  addressZip : String
  appointmentNotes : Option String := none
  deriving DecidableEq, Repr

structure Quote where
  id : Uuid
  quoteNumber : String
  customerId : Uuid
  equipmentType : EquipmentType
  customerRate : Cents
  rateSource : RateSource
  rateAgreementId : Option Uuid
  status : QuoteStatus
  lossReason : Option String := none
  expirationDate : Instant
  resultingLoadId : Option Uuid := none
  createdByUserId : Uuid
  deriving DecidableEq, Repr

structure QuoteRows where
  quote : Quote
  stops : List QuoteStop
  audit : List AuditEvent

structure QuoteStopInput where
  sequence : ℤ
  stopType : QuoteStopType
  addressCity : String
  addressState : String
  addressZip : String
  appointmentNotes : Option String := none
  sequence_pos : 1 ≤ sequence := by decide
  filled : 1 ≤ addressCity.length ∧ 2 ≤ addressState.length ∧ 1 ≤ addressZip.length := by decide

structure CreateQuoteInput where
  customerId : Uuid
  stops : List QuoteStopInput
  equipmentType : EquipmentType
  customerRate : DecimalInput
  expirationDate : Option Instant := none
  nonempty : stops ≠ [] := by simp

structure ConvertQuoteInput where
  confirmedCustomerRate : DecimalInput
  confirmInactiveCustomerOverride : Bool := false

structure CreateLoadInput where
  customerId : Uuid
  stops : List LoadStopInput
  equipmentType : EquipmentType
  customerRate : DecimalInput
  customerPoNumber : Option String := none
  bolNumber : Option String := none
  pickupNumber : Option String := none
  customerReferenceNumber : Option String := none
  confirmInactiveCustomerOverride : Bool := false
  nonempty : stops ≠ [] := by simp

namespace EntitlementService

def resolveEffectiveStatus (r : Reference) (now : Instant) : SubscriptionStatus :=
  match r.subscriptionStatus with
  | .cancelled => .cancelled
  | .expired => .expired
  | .trial => if r.trialEndsAt.any (fun ends => decide (ends ≤ now)) then .expired else .trial
  | .active => .active

def assertCanCreateOperationalRecord (r : Reference) (now : Instant) : Except AppError Unit :=
  ensure (resolveEffectiveStatus r now ≠ .expired)
    (.businessRule "Your trial has expired. Convert to a paid subscription to create new operational records.")

end EntitlementService

namespace OrganizationSequenceService

def format (tag : String) (value : ℕ) : String :=
  let digits := (Nat.repr value).toList
  tag ++ "-" ++ String.ofList (List.replicate (6 - digits.length) '0' ++ digits)

end OrganizationSequenceService

namespace RateAgreementMatchingService

/-- Lower case as far as ASCII letters can result: U+0130 and U+212A are the only others that give one. -/
def toLowerCase (c : Char) : List Char :=
  if c = Char.ofNat 0x130 then ['i', Char.ofNat 0x307]
  else if c = Char.ofNat 0x212A then ['k']
  else [c.toLower]

def isWordChar (c : Char) : Bool := ('a' ≤ c && c ≤ 'z') || ('0' ≤ c && c ≤ '9')

def normalize (value : String) : List (List Char) :=
  ((value.toList.flatMap toLowerCase).splitOnP (fun c => !isWordChar c)).filter (fun w => w ≠ [])

def dayMillis : ℤ := 86400000

structure Lane where
  originCity : String
  originState : String
  destinationCity : String
  destinationState : String

def findMatch (r : Reference) (q : Request) (o : RowOrder) (customerId : Uuid) (lane : Lane)
    (equipmentType : EquipmentType) : Option CustomerRateAgreement :=
  let today := q.now - q.now % dayMillis
  let candidates := findMany o (fun a => a.customerId == customerId && a.equipmentType == equipmentType &&
    decide (a.effectiveDate ≤ today) && a.expirationDate.all (fun e => decide (today ≤ e))) r.rateAgreements
  candidates.find? (fun a => normalize a.originCity == normalize lane.originCity &&
    normalize a.originState == normalize lane.originState &&
    normalize a.destinationCity == normalize lane.destinationCity &&
    normalize a.destinationState == normalize lane.destinationState)

def resolveRate (r : Reference) (q : Request) (o : RowOrder) (customerId : Uuid) (lane : Lane)
    (equipmentType : EquipmentType) (submittedRate : DecimalInput) : Option Uuid × RateSource :=
  match findMatch r q o customerId lane equipmentType with
  | none => (none, .manual)
  | some m => (some m.id, if m.rate = submittedRate.cents then .rateAgreement else .manualOverride)

end RateAgreementMatchingService

def firstStop {α : Type} (ofType : α → Bool) (r : α → α → Prop) [DecidableRel r] (stops : List α) : Option α :=
  ((stops.filter ofType).insertionSort r).head?

lemma firstStop_some {α : Type} {ofType : α → Bool} {r : α → α → Prop} [DecidableRel r] {stops : List α} {s : α}
    (h : firstStop ofType r stops = some s) : s ∈ stops ∧ ofType s = true := by
  have hmem : s ∈ (stops.filter ofType).insertionSort r := List.mem_of_mem_head? h
  rw [(List.perm_insertionSort r _).mem_iff, List.mem_filter] at hmem
  exact hmem

namespace LoadService

def assertCustomerAllowsBooking (q : Request) (customer : Customer) (confirmInactiveOverride : Bool) :
    Except AppError (List AuditEvent) := do
  ensure (customer.status ≠ .blocked) (.businessRule "Customer is Blocked — no new Loads can be created.")
  ensure (customer.status ≠ .prospect)
    (.businessRule "Customer must be Active before a Load can be Booked.")
  ensure (customer.status = .inactive → confirmInactiveOverride)
    (.businessRule "Customer is Inactive — booking requires an explicit override confirmation.")
  pure (if customer.status = .inactive then
      [⟨"Inactive Customer Booking Override", "Customer", customer.id, some q.actingUserId, .human, none⟩]
    else [])

def createOriginalCustomerLinehaulCharge (r : Reference) (q : Request) (o : RowOrder) (id : Uuid)
    (rows : LoadRows) : LoadRows :=
  match r.findType o "LINEHAUL" r.chargeTypes with
  | none => rows
  | some linehaulType =>
    { rows with
      chargeLineItems := rows.chargeLineItems ++ [{
        id, side := .customer, chargeTypeId := linehaulType.id, unitRate := rows.load.customerRate,
        amount := rows.load.customerRate, source := .original, createdByUserId := q.actingUserId }] }

structure CreateFromBookingParams where
  customerId : Uuid
  bookingSource : BookingSource
  quoteId : Option Uuid
  equipmentType : EquipmentType
  customerRate : DecimalInput
  rateSource : RateSource
  rateAgreementId : Option Uuid
  stops : List (Uuid → Stop)
  customerPoNumber : Option String := none
  bolNumber : Option String := none
  pickupNumber : Option String := none
  customerReferenceNumber : Option String := none
  auditAction : String

def bookedLoad (r : Reference) (q : Request) (params : CreateFromBookingParams) : Load where
  id := q.uuid 0
  loadNumber := OrganizationSequenceService.format "LOAD" (r.lastLoadNumber + 1)
  customerId := params.customerId
  bookingSource := params.bookingSource
  quoteId := params.quoteId
  status := .booked
  equipmentType := params.equipmentType
  customerRate := params.customerRate.cents
  rateSource := params.rateSource
  rateAgreementId := params.rateAgreementId
  customerPoNumber := params.customerPoNumber
  bolNumber := params.bolNumber
  pickupNumber := params.pickupNumber
  customerReferenceNumber := params.customerReferenceNumber
  createdByUserId := q.actingUserId

def createFromBooking (r : Reference) (q : Request) (params : CreateFromBookingParams)
    (audit : List AuditEvent) : Except AppError LoadRows := do
  EntitlementService.assertCanCreateOperationalRecord r q.now
  ensure (params.customerRate.cents ≤ decimalMax) (.database "Numeric field overflow.")
  let created : LoadRows := { load := bookedLoad r q params, stops := Table.empty, audit }
  let rows ← created.createStops (params.stops.mapIdx (fun i stop => stop (q.uuid (i + 2))))
  pure ((createOriginalCustomerLinehaulCharge r q (q.order 1) (q.uuid 1) rows).recordLoad q params.auditAction)

def isPickup (s : LoadStopInput) : Bool := s.stopType == .pickup
def isDelivery (s : LoadStopInput) : Bool := s.stopType == .delivery

def createDirect (r : Reference) (q : Request) (dto : CreateLoadInput) : Except AppError LoadRows := do
  let firstPickup ← require (firstStop isPickup (fun a b => a.sequence ≤ b.sequence) dto.stops)
    (.businessRule "At least one pickup stop and one delivery stop are required.")
  let lastDelivery ← require (firstStop isDelivery (fun a b => b.sequence ≤ a.sequence) dto.stops)
    (.businessRule "At least one pickup stop and one delivery stop are required.")
  let customer ← require (r.customer dto.customerId) (.notFound "Customer not found.")
  let audit ← assertCustomerAllowsBooking q customer dto.confirmInactiveCustomerOverride
  let rate := RateAgreementMatchingService.resolveRate r q (q.order 0) dto.customerId
    ⟨firstPickup.city, firstPickup.state, lastDelivery.city, lastDelivery.state⟩ dto.equipmentType dto.customerRate
  createFromBooking r q
    { customerId := dto.customerId
      bookingSource := .direct
      quoteId := none
      equipmentType := dto.equipmentType
      customerRate := dto.customerRate
      rateSource := rate.2
      rateAgreementId := rate.1
      stops := dto.stops.map (fun s id =>
        s.newStop id s.sequence s.stopType .standard s.customerLocationId)
      customerPoNumber := dto.customerPoNumber
      bolNumber := dto.bolNumber
      pickupNumber := dto.pickupNumber
      customerReferenceNumber := dto.customerReferenceNumber
      auditAction := "Load Booked Directly (No Quote)" } audit

end LoadService

namespace QuoteService

def defaultExpirationDate (now : Instant) : Instant := now + 7 * RateAgreementMatchingService.dayMillis

def isPickup (s : QuoteStopInput) : Bool := s.stopType == .pickup
def isDelivery (s : QuoteStopInput) : Bool := s.stopType == .delivery

def create (r : Reference) (q : Request) (dto : CreateQuoteInput) : Except AppError QuoteRows := do
  let firstPickup ← require (firstStop isPickup (fun a b => a.sequence ≤ b.sequence) dto.stops)
    (.businessRule "At least one pickup stop and one delivery stop are required.")
  let lastDelivery ← require (firstStop isDelivery (fun a b => b.sequence ≤ a.sequence) dto.stops)
    (.businessRule "At least one pickup stop and one delivery stop are required.")
  let customer ← require (r.customer dto.customerId) (.notFound "Customer not found.")
  ensure (customer.status ≠ .blocked) (.businessRule "Customer is Blocked — no new Quotes can be created.")
  let rate := RateAgreementMatchingService.resolveRate r q (q.order 0) dto.customerId
    ⟨firstPickup.addressCity, firstPickup.addressState, lastDelivery.addressCity, lastDelivery.addressState⟩
    dto.equipmentType dto.customerRate
  EntitlementService.assertCanCreateOperationalRecord r q.now
  ensure (dto.customerRate.cents ≤ decimalMax) (.database "Numeric field overflow.")
  ensure (∀ s ∈ dto.stops, s.sequence ≤ int4Max) (.database "Value out of range for the type.")
  let quote : Quote :=
    { id := q.uuid 0
      quoteNumber := OrganizationSequenceService.format "QUOTE" (r.lastQuoteNumber + 1)
      customerId := dto.customerId
      equipmentType := dto.equipmentType
      customerRate := dto.customerRate.cents
      rateSource := rate.2
      rateAgreementId := rate.1
      status := .open
      expirationDate := dateOf (dto.expirationDate.getD (defaultExpirationDate q.now))
      createdByUserId := q.actingUserId }
  pure
    { quote
      stops := dto.stops.mapIdx (fun i s =>
        ⟨q.uuid (i + 1), s.sequence, s.stopType, s.addressCity, s.addressState, s.addressZip, s.appointmentNotes⟩)
      audit := [⟨"Quote Created", "Quote", quote.id, some q.actingUserId, .human, none⟩] }

def bookedStop (s : QuoteStop) (id : Uuid) : Stop :=
  { id
    sequence := s.sequence
    stopType := s.stopType.toStopType
    city := s.addressCity
    state := s.addressState
    zip := s.addressZip
    notes := s.appointmentNotes }

def convert (r : Reference) (q : Request) (found : Option QuoteRows) (dto : ConvertQuoteInput) :
    Except AppError (QuoteRows × LoadRows) := do
  let rows ← require found (.notFound "Quote not found.")
  ensure (rows.quote.status = .open) (.invalidTransition
    "Only an OPEN Quote can be converted to a Booked Load — an already Won or Lost Quote cannot be reopened or reconverted.")
  let customer ← require (r.customer rows.quote.customerId) (.notFound "Customer not found.")
  let audit ← LoadService.assertCustomerAllowsBooking q customer dto.confirmInactiveCustomerOverride
  let load ← LoadService.createFromBooking r q
    { customerId := rows.quote.customerId
      bookingSource := .quote
      quoteId := some rows.quote.id
      equipmentType := rows.quote.equipmentType
      customerRate := dto.confirmedCustomerRate
      rateSource := rows.quote.rateSource
      rateAgreementId := rows.quote.rateAgreementId
      stops := (findMany (q.order 2) (fun _ => true) rows.stops).map bookedStop
      auditAction := "Load Booked From Quote" } audit
  let won : AuditEvent := ⟨"Quote Won — Converted to Load", "Quote", rows.quote.id, none, .system, none⟩
  let rateChanged : List AuditEvent :=
    if rows.quote.customerRate = dto.confirmedCustomerRate.cents then []
    else [⟨"Rate Changed During Conversion", "Quote", rows.quote.id, some q.actingUserId, .human, none⟩]
  pure
    ({ rows with
       quote := { rows.quote with status := .won, resultingLoadId := some load.load.id }
       audit := rows.audit ++ won :: rateChanged }, load)

end QuoteService

open LoadStatusDerivationService

variable {r : Reference} {q : Request} {rows : LoadRows} {sequences : List ℤ}

inductive Booked : List ℤ → LoadRows → Prop
  | direct {r q dto rows} (h : LoadService.createDirect r q dto = .ok rows) :
    Booked (dto.stops.map (·.sequence)) rows
  | converted {r q dto quote r' q' dto' quote' rows} (h : QuoteService.create r q dto = .ok quote)
    (h' : QuoteService.convert r' q' (some quote) dto' = .ok (quote', rows)) :
    Booked (dto.stops.map (·.sequence)) rows

lemma map_mapIdx_const {α β γ : Type} (l : List α) (f : ℕ → α → β) (g : β → γ) (k : α → γ)
    (h : ∀ i a, g (f i a) = k a) : (l.mapIdx f).map g = l.map k := by
  apply List.ext_getElem
  · simp
  · intro i _ _
    simp [h]

lemma createFromBooking_ok {params : LoadService.CreateFromBookingParams} {audit : List AuditEvent}
    (h : LoadService.createFromBooking r q params audit = .ok rows) :
    rows.load = LoadService.bookedLoad r q params ∧
      rows.stops.rows = params.stops.mapIdx (fun i stop => stop (q.uuid (i + 2))) := by
  simp only [LoadService.createFromBooking, bind_eq_ok, ensure_eq_ok, pure_eq_ok] at h
  obtain ⟨_, _, _, _, created, hcreated, rfl⟩ := h
  obtain ⟨hload, hrows⟩ := LoadRows.createStops_ok hcreated
  rw [LoadRows.recordLoad_load, LoadRows.recordLoad_stops, LoadService.createOriginalCustomerLinehaulCharge]
  split
  · exact ⟨hload, hrows⟩
  · exact ⟨hload, hrows⟩

lemma createFromBooking_progress {params : LoadService.CreateFromBookingParams} {audit : List AuditEvent}
    (h : LoadService.createFromBooking r q params audit = .ok rows) {α : Type} {asked : List α}
    {row : α → Uuid → Stop} {k : α → StopProgressInput} (hparams : params.stops = asked.map row)
    (hk : ∀ a id, (row a id).progress = k a) : rows.progress = asked.map k := by
  rw [LoadRows.progress, (createFromBooking_ok h).2, hparams]
  apply List.ext_getElem
  · simp
  · intro i _ _
    simp [hk]

structure Fresh (sequences : List ℤ) (rows : LoadRows) : Prop where
  status : rows.load.status = .booked
  stops : ∀ s ∈ rows.progress, s.stopPurpose = .standard ∧ s.status = .pending
  pickup : ∃ s ∈ rows.progress, s.stopType = .pickup
  delivery : ∃ s ∈ rows.progress, s.stopType = .delivery
  sequences : (rows.progress.map StopProgressInput.sequence).Perm sequences

lemma fresh_of_stops (asked : List (StopType × ℤ)) (hstatus : rows.load.status = .booked)
    (hperm : rows.progress.Perm (asked.map (fun a => ⟨a.1, .standard, .pending, a.2⟩)))
    (hpickup : StopType.pickup ∈ asked.map Prod.fst) (hdelivery : StopType.delivery ∈ asked.map Prod.fst) :
    Fresh (asked.map Prod.snd) rows := by
  have hmem (t : StopType) (ht : t ∈ asked.map Prod.fst) : ∃ s ∈ rows.progress, s.stopType = t := by
    obtain ⟨a, ha, rfl⟩ := List.mem_map.mp ht
    exact ⟨_, hperm.mem_iff.mpr (List.mem_map_of_mem ha), rfl⟩
  refine ⟨hstatus, fun s hs => ?_, hmem _ hpickup, hmem _ hdelivery, ?_⟩
  · obtain ⟨a, _, rfl⟩ := List.mem_map.mp (hperm.mem_iff.mp hs)
    exact ⟨rfl, rfl⟩
  · have hmap := hperm.map StopProgressInput.sequence
    rwa [List.map_map] at hmap

lemma createDirect_ok {dto : CreateLoadInput} (h : LoadService.createDirect r q dto = .ok rows) :
    Fresh (dto.stops.map (·.sequence)) rows := by
  simp only [LoadService.createDirect, bind_eq_ok, require_eq_ok] at h
  obtain ⟨firstPickup, hpickup, lastDelivery, hdelivery, _, _, _, _, hbooking⟩ := h
  have hstops : rows.progress = (dto.stops.map (fun s => (s.stopType, s.sequence))).map
      (fun a => ⟨a.1, .standard, .pending, a.2⟩) := by
    rw [List.map_map]
    exact createFromBooking_progress hbooking rfl (fun _ _ => rfl)
  obtain ⟨hpmem, hptype⟩ := firstStop_some hpickup
  obtain ⟨hdmem, hdtype⟩ := firstStop_some hdelivery
  have hfresh := fresh_of_stops (dto.stops.map (fun s => (s.stopType, s.sequence)))
    (by rw [(createFromBooking_ok hbooking).1]; rfl) (by rw [hstops])
    (by simpa using ⟨firstPickup, hpmem, by simpa [LoadService.isPickup] using hptype⟩)
    (by simpa using ⟨lastDelivery, hdmem, by simpa [LoadService.isDelivery] using hdtype⟩)
  rwa [List.map_map] at hfresh

lemma quoteCreate_ok {dto : CreateQuoteInput} {quote : QuoteRows} (h : QuoteService.create r q dto = .ok quote) :
    quote.stops.map (fun s => (s.stopType.toStopType, s.sequence)) =
      dto.stops.map (fun s => (s.stopType.toStopType, s.sequence)) ∧
    (∃ s ∈ dto.stops, s.stopType = .pickup) ∧ ∃ s ∈ dto.stops, s.stopType = .delivery := by
  simp only [QuoteService.create, bind_eq_ok, require_eq_ok, ensure_eq_ok, pure_eq_ok] at h
  obtain ⟨firstPickup, hpickup, lastDelivery, hdelivery, _, _, _, _, _, _, _, _, _, _, rfl⟩ := h
  obtain ⟨hpmem, hptype⟩ := firstStop_some hpickup
  obtain ⟨hdmem, hdtype⟩ := firstStop_some hdelivery
  refine ⟨map_mapIdx_const _ _ _ _ (fun _ _ => rfl), ⟨firstPickup, hpmem, ?_⟩, lastDelivery, hdmem, ?_⟩
  · simpa [QuoteService.isPickup] using hptype
  · simpa [QuoteService.isDelivery] using hdtype

lemma convert_ok {quote quote' : QuoteRows} {dto : ConvertQuoteInput}
    (h : QuoteService.convert r q (some quote) dto = .ok (quote', rows)) :
    rows.load.status = .booked ∧ rows.progress.Perm
      ((quote.stops.map (fun s => (s.stopType.toStopType, s.sequence))).map
        (fun a => ⟨a.1, .standard, .pending, a.2⟩)) := by
  simp only [QuoteService.convert, bind_eq_ok, require_eq_ok, ensure_eq_ok, pure_eq_ok, Prod.mk.injEq] at h
  obtain ⟨_, hquote, _, _, _, _, _, _, load, hbooking, _, rfl⟩ := h
  obtain rfl := Option.some.inj hquote
  refine ⟨by rw [(createFromBooking_ok hbooking).1]; rfl, ?_⟩
  have hperm := findMany_perm (q.order 2) (fun _ => true) quote.stops
  rw [List.filter_true] at hperm
  have hstops : load.progress = (findMany (q.order 2) (fun _ => true) quote.stops).map
      (fun s => ⟨s.stopType.toStopType, .standard, .pending, s.sequence⟩) :=
    createFromBooking_progress hbooking rfl (fun _ _ => rfl)
  rw [hstops, List.map_map]
  exact hperm.map _

lemma Booked.fresh (h : Booked sequences rows) : Fresh sequences rows := by
  cases h with
  | direct h => exact createDirect_ok h
  | @converted _ _ dto _ _ _ _ _ _ h h' =>
    obtain ⟨hstops, ⟨p, hp, hptype⟩, d, hd, hdtype⟩ := quoteCreate_ok h
    obtain ⟨hstatus, hperm⟩ := convert_ok h'
    rw [hstops] at hperm
    have hfresh := fresh_of_stops _ hstatus hperm
      (by simpa using ⟨p, hp, by rw [hptype]; rfl⟩) (by simpa using ⟨d, hd, by rw [hdtype]; rfl⟩)
    rwa [List.map_map] at hfresh

end Truckmaster.QuoteLoad
