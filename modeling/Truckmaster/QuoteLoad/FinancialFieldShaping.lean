import Truckmaster.QuoteLoad.Entities

/-! What a viewer without full financial visibility can still tell apart in a shaped record. -/

namespace Truckmaster.QuoteLoad

open Common Fallible Tables

structure SourcingAttemptRow (α : Type) where
  carrierRate : Option Cents
  rest : α

structure ChargeRow (γ : Type) where
  side : ChargeLineItemSide
  amount : Option Cents
  unitRate : Cents
  quantity : Cents
  rest : γ

/-- The fields the shaping knows, with the others as `rest`. A field that a record may lack is absent or
has a value, and the value may be null. -/
structure FinancialRecord (ρ α γ : Type) where
  createdByUserId : Uuid
  customerRate : Option Cents
  rateSource : Option RateSource
  rateAgreementId : Option Uuid
  carrierRate : Option (Option Cents)
  customerChargesTotal : Option (Option Cents)
  sourcingAttempts : Option (List (SourcingAttemptRow α))
  chargeLineItems : Option (List (ChargeRow γ))
  rest : ρ

variable {ρ α γ : Type} {record record' : FinancialRecord ρ α γ} {actingRoles : List MembershipRoleName}
  {actingUserId : Uuid}

def fullVisibilityRoles : List MembershipRoleName := [.admin, .operationsManager, .accounting]

def hasFullVisibility (actingRoles : List MembershipRoleName) : Bool :=
  actingRoles.any (fun role => decide (role ∈ fullVisibilityRoles))

def isOwnDeal (record : FinancialRecord ρ α γ) (actingRoles : List MembershipRoleName) (actingUserId : Uuid) : Bool :=
  decide (MembershipRoleName.salesBooking ∈ actingRoles) && record.createdByUserId == actingUserId

def SourcingAttemptRow.withoutRate (a : SourcingAttemptRow α) : SourcingAttemptRow α := { a with carrierRate := none }

def ChargeRow.shaped (visible : ChargeLineItemSide → Bool) (c : ChargeRow γ) : ChargeRow γ :=
  if visible c.side then c else { c with amount := none }

def visibleSide (showCustomerSide showCarrierSide : Bool) : ChargeLineItemSide → Bool
  | .customer => showCustomerSide
  | .carrier => showCarrierSide

def shapeFinancialFields (record : FinancialRecord ρ α γ) (actingRoles : List MembershipRoleName)
    (actingUserId : Uuid) : FinancialRecord ρ α γ :=
  let fullVisibility := hasFullVisibility actingRoles
  let showCustomerSide := fullVisibility || isOwnDeal record actingRoles actingUserId
  let showCarrierSide := fullVisibility
  if showCustomerSide && showCarrierSide then record
  else
    { record with
      customerRate := if showCustomerSide then record.customerRate else none
      rateSource := if showCustomerSide then record.rateSource else none
      rateAgreementId := if showCustomerSide then record.rateAgreementId else none
      carrierRate := if showCarrierSide then record.carrierRate else record.carrierRate.map (fun _ => none)
      customerChargesTotal :=
        if showCustomerSide then record.customerChargesTotal else record.customerChargesTotal.map (fun _ => none)
      sourcingAttempts :=
        if showCarrierSide then record.sourcingAttempts
        else record.sourcingAttempts.map (List.map SourcingAttemptRow.withoutRate)
      chargeLineItems := record.chargeLineItems.map
        (List.map (ChargeRow.shaped (visibleSide showCustomerSide showCarrierSide))) }

namespace LoadService

def otherColumns (load : Load) : Load :=
  { load with customerRate := 0, rateSource := .manual, rateAgreementId := none, carrierRate := none }

def chargeRow (c : ChargeLineItem) : ChargeRow ChargeLineItem where
  side := c.side
  amount := some c.amount
  unitRate := c.unitRate
  quantity := c.quantity
  rest := { c with amount := 0, unitRate := 0, quantity := 0 }

def attemptRow (a : CarrierSourcingAttempt) : SourcingAttemptRow CarrierSourcingAttempt where
  carrierRate := a.carrierRate
  rest := { a with carrierRate := none }

structure LoadDetails where
  load : Load
  stops : List (Stop × Bool)
  dispatchRecord : Option DispatchRecord
  checkCalls : List CheckCall

/-- `podStopIds` are the delivery stops with a clean current POD. -/
def detailsRecord (podStopIds : List Uuid) (rows : LoadRows) :
    FinancialRecord LoadDetails CarrierSourcingAttempt ChargeLineItem :=
  let hasPod (s : Stop) : Bool := s.stopType == .delivery && decide (s.id ∈ podStopIds)
  { createdByUserId := rows.load.createdByUserId
    customerRate := some rows.load.customerRate
    rateSource := some rows.load.rateSource
    rateAgreementId := rows.load.rateAgreementId
    carrierRate := some rows.load.carrierRate
    customerChargesTotal := none
    sourcingAttempts := some (rows.sourcingAttempts.map attemptRow)
    chargeLineItems := some (rows.chargeLineItems.map chargeRow)
    rest := ⟨otherColumns rows.load, rows.stops.rows.map (fun s => (s, hasPod s)), rows.dispatchRecord,
      rows.checkCalls⟩ }

def findById (found : Option LoadRows) (podStopIds : List Uuid) (actingUserId : Uuid)
    (actingRoles : List MembershipRoleName) :
    Except AppError (FinancialRecord LoadDetails CarrierSourcingAttempt ChargeLineItem) := do
  let rows ← LoadRows.found found
  pure (shapeFinancialFields (detailsRecord podStopIds rows) actingRoles actingUserId)

def readyRecord (rows : LoadRows) : FinancialRecord Load Unit ChargeLineItem where
  createdByUserId := rows.load.createdByUserId
  customerRate := some rows.load.customerRate
  rateSource := some rows.load.rateSource
  rateAgreementId := rows.load.rateAgreementId
  carrierRate := some rows.load.carrierRate
  customerChargesTotal := some (some
    ((rows.chargeLineItems.filter (fun c => c.side == .customer)).map ChargeLineItem.amount).sum)
  sourcingAttempts := none
  chargeLineItems := some (rows.chargeLineItems.map chargeRow)
  rest := otherColumns rows.load

def getReadyToInvoice (o : RowOrder) (stored : List LoadRows) (customerId : Option Uuid) (actingUserId : Uuid)
    (actingRoles : List MembershipRoleName) : List (FinancialRecord Load Unit ChargeLineItem) :=
  let found := findMany o (fun rows => decide (rows.load.status ∈ [LoadStatus.delivered, .closed]) &&
    !rows.load.invoiced && customerId.all (fun c => c == rows.load.customerId)) stored
  found.map (fun rows => shapeFinancialFields (readyRecord rows) actingRoles actingUserId)

end LoadService

def ChargeRow.erased (side : ChargeLineItemSide) (c : ChargeRow γ) : ChargeRow γ :=
  if c.side = side then { c with amount := none, unitRate := 0, quantity := 0 } else c

def eraseCarrierSide (record : FinancialRecord ρ α γ) : FinancialRecord ρ α γ :=
  { record with
    carrierRate := record.carrierRate.map (fun _ => none)
    sourcingAttempts := record.sourcingAttempts.map (List.map SourcingAttemptRow.withoutRate)
    chargeLineItems := record.chargeLineItems.map (List.map (ChargeRow.erased .carrier)) }

def eraseCustomerSide (record : FinancialRecord ρ α γ) : FinancialRecord ρ α γ :=
  { record with
    customerRate := none
    customerChargesTotal := record.customerChargesTotal.map (fun _ => none)
    chargeLineItems := record.chargeLineItems.map (List.map (ChargeRow.erased .customer)) }

def unitsOf (side : ChargeLineItemSide) (charges : List (ChargeRow γ)) : List (Cents × Cents) :=
  (charges.filter (fun c => c.side == side)).map (fun c => (c.unitRate, c.quantity))

def FinancialRecord.units (side : ChargeLineItemSide) (record : FinancialRecord ρ α γ) : List (Cents × Cents) :=
  unitsOf side (record.chargeLineItems.getD [])

section Charges

variable {side : ChargeLineItemSide} {visible : ChargeLineItemSide → Bool} {c c' : ChargeRow γ}
  {charges charges' : List (ChargeRow γ)}

lemma ChargeRow.erased_side (c : ChargeRow γ) (side : ChargeLineItemSide) : (c.erased side).side = c.side := by
  unfold erased
  split <;> rfl

lemma ChargeRow.side_eq (h : c.erased side = c'.erased side) : c.side = c'.side := by
  rw [← c.erased_side side, h, erased_side]

lemma ChargeRow.shaped_side (c : ChargeRow γ) : (c.shaped visible).side = c.side := by
  unfold shaped
  split <;> rfl

lemma ChargeRow.shaped_amount (h : visible c.side = false) : (c.shaped visible).amount = none := by
  simp [shaped, h]

lemma ChargeRow.shaped_iff (hside : c.side = side) (hvisible : visible side = false)
    (h : c.erased side = c'.erased side) :
    c.shaped visible = c'.shaped visible ↔ (c.unitRate, c.quantity) = (c'.unitRate, c'.quantity) := by
  have hside' : c'.side = side := (side_eq h).symm.trans hside
  obtain ⟨cside, amount, unitRate, quantity, rest⟩ := c
  obtain ⟨cside', amount', unitRate', quantity', rest'⟩ := c'
  cases hside
  cases hside'
  simp_all [erased, shaped]

lemma ChargeRow.eq_of_erased (hside : c.side ≠ side) (h : c.erased side = c'.erased side) : c = c' := by
  have hside' : c'.side ≠ side := side_eq h ▸ hside
  rwa [erased, erased, if_neg hside, if_neg hside'] at h

lemma shaped_charges_iff (hvisible : visible side = false)
    (h : charges.map (ChargeRow.erased side) = charges'.map (ChargeRow.erased side)) :
    charges.map (ChargeRow.shaped visible) = charges'.map (ChargeRow.shaped visible) ↔
      unitsOf side charges = unitsOf side charges' := by
  induction charges generalizing charges' with
  | nil =>
    rw [List.map_nil, eq_comm, List.map_eq_nil_iff] at h
    simp [h]
  | cons c charges ih =>
    cases charges' with
    | nil => simp at h
    | cons c' charges' =>
      obtain ⟨hc, hrest⟩ := List.cons.inj h
      by_cases hside : c.side = side
      · have hside' : c'.side = side := (ChargeRow.side_eq hc).symm.trans hside
        simp only [unitsOf, List.map_cons, List.filter_cons, hside, hside', beq_self_eq_true, if_true, List.cons.injEq,
          ChargeRow.shaped_iff hside hvisible hc]
        exact and_congr_right (fun _ => ih hrest)
      · obtain rfl := ChargeRow.eq_of_erased hside hc
        have hskip : (c.side == side) = false := by simpa using hside
        simp only [unitsOf, List.map_cons, List.filter_cons, hskip, Bool.false_eq_true, if_false, List.cons.injEq,
          true_and]
        exact ih hrest

lemma shaped_records_iff {charges charges' : Option (List (ChargeRow γ))} (hvisible : visible side = false)
    (h : charges.map (List.map (ChargeRow.erased side)) = charges'.map (List.map (ChargeRow.erased side))) :
    charges.map (List.map (ChargeRow.shaped visible)) = charges'.map (List.map (ChargeRow.shaped visible)) ↔
      unitsOf side (charges.getD []) = unitsOf side (charges'.getD []) := by
  cases charges with
  | none =>
    cases charges' with
    | none => simp
    | some _ => simp at h
  | some charges =>
    cases charges' with
    | none => simp at h
    | some charges' => simpa using shaped_charges_iff hvisible (Option.some.inj h)

end Charges

lemma shapeFinancialFields_restricted (hroles : hasFullVisibility actingRoles = false) :
    shapeFinancialFields record actingRoles actingUserId =
      { record with
        customerRate := if isOwnDeal record actingRoles actingUserId then record.customerRate else none
        rateSource := if isOwnDeal record actingRoles actingUserId then record.rateSource else none
        rateAgreementId := if isOwnDeal record actingRoles actingUserId then record.rateAgreementId else none
        carrierRate := record.carrierRate.map (fun _ => none)
        customerChargesTotal :=
          if isOwnDeal record actingRoles actingUserId then record.customerChargesTotal
          else record.customerChargesTotal.map (fun _ => none)
        sourcingAttempts := record.sourcingAttempts.map (List.map SourcingAttemptRow.withoutRate)
        chargeLineItems := record.chargeLineItems.map
          (List.map (ChargeRow.shaped (visibleSide (isOwnDeal record actingRoles actingUserId) false))) } := by
  simp [shapeFinancialFields, hroles]

lemma carrier_side_hidden (hroles : hasFullVisibility actingRoles = false)
    (h : eraseCarrierSide record = eraseCarrierSide record') :
    shapeFinancialFields record actingRoles actingUserId = shapeFinancialFields record' actingRoles actingUserId ↔
      record.units .carrier = record'.units .carrier := by
  simp only [eraseCarrierSide, FinancialRecord.mk.injEq] at h
  obtain ⟨hcreator, hrate, hsource, hagreement, hcarrier, htotal, hattempts, hcharges, hrest⟩ := h
  have hown : isOwnDeal record actingRoles actingUserId = isOwnDeal record' actingRoles actingUserId := by
    rw [isOwnDeal, isOwnDeal, hcreator]
  rw [shapeFinancialFields_restricted hroles, shapeFinancialFields_restricted hroles]
  simp only [hcreator, hrate, hsource, hagreement, hcarrier, htotal, hattempts, hrest, hown,
    FinancialRecord.mk.injEq, true_and, and_true]
  exact shaped_records_iff rfl hcharges

lemma customer_side_hidden (hroles : hasFullVisibility actingRoles = false)
    (hown : isOwnDeal record actingRoles actingUserId = false)
    (h : eraseCustomerSide record = eraseCustomerSide record') :
    shapeFinancialFields record actingRoles actingUserId = shapeFinancialFields record' actingRoles actingUserId ↔
      record.units .customer = record'.units .customer := by
  simp only [eraseCustomerSide, FinancialRecord.mk.injEq, true_and] at h
  obtain ⟨hcreator, hsource, hagreement, hcarrier, htotal, hattempts, hcharges, hrest⟩ := h
  have hown' : isOwnDeal record' actingRoles actingUserId = false := by
    rw [← hown, isOwnDeal, isOwnDeal, hcreator]
  rw [shapeFinancialFields_restricted hroles, shapeFinancialFields_restricted hroles]
  simp only [hcreator, hsource, hagreement, hcarrier, htotal, hattempts, hrest, hown, hown', Bool.false_eq_true,
    if_false, FinancialRecord.mk.injEq, true_and, and_true]
  exact shaped_records_iff rfl hcharges

theorem shaping_hides_iff (hroles : hasFullVisibility actingRoles = false) :
    (eraseCarrierSide record = eraseCarrierSide record' →
      (shapeFinancialFields record actingRoles actingUserId = shapeFinancialFields record' actingRoles actingUserId ↔
        record.units .carrier = record'.units .carrier)) ∧
    (isOwnDeal record actingRoles actingUserId = false → eraseCustomerSide record = eraseCustomerSide record' →
      (shapeFinancialFields record actingRoles actingUserId = shapeFinancialFields record' actingRoles actingUserId ↔
        record.units .customer = record'.units .customer)) :=
  ⟨carrier_side_hidden hroles, customer_side_hidden hroles⟩

namespace LoadService

variable {rows rows' : LoadRows} {podStopIds : List Uuid}

def chargeUnits (side : ChargeLineItemSide) (rows : LoadRows) : List (Cents × Cents) :=
  (rows.chargeLineItems.filter (fun c => c.side == side)).map (fun c => (c.unitRate, c.quantity))

lemma details_units (side : ChargeLineItemSide) (rows : LoadRows) :
    (detailsRecord podStopIds rows).units side = chargeUnits side rows := by
  simp [FinancialRecord.units, detailsRecord, unitsOf, chargeUnits, List.filter_map, Function.comp_def, chargeRow]

lemma findById_eq_iff : findById (some rows) podStopIds actingUserId actingRoles =
      findById (some rows') podStopIds actingUserId actingRoles ↔
    shapeFinancialFields (detailsRecord podStopIds rows) actingRoles actingUserId =
      shapeFinancialFields (detailsRecord podStopIds rows') actingRoles actingUserId :=
  ⟨Except.ok.inj, congrArg Except.ok⟩

theorem findById_carrier_side (hroles : hasFullVisibility actingRoles = false)
    (h : eraseCarrierSide (detailsRecord podStopIds rows) = eraseCarrierSide (detailsRecord podStopIds rows')) :
    findById (some rows) podStopIds actingUserId actingRoles =
      findById (some rows') podStopIds actingUserId actingRoles ↔
    chargeUnits .carrier rows = chargeUnits .carrier rows' := by
  rw [findById_eq_iff, carrier_side_hidden hroles h, details_units, details_units]

theorem getReadyToInvoice_carrier_side {o : RowOrder} {stored : List LoadRows} {customerId : Option Uuid}
    {r : FinancialRecord Load Unit ChargeLineItem} (hroles : hasFullVisibility actingRoles = false)
    (h : r ∈ getReadyToInvoice o stored customerId actingUserId actingRoles) :
    r.carrierRate = some none ∧ ∀ c ∈ r.chargeLineItems.getD [], c.side = .carrier → c.amount = none := by
  obtain ⟨rows, _, rfl⟩ := List.mem_map.mp h
  rw [shapeFinancialFields_restricted hroles]
  refine ⟨rfl, fun c hc hside => ?_⟩
  obtain ⟨row, _, rfl⟩ := List.mem_map.mp hc
  rw [ChargeRow.shaped_side] at hside
  exact ChargeRow.shaped_amount (by rw [hside]; rfl)

end LoadService

namespace Sample

def financialRecord (unitRate quantity amount : Cents) : FinancialRecord Unit Unit Unit where
  createdByUserId := 1
  customerRate := some 245000
  rateSource := some .manual
  rateAgreementId := none
  carrierRate := some (some amount)
  customerChargesTotal := none
  sourcingAttempts := some [⟨some amount, ()⟩]
  chargeLineItems := some [⟨.carrier, some amount, unitRate, quantity, ()⟩]
  rest := ()

end Sample

theorem shaping_hides_sample :
    shapeFinancialFields (Sample.financialRecord 90000 100 90000) [.dispatcher] 2 =
      shapeFinancialFields (Sample.financialRecord 90000 100 95000) [.dispatcher] 2 :=
  ((shaping_hides_iff (by decide)).1 rfl).mpr rfl

theorem shaping_shows_unitRate :
    eraseCarrierSide (Sample.financialRecord 90000 100 90000) =
      eraseCarrierSide (Sample.financialRecord 95000 100 95000) ∧
    hasFullVisibility [.dispatcher] = false ∧
    shapeFinancialFields (Sample.financialRecord 90000 100 90000) [.dispatcher] 2 ≠
      shapeFinancialFields (Sample.financialRecord 95000 100 95000) [.dispatcher] 2 := by
  refine ⟨rfl, rfl, fun h => ?_⟩
  have hcharges := congrArg (fun r => (r.chargeLineItems.getD []).map ChargeRow.unitRate) h
  revert hcharges
  decide

end Truckmaster.QuoteLoad
