import Truckmaster.Library.Doubles
import Truckmaster.QuoteLoad.AgreedTerms

namespace Truckmaster.QuoteLoad

open Common Doubles Fallible LoadStatusDerivationService DispatchTrackingService Runs Tables

structure AddChargeInput where
  side : ChargeLineItemSide
  chargeTypeId : Uuid
  description : Option String := none
  quantity : Option DecimalInput := none
  unitRate : DecimalInput
  notes : Option String := none

structure CreateChargeTypeInput where
  code : String
  label : String
  filled : 1 ≤ code.length ∧ 1 ≤ label.length := by decide

structure ChargeTypeDefinition extends TypeDefinition where
  label : String
  isSystemDefault : Bool := false

structure ChargeState where
  chargeTypes : List ChargeTypeDefinition
  typeAudit : List AuditEvent := []
  rows : LoadRows

inductive ChargeOp
  | load (op : LoadOp)
  | addCharge (dto : AddChargeInput)
  | createChargeType (dto : CreateChargeTypeInput)

structure ChargeCall where
  reference : Reference
  request : Request
  op : ChargeOp

namespace LoadService

/-- The largest amount of a quantity column: ten digits, two of them decimals. -/
def quantityMax : ℕ := 9999999999

/-- `toFixed(2)` of the product of two doubles, for amounts in hundredths. -/
def chargeAmount (quantity unitRate : ℕ) : ℕ :=
  (nearestCents (rounded (rounded (quantity / 100) * rounded (unitRate / 100)))).toNat

def addCharge (r : Reference) (q : Request) (found : Option LoadRows) (dto : AddChargeInput) :
    Except AppError LoadRows := do
  let rows ← LoadRows.found found
  let _ ← require (findFirst (q.order 0) (fun t => t.id == dto.chargeTypeId &&
      (t.organizationId == some r.organizationId || t.organizationId.isNone)) r.chargeTypes)
    (.notFound "Charge type not found.")
  let quantity := (dto.quantity.map DecimalInput.cents).getD 100
  let amount := chargeAmount quantity dto.unitRate.cents
  ensure (quantity ≤ quantityMax ∧ dto.unitRate.cents ≤ decimalMax ∧ amount ≤ decimalMax)
    (.database "Numeric field overflow.")
  let chargeLineItem : ChargeLineItem :=
    { id := q.uuid 0
      side := dto.side
      chargeTypeId := dto.chargeTypeId
      description := dto.description
      quantity := quantity
      unitRate := dto.unitRate.cents
      amount := amount
      source := .adjustment
      notes := dto.notes
      createdByUserId := q.actingUserId }
  pure ({ rows with chargeLineItems := rows.chargeLineItems ++ [chargeLineItem] }.recordLoad q
    "Charge Line Item Added")

end LoadService

namespace ChargeTypeService

def create (r : Reference) (q : Request) (dto : CreateChargeTypeInput) (s : ChargeState) : ChargeState :=
  { s with
    chargeTypes := s.chargeTypes ++
      [{ id := q.uuid 0, organizationId := some r.organizationId, code := dto.code, label := dto.label }]
    typeAudit := s.typeAudit ++
      [⟨"Charge Type Created", "ChargeTypeDefinition", q.uuid 0, some q.actingUserId, .human, none⟩] }

end ChargeTypeService

namespace ChargeState

def types (s : ChargeState) : List TypeDefinition := s.chargeTypes.map ChargeTypeDefinition.toTypeDefinition

def linehaul (s : ChargeState) (r : Reference) (o : RowOrder) : Option TypeDefinition := r.findType o "LINEHAUL" s.types

end ChargeState

def ChargeCall.exec (c : ChargeCall) (s : ChargeState) : Except AppError ChargeState :=
  let r := { c.reference with chargeTypes := s.types }
  match c.op with
  | .load op => (fun rows => { s with rows }) <$> Call.exec ⟨r, c.request, op⟩ s.rows
  | .addCharge dto => (fun rows => { s with rows }) <$> LoadService.addCharge r c.request (some s.rows) dto
  | .createChargeType dto => .ok (ChargeTypeService.create r c.request dto s)

variable {r : Reference} {q : Request} {rows rows' : LoadRows} {s t : ChargeState} {c : ChargeCall}
  {sequences : List ℤ}

def isCarrierOriginal (c : ChargeLineItem) : Bool := c.side == .carrier && c.source == .original

def LoadRows.carrierOriginals (rows : LoadRows) : List ChargeLineItem := rows.chargeLineItems.filter isCarrierOriginal

def CarrierCharged (s : ChargeState) : Prop :=
  (∀ carrier, s.rows.load.assignedCarrierId = some carrier →
    ∃ charge, s.rows.carrierOriginals = [charge] ∧ s.rows.load.carrierRate = some charge.amount) ∧
  (s.rows.load.assignedCarrierId = none → s.rows.carrierOriginals = [])

structure Assigned (s : ChargeState) : Prop where
  before : s.rows.load.status = .booked ∨ s.rows.load.status = .carrierSourcing →
    s.rows.load.assignedCarrierId = none
  after : s.rows.load.status = .carrierAssigned → s.rows.load.assignedCarrierId.isSome

def Assignable (s : ChargeState) (r : Reference) (dto : AssignCarrierInput) : Prop :=
  s.rows.load.status = .carrierSourcing ∧ (r.carrier dto.carrierId).isSome ∧
    (r.eligibility dto.carrierId).eligible ∧ dto.carrierRate.cents ≤ decimalMax

/-- Every assignment finds a LINEHAUL type, and every rejection finds the one of the charge it has to remove. -/
def LinehaulMatches (s : ChargeState) (c : ChargeCall) : Prop :=
  match c.op with
  | .load (.assignCarrier dto) =>
    Assignable s c.reference dto → (s.linehaul c.reference (c.request.order 0)).isSome
  | .load (.carrierRejected _) =>
    s.rows.load.status = .carrierAssigned → ∀ charge ∈ s.rows.carrierOriginals,
      (s.linehaul c.reference (c.request.order 1)).map TypeDefinition.id = some charge.chargeTypeId
  | _ => True

lemma Edge.unassigned {op : LoadOp} {status status' : LoadStatus} (h : Edge op status status') (hop : ¬ op.Reassigns) :
    (status' = .booked ∨ status' = .carrierSourcing → status = .booked) ∧ status' ≠ .carrierAssigned := by
  cases h with
  | assignCarrier => exact absurd trivial hop
  | carrierRejected => exact absurd trivial hop
  | beginSourcing => simp
  | _ => simp

lemma derived_unassigned (h : Derived rows rows') : rows'.load.status = rows.load.status ∨
    rows'.load.status ∉ [LoadStatus.booked, .carrierSourcing, .carrierAssigned] := by
  by_cases hstatus : rows.load.status ∈ derivableStatuses
  · obtain ⟨stops, _, hderived⟩ := h
    right
    rw [hderived]
    rcases deriveLoadStatus_mem stops hstatus with hmem | hdelivered
    · intro hnot
      simp only [derivableStatuses, List.mem_cons, List.not_mem_nil, or_false] at hmem hnot
      rcases hmem with h | h | h <;> simp [h] at hnot
    · simp [hdelivered]
  · exact Or.inl (h.of_not_derivable hstatus)

lemma exec_unassigned {c : Call} (h : c.exec rows = .ok rows') (hop : ¬ c.op.Reassigns) :
    (rows'.load.status = .booked ∨ rows'.load.status = .carrierSourcing →
      rows.load.status = .booked ∨ rows.load.status = .carrierSourcing) ∧
    (rows'.load.status = .carrierAssigned → rows.load.status = .carrierAssigned) := by
  have hderived (hd : Derived rows rows') : (rows'.load.status = .booked ∨ rows'.load.status = .carrierSourcing →
      rows.load.status = .booked ∨ rows.load.status = .carrierSourcing) ∧
      (rows'.load.status = .carrierAssigned → rows.load.status = .carrierAssigned) := by
    rcases derived_unassigned hd with hsame | hnot
    · rw [hsame]
      exact ⟨id, id⟩
    · constructor
      · rintro (hs | hs) <;> simp [hs] at hnot
      · intro hs
        simp [hs] at hnot
  cases exec_effect h with
  | workflow edge _ =>
    obtain ⟨hbefore, hafter⟩ := edge.unassigned hop
    exact ⟨fun hs => Or.inl (hbefore hs), fun hs => absurd hs hafter⟩
  | unmoved status _ =>
    rw [status]
    exact ⟨id, id⟩
  | arrival _ moved => exact hderived moved.derived
  | departure _ moved => exact hderived moved.derived
  | edit _ derived _ => exact hderived derived
  | returned _ pair => exact hderived pair.derived

lemma originals_of_charges (h : rows'.chargeLineItems = rows.chargeLineItems) :
    rows'.carrierOriginals = rows.carrierOriginals := by
  rw [LoadRows.carrierOriginals, LoadRows.carrierOriginals, h]

lemma assignCarrier_charges {dto : AssignCarrierInput}
    (h : CarrierSourcingService.assignCarrier r q (some rows) dto = .ok rows') :
    rows'.load.assignedCarrierId = some dto.carrierId ∧ rows'.load.carrierRate = some (dto.carrierRate.cents : Cents) ∧
      rows'.chargeLineItems = (CarrierSourcingService.createOriginalCarrierLinehaulCharge r q (q.order 0)
        dto.carrierRate.cents rows).chargeLineItems := by
  simp only [CarrierSourcingService.assignCarrier, LoadRows.found_some, ok_bind, bind_eq_ok, pure_eq_ok] at h
  obtain ⟨_, _, _, _, _, _, _, _, rfl⟩ := h
  rw [LoadRows.notifyOnce_load, LoadRows.recordLoad_load, LoadRows.terms_charges (LoadRows.notifyOnce_terms ..)]
  unfold CarrierSourcingService.createOriginalCarrierLinehaulCharge
  cases r.findType (q.order 0) "LINEHAUL" r.chargeTypes <;> exact ⟨rfl, rfl, rfl⟩

lemma assignCarrier_assignable {types : List TypeDefinition} {dto : AssignCarrierInput} (h : CarrierSourcingService.assignCarrier
    { r with chargeTypes := types } q (some s.rows) dto = .ok rows') : Assignable s r dto := by
  simp only [CarrierSourcingService.assignCarrier, LoadRows.found_some, ok_bind, bind_eq_ok, ensure_eq_ok,
    require_eq_ok, pure_eq_ok] at h
  obtain ⟨_, hstatus, carrier, hcarrier, _, heligible, _, hrate, _⟩ := h
  exact ⟨hstatus, Option.isSome_iff_exists.mpr ⟨carrier, hcarrier⟩, heligible, hrate⟩

lemma assignCarrier_accepts (types : List TypeDefinition) (q : Request) {dto : AssignCarrierInput} (h : Assignable s r dto) :
    ∃ rows', CarrierSourcingService.assignCarrier { r with chargeTypes := types } q (some s.rows) dto = .ok rows' := by
  obtain ⟨hstatus, hcarrier, heligible, hrate⟩ := h
  obtain ⟨carrier, hcarrier⟩ := Option.isSome_iff_exists.mp hcarrier
  simp only [CarrierSourcingService.assignCarrier, LoadRows.found_some, ok_bind, bind_eq_ok, ensure_eq_ok,
    require_eq_ok, pure_eq_ok]
  exact ⟨_, (), hstatus, carrier, hcarrier, (), heligible, (), hrate, rfl⟩

lemma created_originals (r : Reference) (q : Request) (rows : LoadRows) (cents : Cents) :
    (CarrierSourcingService.createOriginalCarrierLinehaulCharge r q (q.order 0) cents rows).carrierOriginals =
      rows.carrierOriginals ∧ r.findType (q.order 0) "LINEHAUL" r.chargeTypes = none ∨
    ∃ charge, charge.amount = cents ∧
      (r.findType (q.order 0) "LINEHAUL" r.chargeTypes).map TypeDefinition.id = some charge.chargeTypeId ∧
      (CarrierSourcingService.createOriginalCarrierLinehaulCharge r q (q.order 0) cents rows).carrierOriginals =
        rows.carrierOriginals ++ [charge] := by
  unfold CarrierSourcingService.createOriginalCarrierLinehaulCharge
  cases hfound : r.findType (q.order 0) "LINEHAUL" r.chargeTypes with
  | none => exact Or.inl ⟨rfl, rfl⟩
  | some linehaulType =>
    let charge : ChargeLineItem :=
      { id := q.uuid 1, side := .carrier, chargeTypeId := linehaulType.id, unitRate := cents, amount := cents
        source := .original, createdByUserId := q.actingUserId }
    exact Or.inr ⟨charge, rfl, rfl, List.filter_append rows.chargeLineItems [charge]⟩

lemma carrierRejected_charges {dto : CarrierRejectedInput}
    (h : CarrierSourcingService.carrierRejected r q (some rows) dto = .ok rows') :
    rows'.load.assignedCarrierId = none ∧ rows'.chargeLineItems =
      (CarrierSourcingService.removeOriginalCarrierLinehaulCharge r (q.order 1) rows).chargeLineItems := by
  simp only [CarrierSourcingService.carrierRejected, LoadRows.found_some, ok_bind, bind_eq_ok, pure_eq_ok] at h
  obtain ⟨_, _, rfl⟩ := h
  unfold CarrierSourcingService.removeOriginalCarrierLinehaulCharge
  cases r.findType (q.order 1) "LINEHAUL" r.chargeTypes <;> exact ⟨rfl, rfl⟩

lemma carrierRejected_accepts (r : Reference) (q : Request) (dto : CarrierRejectedInput)
    (h : rows.load.status = .carrierAssigned) :
    ∃ rows', CarrierSourcingService.carrierRejected r q (some rows) dto = .ok rows' := by
  simp only [CarrierSourcingService.carrierRejected, LoadRows.found_some, ok_bind, bind_eq_ok, ensure_eq_ok,
    pure_eq_ok]
  exact ⟨_, (), h, rfl⟩

lemma mem_removed {o : RowOrder} {charge : ChargeLineItem} :
    charge ∈ (CarrierSourcingService.removeOriginalCarrierLinehaulCharge r o rows).carrierOriginals ↔
      charge ∈ rows.carrierOriginals ∧
        (r.findType o "LINEHAUL" r.chargeTypes).map TypeDefinition.id ≠ some charge.chargeTypeId := by
  unfold CarrierSourcingService.removeOriginalCarrierLinehaulCharge
  cases hfound : r.findType o "LINEHAUL" r.chargeTypes with
  | none => simp
  | some linehaulType =>
    simp only [LoadRows.carrierOriginals, isCarrierOriginal, List.mem_filter, Option.map_some, ne_eq,
      Option.some.injEq]
    grind

lemma addCharge_charges {dto : AddChargeInput} (h : LoadService.addCharge r q (some rows) dto = .ok rows') :
    rows'.load = rows.load ∧ rows'.carrierOriginals = rows.carrierOriginals := by
  simp only [LoadService.addCharge, LoadRows.found_some, ok_bind, bind_eq_ok, pure_eq_ok] at h
  obtain ⟨_, _, _, _, rfl⟩ := h
  refine ⟨rfl, ?_⟩
  simp [LoadRows.carrierOriginals, LoadRows.recordLoad, LoadRows.record, isCarrierOriginal]

lemma assigned_exec (s : ChargeState) (c : ChargeCall) (t : ChargeState) (hs : Assigned s) (h : c.exec s = .ok t) :
    Assigned t := by
  obtain ⟨reference, q, op⟩ := c
  cases op with
  | load op =>
    obtain ⟨rows', hexec, rfl⟩ := map_eq_ok.mp h
    by_cases hop : op.Reassigns
    · cases op with
      | assignCarrier dto =>
        have hafter := (CarrierSourcingService.assignCarrier_ok hexec).2.1
        refine ⟨fun hstatus => ?_, fun _ => ?_⟩
        · simp [hafter] at hstatus
        · rw [(assignCarrier_charges hexec).1]
          rfl
      | carrierRejected dto =>
        have hafter := (CarrierSourcingService.carrierRejected_ok hexec).2.1
        refine ⟨fun _ => (carrierRejected_charges hexec).1, fun hstatus => ?_⟩
        simp [hafter] at hstatus
      | _ => exact hop.elim
    · obtain ⟨hbefore, hafter⟩ := exec_unassigned hexec hop
      have hsame := LoadRows.terms_load (exec_terms hexec hop) Load.assignedCarrierId (fun _ => rfl)
      refine ⟨fun hstatus => hsame.trans (hs.before (hbefore hstatus)), fun hstatus => ?_⟩
      rw [hsame]
      exact hs.after (hafter hstatus)
  | addCharge dto =>
    obtain ⟨rows', hadd, rfl⟩ := map_eq_ok.mp h
    have hload := (addCharge_charges hadd).1
    exact ⟨fun hstatus => hload ▸ hs.before (hload ▸ hstatus), fun hstatus => hload ▸ hs.after (hload ▸ hstatus)⟩
  | createChargeType dto =>
    obtain rfl := Except.ok.inj h
    exact ⟨hs.before, hs.after⟩

lemma charged_of_same (hs : CarrierCharged s) (hcarrier : t.rows.load.assignedCarrierId = s.rows.load.assignedCarrierId)
    (hrate : t.rows.load.carrierRate = s.rows.load.carrierRate)
    (hcharges : t.rows.carrierOriginals = s.rows.carrierOriginals) : CarrierCharged t := by
  rw [CarrierCharged, hcarrier, hrate, hcharges]
  exact hs

lemma charged_exec (hassigned : Assigned s) (hs : CarrierCharged s) (hmatch : LinehaulMatches s c)
    (h : c.exec s = .ok t) : CarrierCharged t := by
  obtain ⟨reference, q, op⟩ := c
  cases op with
  | load op =>
    obtain ⟨rows', hexec, rfl⟩ := map_eq_ok.mp h
    by_cases hop : op.Reassigns
    · cases op with
      | assignCarrier dto =>
        obtain ⟨hcarrier, hrate, hcharges⟩ := assignCarrier_charges hexec
        have hstatus := (CarrierSourcingService.assignCarrier_ok hexec).1
        have hnone := hs.2 (hassigned.before (Or.inr hstatus))
        rcases created_originals { reference with chargeTypes := s.types } q s.rows dto.carrierRate.cents
          with ⟨_, hmissing⟩ | ⟨charge, hamount, _, horiginals⟩
        · have hfound := hmatch (assignCarrier_assignable hexec)
          rw [ChargeState.linehaul, show reference.findType (q.order 0) "LINEHAUL" s.types = none from hmissing] at hfound
          cases hfound
        · rw [← originals_of_charges hcharges, hnone, List.nil_append] at horiginals
          exact ⟨fun _ _ => ⟨charge, horiginals, hrate.trans (congrArg some hamount.symm)⟩,
            fun hunassigned => absurd (hcarrier.symm.trans hunassigned) nofun⟩
      | carrierRejected dto =>
        obtain ⟨hcarrier, hcharges⟩ := carrierRejected_charges hexec
        have hstatus := (CarrierSourcingService.carrierRejected_ok hexec).1
        refine ⟨fun carrier hsome => absurd (hcarrier.symm.trans hsome) nofun, fun _ => ?_⟩
        refine (originals_of_charges hcharges).trans (List.eq_nil_iff_forall_not_mem.mpr (fun charge hmem => ?_))
        obtain ⟨hold, hkept⟩ := mem_removed.mp hmem
        exact hkept (hmatch hstatus charge hold)
      | _ => exact hop.elim
    · have hterms := exec_terms hexec hop
      exact charged_of_same hs (LoadRows.terms_load hterms Load.assignedCarrierId (fun _ => rfl))
        (LoadRows.terms_load hterms Load.carrierRate (fun _ => rfl))
        (originals_of_charges (LoadRows.terms_charges hterms))
  | addCharge dto =>
    obtain ⟨rows', hadd, rfl⟩ := map_eq_ok.mp h
    obtain ⟨hload, hcharges⟩ := addCharge_charges hadd
    exact charged_of_same hs (congrArg Load.assignedCarrierId hload) (congrArg Load.carrierRate hload) hcharges
  | createChargeType dto =>
    obtain rfl := Except.ok.inj h
    exact hs

lemma uncharged_exec (hassigned : Assigned s) (hs : CarrierCharged s) (hmatch : ¬ LinehaulMatches s c) :
    ∃ t, c.exec s = .ok t ∧ ¬ CarrierCharged t := by
  obtain ⟨reference, q, op⟩ := c
  cases op with
  | load op =>
    cases op with
    | assignCarrier dto =>
      simp only [LinehaulMatches, Classical.not_imp, Option.not_isSome_iff_eq_none] at hmatch
      obtain ⟨hassignable, hmissing⟩ := hmatch
      obtain ⟨rows', hexec⟩ := assignCarrier_accepts s.types q hassignable
      refine ⟨{ s with rows := rows' }, map_eq_ok.mpr ⟨rows', hexec, rfl⟩, fun ht => ?_⟩
      obtain ⟨hcarrier, _, hcharges⟩ := assignCarrier_charges hexec
      obtain ⟨charge, hsingle, _⟩ := ht.1 _ hcarrier
      have hnone := hs.2 (hassigned.before (Or.inr hassignable.1))
      have hsame : rows'.carrierOriginals = s.rows.carrierOriginals := by
        refine originals_of_charges (hcharges.trans ?_)
        rw [CarrierSourcingService.createOriginalCarrierLinehaulCharge, show Reference.findType
          { reference with chargeTypes := s.types } (q.order 0) "LINEHAUL" s.types = none from hmissing]
      rw [hsame, hnone] at hsingle
      cases hsingle
    | carrierRejected dto =>
      simp only [LinehaulMatches, Classical.not_imp, not_forall] at hmatch
      obtain ⟨hstatus, charge, hmem, hother⟩ := hmatch
      obtain ⟨rows', hexec⟩ := carrierRejected_accepts { reference with chargeTypes := s.types } q dto hstatus
      refine ⟨{ s with rows := rows' }, map_eq_ok.mpr ⟨rows', hexec, rfl⟩, fun ht => ?_⟩
      obtain ⟨hcarrier, hcharges⟩ := carrierRejected_charges hexec
      have hkept : charge ∈ rows'.carrierOriginals := by
        rw [originals_of_charges hcharges]
        exact mem_removed.mpr ⟨hmem, hother⟩
      rw [ht.2 hcarrier] at hkept
      cases hkept
    | _ => exact absurd trivial hmatch
  | addCharge dto => exact absurd trivial hmatch
  | createChargeType dto => exact absurd trivial hmatch

lemma booked_created (h : Booked sequences rows) :
    ∃ r q params audit, LoadService.createFromBooking r q params audit = .ok rows := by
  cases h with
  | direct h =>
    simp only [LoadService.createDirect, bind_eq_ok] at h
    obtain ⟨_, _, _, _, _, _, _, _, h⟩ := h
    exact ⟨_, _, _, _, h⟩
  | converted _ h =>
    simp only [QuoteService.convert, bind_eq_ok, pure_eq_ok, Prod.mk.injEq] at h
    obtain ⟨_, _, _, _, _, _, _, _, load, h, _, rfl⟩ := h
    exact ⟨_, _, _, _, h⟩

lemma booked_charges (h : Booked sequences rows) :
    rows.load.assignedCarrierId = none ∧ rows.carrierOriginals = [] := by
  obtain ⟨r, q, params, audit, h⟩ := booked_created h
  refine ⟨by rw [(createFromBooking_ok h).1]; rfl, ?_⟩
  simp only [LoadService.createFromBooking, bind_eq_ok, pure_eq_ok] at h
  obtain ⟨_, _, _, _, created, hcreated, rfl⟩ := h
  have hnone : created.chargeLineItems = [] :=
    LoadRows.terms_charges (LoadRows.terms_untracked.createStops hcreated)
  unfold LoadService.createOriginalCustomerLinehaulCharge
  split <;> simp [LoadRows.carrierOriginals, LoadRows.recordLoad, LoadRows.record, isCarrierOriginal, hnone]

theorem carrier_charged_iff (h : Booked sequences rows) (chargeTypes : List ChargeTypeDefinition)
    (calls : List ChargeCall) :
    (∀ ds, ds <+: calls → CarrierCharged (ds.foldl (attempt ChargeCall.exec) ⟨chargeTypes, [], rows⟩)) ↔
      Run (Guarded (Serving ChargeCall.exec) LinehaulMatches) ⟨chargeTypes, [], rows⟩ calls
        (calls.foldl (attempt ChargeCall.exec) ⟨chargeTypes, [], rows⟩) := by
  obtain ⟨hcarrier, hcharges⟩ := booked_charges h
  have hassigned : Assigned ⟨chargeTypes, [], rows⟩ := by
    refine ⟨fun _ => hcarrier, fun hstatus => ?_⟩
    rw [show rows.load.status = .booked from h.fresh.status] at hstatus
    cases hstatus
  have hcharged : CarrierCharged ⟨chargeTypes, [], rows⟩ :=
    ⟨fun carrier hsome => absurd (hcarrier.symm.trans hsome) nofun, fun _ => hcharges⟩
  refine lawful_iff_guarded (J := Assigned) (fun s c hs => serving_invariant assigned_exec (Run.single rfl) hs)
    (fun s c hs hlaw hmatch => ?_) (fun s c hs hlaw hmatch => ?_) hassigned hcharged calls
  · rcases attempt_cases ChargeCall.exec s c with hrefused | hok
    · rwa [hrefused]
    · exact charged_exec hs hlaw hmatch hok
  · obtain ⟨t, hexec, hbroken⟩ := uncharged_exec hs hlaw hmatch
    rwa [attempt_of_ok hexec]

instance (s : ChargeState) (r : Reference) (dto : AssignCarrierInput) : Decidable (Assignable s r dto) :=
  inferInstanceAs (Decidable (_ ∧ _ ∧ _ ∧ _))

instance (s : ChargeState) (c : ChargeCall) : Decidable (LinehaulMatches s c) := by
  unfold LinehaulMatches
  split <;> infer_instance

namespace Sample

def systemTypes : List ChargeTypeDefinition := [⟨⟨4, none, "LINEHAUL"⟩, "Linehaul", true⟩]

def latestFirst : RowOrder := ⟨List.reverse, fun rows => List.reverse_perm rows⟩

def chargeCalls (ops : List ChargeOp) : List ChargeCall :=
  ops.mapIdx (fun i op => ⟨reference, { request (2 + i) with order := fun _ => latestFirst }, op⟩)

def chargesAfter (ops : List ChargeOp) : ChargeState :=
  (chargeCalls ops).foldl (attempt ChargeCall.exec) ⟨systemTypes, [], booked⟩

def assignThenReject : List ChargeOp :=
  [.load .beginSourcing, .load (.assignCarrier ⟨5, rate⟩), .addCharge ⟨.carrier, 4, none, none, rate, none⟩,
    .load (.carrierRejected { reason := "Late" })]

def ownLinehaulBetween : List ChargeOp :=
  [.load .beginSourcing, .load (.assignCarrier ⟨5, rate⟩), .createChargeType { code := "LINEHAUL", label := "Own" },
    .load (.carrierRejected { reason := "Late" })]

end Sample

open Sample

theorem carrier_charged_sample : CarrierCharged (chargesAfter assignThenReject) := by
  refine (carrier_charged_iff (.direct booked_eq) systemTypes (chargeCalls assignThenReject)).mpr ?_ _ List.prefix_rfl
  exact run_total_checked (by decide +kernel)

theorem stale_carrier_charge :
    (chargesAfter ownLinehaulBetween).rows.load.status = .carrierSourcing ∧
    (chargesAfter ownLinehaulBetween).rows.load.assignedCarrierId = none ∧
    (chargesAfter ownLinehaulBetween).rows.carrierOriginals.map ChargeLineItem.amount = [245000] ∧
    ¬ CarrierCharged (chargesAfter ownLinehaulBetween) := by
  refine ⟨by decide, by decide, by decide, fun hlaw => ?_⟩
  have hnone := hlaw.2 (by decide)
  exact absurd hnone (by decide)

end Truckmaster.QuoteLoad
