import Truckmaster.Customers.CustomerService
import Truckmaster.QuoteLoad.OperationalTimes

namespace Truckmaster.Customers

open Calendars Common Fallible Runs Tables
open QuoteLoad (CustomerRateAgreement DecimalInput EquipmentType RateSource Reference)
open QuoteLoad.RateAgreementMatchingService

structure AddCustomerRateAgreementInput where
  originCity : String
  originState : String
  destinationCity : String
  destinationState : String
  equipmentType : EquipmentType
  rate : DecimalInput
  effectiveDate : String
  expirationDate : Option String := none

structure RateBook where
  organization : OrganizationData
  agreements : Table CustomerRateAgreement.id

structure RateCall where
  request : Request
  customerId : Uuid
  dto : AddCustomerRateAgreementInput

namespace CustomerService

/-! `engine` and `server` are those of the Date constructor. -/

variable (engine : Engine) (server : Zone)

/-- What the date column holds: an invalid date is refused by the client library. -/
def storedDate (text : String) : Option Instant := (newDate engine server text).map dateOf

def rateAgreementOf (id customerId : Uuid) (dto : AddCustomerRateAgreementInput) : Option CustomerRateAgreement := do
  let effectiveDate ← storedDate engine server dto.effectiveDate
  let expirationDate ← match dto.expirationDate.filter (fun e => e ≠ "") with
    | none => some none
    | some e => (storedDate engine server e).map some
  some {
    id, customerId
    originCity := dto.originCity
    originState := dto.originState
    destinationCity := dto.destinationCity
    destinationState := dto.destinationState
    equipmentType := dto.equipmentType
    rate := dto.rate.cents
    effectiveDate, expirationDate }

def addRateAgreement (q : Request) (book : RateBook) (customerId : Uuid) (dto : AddCustomerRateAgreementInput) :
    Except AppError (CustomerRateAgreement × RateBook) := do
  let _ ← findCustomer q book.organization customerId
  -- the two dates are compared as texts
  ensure (∀ e ∈ dto.expirationDate, e ≠ "" → dto.effectiveDate < e)
    (.businessRule "Expiration date must be after the effective date.")
  let agreement ← require (rateAgreementOf engine server (q.uuid 0) customerId dto) (.database "Invalid Date")
  let agreements ← require (book.agreements.insert agreement) (Carriers.CarrierService.uniqueFailed "id")
  pure (agreement, {
    organization := book.organization.record
      ⟨"Customer Rate Agreement Added", "Customer", customerId, some q.actingUserId, .human, none⟩
    agreements })

def nextBook (book : RateBook) (call : RateCall) : Option RateBook :=
  ((addRateAgreement engine server call.request book call.customerId call.dto).map Prod.snd).toOption

def RateCall.agreement (call : RateCall) : Option CustomerRateAgreement :=
  rateAgreementOf engine server (call.request.uuid 0) call.customerId call.dto

end CustomerService

open CustomerService

section Accepted

variable {engine : Engine} {server : Zone} {book book' : RateBook} {call : RateCall} {calls : List RateCall}

lemma nextBook_rows (h : nextBook engine server book call = some book') : ∃ agreement,
    RateCall.agreement engine server call = some agreement ∧ book'.agreements.rows = book.agreements.rows ++ [agreement] := by
  rw [nextBook] at h
  cases hadd : addRateAgreement engine server call.request book call.customerId call.dto with
  | error e =>
    rw [hadd] at h
    cases h
  | ok result =>
    rw [hadd] at h
    obtain rfl := Option.some.inj h
    simp only [addRateAgreement, bind_eq_ok, require_eq_ok, pure_eq_ok] at hadd
    obtain ⟨_, _, _, _, agreement, hagreement, agreements, hinsert, rfl⟩ := hadd
    exact ⟨agreement, hagreement, Table.insert_rows hinsert⟩

lemma run_rows (h : Run (Enabled (nextBook engine server)) book calls book') :
    book'.agreements.rows = book.agreements.rows ++ calls.filterMap (RateCall.agreement engine server) := by
  induction h with
  | nil => simp
  | cons hstep _ ih =>
    obtain ⟨agreement, hagreement, hrows⟩ := nextBook_rows hstep
    rw [ih, hrows, List.filterMap_cons_some hagreement, List.append_assoc, List.singleton_append]

end Accepted

/-- The query: in force on the day of the request, for this equipment. -/
def inForce (q : Request) (customerId : Uuid) (equipmentType : EquipmentType) (a : CustomerRateAgreement) : Bool :=
  a.customerId == customerId && a.equipmentType == equipmentType && decide (a.effectiveDate ≤ dateOf q.now) &&
    a.expirationDate.all (fun e => decide (dateOf q.now ≤ e))

def onLane (lane : Lane) (a : CustomerRateAgreement) : Bool :=
  normalize a.originCity == normalize lane.originCity && normalize a.originState == normalize lane.originState &&
    normalize a.destinationCity == normalize lane.destinationCity &&
    normalize a.destinationState == normalize lane.destinationState

def Applies (q : Request) (customerId : Uuid) (lane : Lane) (equipmentType : EquipmentType) (a : CustomerRateAgreement) :
    Prop := inForce q customerId equipmentType a = true ∧ onLane lane a = true

section OrderFree

variable {engine : Engine} {server : Zone} {organization : OrganizationData} {book : RateBook} {calls : List RateCall}
  {r : Reference} {q : Request} {customerId : Uuid} {lane : Lane} {equipmentType : EquipmentType}

lemma findMatch_eq (o : RowOrder) : findMatch r q o customerId lane equipmentType =
    (findMany o (inForce q customerId equipmentType) r.rateAgreements).find? (onLane lane) := rfl

lemma resolveRate_eq_iff {o o' : RowOrder} {submittedRate : DecimalInput} (hids : (r.rateAgreements.map (·.id)).Nodup) :
    resolveRate r q o customerId lane equipmentType submittedRate =
        resolveRate r q o' customerId lane equipmentType submittedRate ↔
      (findMatch r q o customerId lane equipmentType).map (·.id) =
        (findMatch r q o' customerId lane equipmentType).map (·.id) := by
  have hmem (o : RowOrder) {a : CustomerRateAgreement} (ha : findMatch r q o customerId lane equipmentType = some a) :
      a ∈ r.rateAgreements := by
    rw [findMatch_eq] at ha
    exact (mem_findMany.mp (List.mem_of_find?_eq_some ha)).1
  unfold resolveRate
  cases hfirst : findMatch r q o customerId lane equipmentType with
  | none =>
    cases hother : findMatch r q o' customerId lane equipmentType with
    | none => simp
    | some b => simp
  | some a =>
    cases hother : findMatch r q o' customerId lane equipmentType with
    | none => simp
    | some b =>
      simp only [Option.map_some, Prod.mk.injEq, Option.some.injEq, and_iff_left_iff_imp]
      intro hid
      rw [List.inj_on_of_nodup_map hids (hmem o hfirst) (hmem o' hother) hid]

theorem resolveRate_order_free_iff
    (hrun : Run (Enabled (nextBook engine server)) ⟨organization, .empty⟩ calls book)
    (hread : r.rateAgreements = book.agreements.rows) (submittedRate : DecimalInput) :
    (∀ o o', resolveRate r q o customerId lane equipmentType submittedRate =
        resolveRate r q o' customerId lane equipmentType submittedRate) ↔
      ∀ a ∈ calls.filterMap (RateCall.agreement engine server), ∀ b ∈ calls.filterMap (RateCall.agreement engine server),
        Applies q customerId lane equipmentType a → Applies q customerId lane equipmentType b → a = b := by
  have hrows : r.rateAgreements = calls.filterMap (RateCall.agreement engine server) := by
    rw [hread, run_rows hrun, Table.empty, List.nil_append]
  have hids : (r.rateAgreements.map (·.id)).Nodup := hread ▸ book.agreements.nodup
  simp only [resolveRate_eq_iff hids, findMatch_eq]
  rw [first_hit_free_iff hids, hrows]
  refine forall₂_congr (fun a _ => forall₂_congr (fun b _ => ?_))
  simp only [Applies, and_imp]

end OrderFree

namespace Sample

open QuoteLoad.Sample

def acme : Customer where
  id := 7
  legalName := "Acme"
  billingAddressLine1 := "1 Main St"
  billingCity := "Dallas"
  billingState := "TX"
  billingZip := "75201"
  primaryContactEmail := "ops@acme.com"

def noAgreements : RateBook := ⟨{ organizationId := 1, documents := .empty, customers := ⟨[acme], by decide⟩ }, .empty⟩

def rateCall (n : ℕ) (originCity : String) (rate : DecimalInput) (effectiveDate : String) : RateCall where
  request := request n
  customerId := 7
  dto := { originCity, originState := "TX", destinationCity := "Austin", destinationState := "TX"
           equipmentType := .dryVan, rate, effectiveDate, expirationDate := some "2026-12-31" }

def firstTerms : RateCall := rateCall 1 "Fort Worth" ⟨"2450.00", 245000⟩ "2026-01-01"

def laterTerms : RateCall := rateCall 2 "FORT-WORTH" ⟨"2600.00", 260000⟩ "2026-06-01"

def bookAfter (calls : List RateCall) (h : (calls.foldlM (nextBook engine utc) noAgreements).isSome) : RateBook :=
  (calls.foldlM (nextBook engine utc) noAgreements).get h

lemma run_bookAfter (calls : List RateCall) (h : (calls.foldlM (nextBook engine utc) noAgreements).isSome) :
    calls.foldlM (nextBook engine utc) noAgreements = some (bookAfter calls h) := (Option.some_get h).symm

def octoberTerms : RateCall := rateCall 2 "FORT-WORTH" ⟨"2600.00", 260000⟩ "2026-10-01"

def oneInForce : RateBook := bookAfter [firstTerms, octoberTerms] (by decide +kernel)

def twoAgreements : RateBook := bookAfter [firstTerms, laterTerms] (by decide +kernel)

def september (book : RateBook) (o : RowOrder) : Option Uuid × RateSource :=
  resolveRate { reference with rateAgreements := book.agreements.rows } { request 3 with now := 1788287400000 } o 7
    ⟨"Fort Worth", "TX", "Austin", "TX"⟩ .dryVan ⟨"2450.00", 245000⟩

end Sample

open Sample QuoteLoad.Sample

instance (q : Request) (customerId : Uuid) (lane : Lane) (equipmentType : EquipmentType) (a : CustomerRateAgreement) :
    Decidable (Applies q customerId lane equipmentType a) :=
  inferInstanceAs (Decidable (inForce q customerId equipmentType a = true ∧ onLane lane a = true))

theorem resolveRate_order_free_sample : september oneInForce .stored = september oneInForce .reversed ∧
    oneInForce.agreements.rows.length = 2 ∧ september oneInForce .stored = (some 100, .rateAgreement) := by
  have hrun : Run (Enabled (nextBook engine utc)) noAgreements [firstTerms, octoberTerms] oneInForce :=
    (run_enabled_iff _ _ _ _).mpr (run_bookAfter _ _)
  refine ⟨(resolveRate_order_free_iff hrun rfl _).mpr ?_ .stored .reversed, by decide +kernel, by decide +kernel⟩
  decide +kernel

theorem two_agreements_apply :
    [firstTerms, laterTerms].foldlM (nextBook engine utc) noAgreements = some twoAgreements ∧
    september twoAgreements .stored = (some 100, .rateAgreement) ∧
    september twoAgreements .reversed = (some 200, .manualOverride) :=
  ⟨run_bookAfter _ _, by decide +kernel, by decide +kernel⟩

end Truckmaster.Customers
