import Truckmaster.QuoteLoad.QuoteSessions

namespace Truckmaster.QuoteLoad

open Common Fallible Tables RateAgreementMatchingService

def Coherent (agreements : List CustomerRateAgreement) (rateAgreementId : Option Uuid) (customerRate : Cents) :
    RateSource → Prop
  | .rateAgreement => ∃ a ∈ agreements, rateAgreementId = some a.id ∧ customerRate = a.rate
  | .manualOverride => ∃ a ∈ agreements, rateAgreementId = some a.id ∧ customerRate ≠ a.rate
  | .manual => rateAgreementId = none

section Coherent

variable {agreements : List CustomerRateAgreement} {customerRate confirmed : Cents} {r : Reference} {q : Request}
  {o : RowOrder} {customerId : Uuid} {lane : Lane} {equipmentType : EquipmentType} {a : CustomerRateAgreement}

lemma findMatch_mem (h : findMatch r q o customerId lane equipmentType = some a) : a ∈ r.rateAgreements := by
  have hmem := List.mem_of_find?_eq_some h
  rw [mem_findMany] at hmem
  exact hmem.1

lemma coherent_matched (hunique : (agreements.map CustomerRateAgreement.id).Nodup) (ha : a ∈ agreements) :
    Coherent agreements (some a.id) confirmed (if a.rate = customerRate then .rateAgreement else .manualOverride) ↔
      (a.rate = customerRate ↔ a.rate = confirmed) := by
  have honly (b : CustomerRateAgreement) (hb : b ∈ agreements) (hid : some a.id = some b.id) : a = b :=
    List.inj_on_of_nodup_map hunique ha hb (Option.some.inj hid)
  by_cases hsame : a.rate = customerRate
  · rw [if_pos hsame, iff_true_left hsame]
    constructor
    · rintro ⟨b, hb, hid, hrate⟩
      rw [honly b hb hid, hrate]
    · exact fun hrate => ⟨a, ha, rfl, hrate.symm⟩
  · rw [if_neg hsame, iff_false_left hsame]
    constructor
    · rintro ⟨b, hb, hid, hrate⟩ hconfirmed
      rw [honly b hb hid] at hconfirmed
      exact hrate hconfirmed.symm
    · exact fun hrate => ⟨a, ha, rfl, fun hconfirmed => hrate hconfirmed.symm⟩

lemma coherent_resolveRate {submittedRate : DecimalInput} (hunique : (agreements.map CustomerRateAgreement.id).Nodup)
    (hkept : ∀ a ∈ r.rateAgreements, a ∈ agreements) :
    Coherent agreements (resolveRate r q o customerId lane equipmentType submittedRate).1 confirmed
        (resolveRate r q o customerId lane equipmentType submittedRate).2 ↔
      ∀ a, findMatch r q o customerId lane equipmentType = some a → (a.rate = submittedRate.cents ↔ a.rate = confirmed) := by
  unfold resolveRate
  cases hmatch : findMatch r q o customerId lane equipmentType with
  | none => simp [Coherent]
  | some a => simpa using coherent_matched hunique (hkept a (findMatch_mem hmatch))

end Coherent

def CreateQuoteInput.lane (dto : CreateQuoteInput) : Option Lane := do
  let firstPickup ← firstStop QuoteService.isPickup (fun a b => a.sequence ≤ b.sequence) dto.stops
  let lastDelivery ← firstStop QuoteService.isDelivery (fun a b => b.sequence ≤ a.sequence) dto.stops
  some ⟨firstPickup.addressCity, firstPickup.addressState, lastDelivery.addressCity, lastDelivery.addressState⟩

inductive Booking
  | direct (r : Reference) (q : Request) (dto : CreateLoadInput)
  | converted (r : Reference) (q : Request) (dto : CreateQuoteInput) (r' : Reference) (q' : Request)
    (dto' : ConvertQuoteInput)

namespace Booking

def run : Booking → Except AppError LoadRows
  | direct r q dto => LoadService.createDirect r q dto
  | converted r q dto r' q' dto' => do
    let quote ← QuoteService.create r q dto
    let result ← QuoteService.convert r' q' (some quote) dto'
    pure result.2

def reference : Booking → Reference
  | direct r _ _ => r
  | converted r _ _ _ _ _ => r

/-- The confirmed rate is that of the matched agreement just where the quoted rate is. -/
def KeepsSource : Booking → Prop
  | direct _ _ _ => True
  | converted r q dto _ _ dto' => ∀ lane a, dto.lane = some lane →
    findMatch r q (q.order 0) dto.customerId lane dto.equipmentType = some a →
    (a.rate = dto.customerRate.cents ↔ a.rate = dto'.confirmedCustomerRate.cents)

end Booking

section Bookings

variable {r r' : Reference} {q q' : Request} {rows : LoadRows} {quote quote' : QuoteRows}

lemma createDirect_rate {dto : CreateLoadInput} (h : LoadService.createDirect r q dto = .ok rows) : ∃ lane,
    let rate := resolveRate r q (q.order 0) dto.customerId lane dto.equipmentType dto.customerRate
    rows.load.rateAgreementId = rate.1 ∧ rows.load.rateSource = rate.2 ∧
      rows.load.customerRate = dto.customerRate.cents := by
  simp only [LoadService.createDirect, bind_eq_ok, require_eq_ok] at h
  obtain ⟨firstPickup, _, lastDelivery, _, _, _, _, _, hbooking⟩ := h
  obtain ⟨hload, _⟩ := createFromBooking_ok hbooking
  rw [hload]
  exact ⟨_, rfl, rfl, rfl⟩

lemma create_rate {dto : CreateQuoteInput} (h : QuoteService.create r q dto = .ok quote) : ∃ lane,
    let rate := resolveRate r q (q.order 0) dto.customerId lane dto.equipmentType dto.customerRate
    dto.lane = some lane ∧ quote.quote.rateAgreementId = rate.1 ∧ quote.quote.rateSource = rate.2 := by
  simp only [QuoteService.create, bind_eq_ok, require_eq_ok, ensure_eq_ok, pure_eq_ok] at h
  obtain ⟨firstPickup, hpickup, lastDelivery, hdelivery, _, _, _, _, _, _, _, _, _, _, rfl⟩ := h
  exact ⟨_, by simp [CreateQuoteInput.lane, hpickup, hdelivery], rfl, rfl⟩

lemma convert_rate {dto : ConvertQuoteInput} (h : QuoteService.convert r q (some quote) dto = .ok (quote', rows)) :
    rows.load.rateAgreementId = quote.quote.rateAgreementId ∧ rows.load.rateSource = quote.quote.rateSource ∧
      rows.load.customerRate = dto.confirmedCustomerRate.cents := by
  simp only [QuoteService.convert, bind_eq_ok, require_eq_ok, ensure_eq_ok, pure_eq_ok, Prod.mk.injEq] at h
  obtain ⟨_, hquote, _, _, _, _, _, _, load, hbooking, _, rfl⟩ := h
  obtain rfl := Option.some.inj hquote
  rw [(createFromBooking_ok hbooking).1]
  exact ⟨rfl, rfl, rfl⟩

end Bookings

theorem rate_source_coherent {b : Booking} {rows : LoadRows} {agreements : List CustomerRateAgreement}
    (h : b.run = .ok rows) (hunique : (agreements.map CustomerRateAgreement.id).Nodup)
    (hkept : ∀ a ∈ b.reference.rateAgreements, a ∈ agreements) :
    Coherent agreements rows.load.rateAgreementId rows.load.customerRate rows.load.rateSource ↔ b.KeepsSource := by
  cases b with
  | direct r q dto =>
    obtain ⟨lane, hid, hsource, hrate⟩ := createDirect_rate h
    rw [hid, hsource, hrate]
    refine (coherent_resolveRate hunique hkept).trans ?_
    exact iff_of_true (fun _ _ => Iff.rfl) trivial
  | converted r q dto r' q' dto' =>
    simp only [Booking.run, bind_eq_ok, pure_eq_ok] at h
    obtain ⟨quote, hquote, ⟨quote', rows⟩, hconvert, rfl⟩ := h
    obtain ⟨lane, hlane, hid, hsource⟩ := create_rate hquote
    obtain ⟨hcopiedId, hcopiedSource, hrate⟩ := convert_rate hconvert
    rw [hcopiedId, hcopiedSource, hrate, hid, hsource]
    refine (coherent_resolveRate hunique hkept).trans ?_
    constructor
    · intro hall lane' a hlane' hmatch
      obtain rfl := Option.some.inj (hlane.symm.trans hlane')
      exact hall a hmatch
    · exact fun hall a hmatch => hall lane a hlane hmatch

namespace Sample

def agreement : CustomerRateAgreement := ⟨11, 7, "Dallas", "TX", "Austin", "TX", .dryVan, 245000, 0, none⟩

def agreedReference : Reference := { reference with rateAgreements := [agreement] }

def requote (quoted confirmed : DecimalInput) : Booking :=
  .converted agreedReference (request 1) { quoteInput with customerRate := quoted } agreedReference (request 40)
    { confirmedCustomerRate := confirmed }

def agreedRate : DecimalInput := ⟨"2450.00", 245000⟩

def otherRate : DecimalInput := ⟨"2600.00", 260000⟩

def raised : LoadRows := accepted (requote agreedRate otherRate).run (by decide +kernel)

def lowered : LoadRows := accepted (requote otherRate agreedRate).run (by decide +kernel)

end Sample

open Sample

theorem rate_source_coherent_sample : ∃ rows, (requote agreedRate agreedRate).run = .ok rows ∧
    Coherent [agreement] rows.load.rateAgreementId rows.load.customerRate rows.load.rateSource := by
  have haccepted : (requote agreedRate agreedRate).run.toOption.isSome := by decide +kernel
  have hsame : (requote agreedRate agreedRate).KeepsSource := fun _ _ _ _ => Iff.rfl
  refine ⟨_, eq_accepted haccepted, ?_⟩
  exact (rate_source_coherent (eq_accepted haccepted) (by decide) (fun a ha => ha)).mpr hsame

theorem rate_source_outdated :
    (requote agreedRate otherRate).run = .ok raised ∧ (requote otherRate agreedRate).run = .ok lowered ∧
    ¬ Coherent [agreement] raised.load.rateAgreementId raised.load.customerRate raised.load.rateSource ∧
    ¬ Coherent [agreement] lowered.load.rateAgreementId lowered.load.customerRate lowered.load.rateSource := by
  have hraised : raised.load.rateSource = .rateAgreement ∧ raised.load.customerRate = 260000 := by decide +kernel
  have hlowered : lowered.load.rateSource = .manualOverride ∧ lowered.load.customerRate = 245000 := by decide +kernel
  refine ⟨eq_accepted _, eq_accepted _, ?_, ?_⟩
  · rw [hraised.1, hraised.2]
    rintro ⟨a, ha, _, hrate⟩
    rw [List.mem_singleton.mp ha] at hrate
    exact absurd hrate (by decide)
  · rw [hlowered.1, hlowered.2]
    rintro ⟨a, ha, _, hrate⟩
    rw [List.mem_singleton.mp ha] at hrate
    exact hrate rfl

end Truckmaster.QuoteLoad
